import ObjectMapping.Class.Table

/-!
# Complete models

A model can only check values once everything that its fields lead to is known:
each text in a declared type has a meaning, and so has each text of the models
and records behind those types. Nothing is asked of other classes.
-/

namespace ObjectMapping

namespace ClassTable

variable {β : Type} [Inhabited β] (classes : ClassTable β)

/-- The types of all fields of a model or a record. -/
def fieldTypesOf (c : ClassId) : List TypeExpr :=
  match classes.modelLayout? c, classes.recordLayout? c with
  | some layout, _ => layout.fields.map (·.type)
  | none, some layout => (layout.fields.filter (·.kind != .classLevel)).map (·.declared)
  | none, none => []

/-- The classes that the fields of a class mention; nothing when some text among
them has no meaning yet. -/
def mentionedBy? (c : ClassId) : Option (List ClassId) :=
  let types := classes.fieldTypesOf c
  if types.all (·.isResolvableAmong classes.classes.size) then
    some (types.filterMap (·.mentions?)).flatten
  else none

/-- All that some classes lead to is known, for at most the given number of
classes beyond those that are seen already. -/
def areKnown : Nat → List ClassId → List ClassId → Bool
  | _, _, [] => true
  | 0, _, _ => true
  | steps + 1, seen, c :: pending =>
      if seen.contains c then areKnown steps seen pending
      else
        match classes.mentionedBy? c with
        | some mentioned => areKnown steps (c :: seen) (mentioned ++ pending)
        | none => false

/-- The number of classes that are looked at, when each names all that its
fields mention. -/
def knowledgeBound : Nat :=
  classes.classes.foldl
    (fun bound c => bound + 1 + ((classes.mentionedBy? c.name.id).getD []).length) 1

/-- All that a class leads to is known. -/
def isKnown (c : ClassId) : Bool :=
  classes.areKnown (classes.knowledgeBound + 1) [] [c]

end ClassTable

end ObjectMapping
