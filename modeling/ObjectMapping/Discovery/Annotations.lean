import ObjectMapping.Discovery.Combination
import ObjectMapping.Log
import ObjectMapping.TypeExpr.Resolution
import ObjectMapping.TypeExpr.Unwrapping

/-!
# Declared types of class members

The annotations of a class, with texts resolved, and the result types of its
properties. Annotations are gathered along the line of ancestors: a name stands
where the least derived class declares it first, and has the type that the most
derived class declares. A class of which some text cannot be resolved for a
tolerated reason contributes all its annotations as they are written.
-/

namespace ObjectMapping

/-- The part of the program that reports declared types. -/
def annotationsLogger : String := "fluentmap._types.forward_refs"

/-- Names that start with an underscore are private to their class. -/
def isPublic (name : String) : Bool :=
  !name.startsWith "_"

/-- Resolves the annotations of one class; the first one, in order, that cannot
be resolved decides the error. -/
def resolveEntries : Entries String TypeExpr → Except EvaluationError (Entries String TypeExpr)
  | [] => .ok []
  | (name, declared) :: rest => do
      let resolved ← declared.resolveSurface
      return (name, resolved) :: (← resolveEntries rest)

/-- The result type of a getter. A getter that declares none has the type of all
values. -/
def resultType {β : Type} (getter : Getter β) : Logged EvaluationError TypeExpr :=
  match getter.result? with
  | some declared => ExceptT.mk (pure declared.asResult)
  | none => do
      Logged.record .warning annotationsLogger
        (getter.label ++ " has no return annotation; its value type will be treated as Any")
      return .any

namespace ClassTable

variable {β : Type} [Inhabited β] (classes : ClassTable β)

/-- The annotations that a class declares itself, resolved. -/
def ownAnnotations (c : ClassId) : Except EvaluationError (Entries String TypeExpr) :=
  resolveEntries (classes.info c).annotations

/-- The annotations that a class contributes: resolved, or all as they are written. -/
def contributedAnnotations (c : ClassInfo β) :
    Logged EvaluationError (Entries String TypeExpr) :=
  match resolveEntries c.annotations with
  | .ok resolved => return resolved
  | .error error => do
      if error.isTolerated then
        Logged.record .debug annotationsLogger
          ("Using unevaluated annotations of " ++ c.name.qualname ++ ": " ++ error.message classes)
        return c.annotations
      else
        throw error

/-- The annotations of a class and its ancestors. -/
def classAnnotations (c : ClassId) : Logged EvaluationError (Entries String TypeExpr) :=
  (classes.line c).reverse.foldlM
    (fun gathered ancestor => do
      return Entries.merge gathered (← classes.contributedAnnotations ancestor))
    []

/-- The public annotations that describe each instance. -/
def instanceEntries (annotations : Entries String TypeExpr) : Entries String TypeExpr :=
  annotations.filter fun entry => isPublic entry.1 && !entry.2.isClassLevel

/-- The public annotations of a class and its ancestors that describe each instance. -/
def instanceAnnotations (c : ClassId) : Logged EvaluationError (Entries String TypeExpr) := do
  return instanceEntries (← classes.classAnnotations c)

/-- The public properties of one class. -/
def ownPublicProperties (c : ClassInfo β) : Entries String (Property β) :=
  c.members.filterMap fun entry =>
    if isPublic entry.1 then entry.2.property?.map fun p => (entry.1, p) else none

/-- The public properties of a class and its ancestors; that of the most derived
class counts. -/
def publicProperties (c : ClassId) : Entries String (Property β) :=
  (classes.line c).reverse.foldl
    (fun gathered ancestor => Entries.merge gathered (ownPublicProperties ancestor))
    []

/-- The interfaces among a class and its ancestors, the most derived first. -/
def interfaceLine (c : ClassId) : List (ClassInfo β) :=
  (classes.line c).filter (·.isInterface)

/-- The result types of the properties that satisfy a condition and can be read. -/
def resultTypes (accepts : Property β → Bool) (properties : Entries String (Property β)) :
    Logged EvaluationError (Entries String TypeExpr) :=
  match properties with
  | [] => return []
  | (name, p) :: rest => do
      match p.getter? with
      | some getter =>
          if accepts p then
            let type ← resultType getter
            return (name, type) :: (← resultTypes accepts rest)
          else
            resultTypes accepts rest
      | none => resultTypes accepts rest

end ClassTable

/-- The property can be written. -/
def Property.isWritable {β : Type} (p : Property β) : Bool :=
  p.setter?.isSome

end ObjectMapping
