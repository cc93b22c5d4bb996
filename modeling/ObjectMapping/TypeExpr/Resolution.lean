import ObjectMapping.TypeExpr.Formation

/-!
# Resolving texts in declared types

A declared type may be a text, or hold texts, that stand for types which are
known only later. There are two ways to resolve them. The annotation of a class
is resolved on the surface: a text becomes what it stands for, once. The result
type of a getter is resolved in depth: every text at every level, again and
again, and afterwards without annotations.

A text that leads back to itself is left as a reference.
-/

namespace ObjectMapping

namespace TypeExpr

/-- The annotation of a class with a text replaced by what it stands for. -/
def resolveSurface : TypeExpr → Except EvaluationError TypeExpr
  | .text .free _ meaning => .ok meaning
  | .brokenText .free _ error => .error error
  | t => .ok t

/-- Null in the place of a type stands for its class. -/
def nullAsClass : TypeExpr → TypeExpr
  | .none => noneType
  | t => t

/-- A form of the type language that a text may not stand for. Class-level
forms are allowed under annotations; other bare forms never are. -/
def isRefused (classLevelAllowed : Bool) : TypeExpr → Bool
  | .generic (.qualifier .classVar) _ | .generic (.qualifier .final) _ => !classLevelAllowed
  | .annotated (.form .classVar) _ | .annotated (.form .final) _ => !classLevelAllowed
  | .form .classVar | .form .final => !classLevelAllowed
  | .form .list | .form .dict => false
  | .form _ => true
  | _ => false

/-- A text directly among the arguments is not well formed. -/
def holdsMalformed : List TypeExpr → Bool
  | [] => false
  | .brokenText .free _ .malformed :: _ => true
  | _ :: rest => holdsMalformed rest

end TypeExpr

/-- Class-level forms are allowed for a text in this place; a free text takes
over what its surroundings allow. -/
def TextPlace.allowsClassLevel (surroundings : Bool) : TextPlace → Bool
  | .free => surroundings
  | .argument => false
  | .annotated => true

/-- The place of a reference, by whether class-level forms are allowed there. -/
def TextPlace.reference (classLevelAllowed : Bool) : TextPlace :=
  if classLevelAllowed then .annotated else .argument

namespace TypeExpr

mutual

/-- Replaces every text of a type by what it stands for, at every level. The
list holds the texts that are being replaced further out. -/
def resolveDeep (pending : List String) (classLevelAllowed : Bool) :
    TypeExpr → Except EvaluationError TypeExpr
  | .text place source meaning =>
      let allowed := place.allowsClassLevel classLevelAllowed
      if pending.contains source then
        .ok (.text (.reference allowed) source meaning)
      else if isRefused allowed meaning then
        .error (.invalidOperation source)
      else
        (resolveDeep (source :: pending) allowed meaning).map nullAsClass
  | .brokenText _ _ error => .error error
  | .generic (.container c) arguments =>
      if holdsMalformed arguments then
        .error .malformed
      else
        (resolveDeepAll pending arguments).map (.generic (.container c))
  | .generic head arguments =>
      (resolveDeepAll pending arguments).map (.generic head)
  | .union spelling members =>
      (resolveDeepAll pending members).map (reunite spelling)
  | .annotated inner metadata =>
      (resolveDeep pending true inner).map fun resolved => annotate resolved metadata
  | t => .ok t
termination_by structural t => t

/-- Replaces every text in a list of arguments. -/
def resolveDeepAll (pending : List String) :
    List TypeExpr → Except EvaluationError (List TypeExpr)
  | [] => .ok []
  | first :: rest => do
      let resolved ← resolveDeep pending false first
      return resolved :: (← resolveDeepAll pending rest)

end

mutual

/-- A type without annotations at any level, and without the qualifiers that
say whether a member is required. A union must not get a class-level member by
that. -/
def stripped : TypeExpr → Except EvaluationError TypeExpr
  | .annotated inner _ => stripped inner
  | .generic (.qualifier .required) [inner] => stripped inner
  | .generic (.qualifier .notRequired) [inner] => stripped inner
  | .generic head arguments => (strippedAll arguments).map (.generic head)
  | .union spelling members => do
      let members ← strippedAll members
      if members.any (isRefused false) then
        throw (.invalidOperation "")
      else
        return reunite spelling members
  | t => .ok t
termination_by structural t => t

/-- Each type of a list without annotations. -/
def strippedAll : List TypeExpr → Except EvaluationError (List TypeExpr)
  | [] => .ok []
  | first :: rest => do
      let first ← stripped first
      return first :: (← strippedAll rest)

end

/-- A type with every text resolved; null stands for its class. -/
def resolved (classLevelAllowed : Bool) (t : TypeExpr) : Except EvaluationError TypeExpr :=
  (resolveDeep [] classLevelAllowed t).map nullAsClass

/-- The result type of a getter. A type that cannot be resolved for a tolerated
reason is taken as it is written. -/
def asResult (t : TypeExpr) : Except EvaluationError TypeExpr :=
  match t.resolved false >>= stripped with
  | .ok result => .ok result
  | .error error => if error.isTolerated then .ok t else .error error

end TypeExpr

end ObjectMapping
