import ObjectMapping.TypeExpr.Formation
import ObjectMapping.TypeExpr.Printer

/-!
# Unwrapping declared types

A declared type may stand under a stack of wrappers: annotations, and
qualifiers, which are forms of one argument. Unwrapping takes the stack off.
It keeps the qualifiers from the outermost inwards and the annotations from the
innermost outwards. A class-level form that stands bare counts as a qualifier
of the type of all values.
-/

namespace ObjectMapping

/-- A declared type taken apart. -/
structure Unwrapped where
  /-- The type under all wrappers. -/
  core : TypeExpr
  /-- The qualifiers, outermost first. -/
  qualifiers : List TypeExpr
  /-- The annotations, innermost first. -/
  metadata : List Scalar
  deriving Repr, Inhabited

/-- A qualifier as it stands without its argument. -/
def Qualifier.bare : Qualifier → TypeExpr
  | .mapped => .standard .mapped
  | .required => .form .required
  | .notRequired => .form .notRequired
  | .classVar => .form .classVar
  | .final => .form .final

namespace TypeExpr

/-- The qualifiers of declarations. -/
def knownQualifiers : List TypeExpr :=
  [Qualifier.mapped, .required, .notRequired, .classVar, .final].map Qualifier.bare

/-- The forms that declare a member of the class itself and not of each instance. -/
def isClassLevelForm : TypeExpr → Bool
  | .form .classVar | .form .final => true
  | _ => false

end TypeExpr

/-- What a head is when it stands without its arguments. -/
def Head.bare : Head → TypeExpr
  | .container c => .standard c.standardClass
  | .listAlias => .standard .list
  | .dictAlias => .standard .dict
  | .qualifier q => q.bare
  | .callable => .form .callable

namespace TypeExpr

/-- Takes a declared type apart, with the given forms as its qualifiers. -/
def unwrapWith (qualifiers : List TypeExpr) : TypeExpr → Unwrapped
  | .form f =>
      if isClassLevelForm (.form f) then ⟨.any, [.form f], []⟩ else ⟨.form f, [], []⟩
  | .annotated inner metadata =>
      let under := unwrapWith qualifiers inner
      { under with metadata := under.metadata ++ metadata }
  | .generic head [inner] =>
      if holds qualifiers head.bare then
        let under := unwrapWith qualifiers inner
        { under with qualifiers := head.bare :: under.qualifiers }
      else
        ⟨.generic head [inner], [], []⟩
  | .literal [value] =>
      if holds qualifiers (.form .literal) then
        ⟨.other value.written, [.form .literal], []⟩
      else
        ⟨.literal [value], [], []⟩
  | t => ⟨t, [], []⟩
termination_by structural t => t

/-- Takes a declared type apart. -/
def unwrap (t : TypeExpr) : Unwrapped :=
  unwrapWith knownQualifiers t

/-- The type under all wrappers. -/
def core (t : TypeExpr) : TypeExpr :=
  t.unwrap.core

/-- Two declared types agree when the types under their wrappers are the same. -/
def agrees (left right : TypeExpr) : Bool :=
  same left.core right.core

end TypeExpr

/-- The type is declared for the class itself and not for each instance. -/
def Unwrapped.isClassLevel (unwrapped : Unwrapped) : Bool :=
  unwrapped.qualifiers.any TypeExpr.isClassLevelForm

/-- The type declares a member of the class itself and not of each instance. -/
def TypeExpr.isClassLevel (t : TypeExpr) : Bool :=
  t.unwrap.isClassLevel

end ObjectMapping
