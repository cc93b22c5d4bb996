import ObjectMapping.TypeExpr.Sameness

/-!
# Forming types

The constructors that keep type expressions in their normal form. An argument
of a form of the type language stands for null by the class of null, and holds
a text by reference. A union has no union among its members and no member
twice, and a union of one member is that member. Annotations of an annotated
type join those that it has.
-/

namespace ObjectMapping

namespace TypeExpr

/-- A type in the place of an argument of a form of the type language. -/
def asArgument : TypeExpr → TypeExpr
  | .none => noneType
  | .text .free source meaning => .text .argument source meaning
  | .brokenText .free source error => .brokenText .argument source error
  | t => t

/-- A type in the place under annotations. -/
def underAnnotations : TypeExpr → TypeExpr
  | .none => noneType
  | .text .free source meaning => .text .annotated source meaning
  | .brokenText .free source error => .brokenText .annotated source error
  | t => t

/-- The members that a type contributes to a union. -/
def unionMembers : TypeExpr → List TypeExpr
  | .union _ members => members
  | t => [t]

/-- A list of types without those that are the same as an earlier one. -/
def distinct (members : List TypeExpr) : List TypeExpr :=
  members.foldl
    (fun kept member => if holds kept member then kept else kept ++ [member])
    []

/-- The union of some types in a spelling. -/
def unionOf (spelling : UnionSpelling) (members : List TypeExpr) : TypeExpr :=
  match distinct (members.flatMap unionMembers) with
  | [member] => member
  | distinctMembers => .union spelling distinctMembers

/-- The union written between brackets. -/
def bracketUnion (members : List TypeExpr) : TypeExpr :=
  unionOf .brackets (members.map asArgument)

/-- A type or null. -/
def optional (t : TypeExpr) : TypeExpr :=
  bracketUnion [t, .none]

/-- A bar may join the type without making the union one between brackets:
classes, null, containers and unions that are joined by bars. -/
def joinsByBar : TypeExpr → Bool
  | .named _ | .any | .none => true
  | .generic (.container _) _ => true
  | .union .bars _ => true
  | _ => false

/-- Null in an operand of a bar stands for its class. -/
def barOperand : TypeExpr → TypeExpr
  | .none => noneType
  | t => t

/-- The union of two types joined by a bar. -/
def bar (left right : TypeExpr) : TypeExpr :=
  if left.joinsByBar && right.joinsByBar then
    unionOf .bars [left.barOperand, right.barOperand]
  else
    bracketUnion [left, right]

/-- Types joined by bars from left to right. -/
def bars : List TypeExpr → TypeExpr
  | [] => .union .bars []
  | first :: rest => rest.foldl bar first

/-- A type with annotations. -/
def annotate (inner : TypeExpr) (metadata : List Scalar) : TypeExpr :=
  match inner.underAnnotations with
  | .annotated innermost earlier => .annotated innermost (earlier ++ metadata)
  | t => .annotated t metadata

/-- The literal type of some values, each kept once. -/
def literalOf (values : List Scalar) : TypeExpr :=
  .literal <| values.foldl
    (fun kept value => if kept.contains value then kept else kept ++ [value])
    []

/-- A container class applied to types, which stay as they are. -/
def container (c : Container) (arguments : List TypeExpr) : TypeExpr :=
  .generic (.container c) arguments

/-- A head of the type language applied to types. -/
def applied (head : Head) (arguments : List TypeExpr) : TypeExpr :=
  .generic head (arguments.map asArgument)

/-- A type under a qualifier. -/
def qualified (qualifier : Qualifier) (inner : TypeExpr) : TypeExpr :=
  applied (.qualifier qualifier) [inner]

/-- The type of functions with the given parameters. -/
def function (parameters : List TypeExpr) (result : TypeExpr) : TypeExpr :=
  applied .callable (parameters ++ [result])

/-- A union of a spelling, formed again from types that may have changed. -/
def reunite (spelling : UnionSpelling) (members : List TypeExpr) : TypeExpr :=
  match spelling with
  | .bars => bars members
  | .brackets => bracketUnion members

end TypeExpr

end ObjectMapping
