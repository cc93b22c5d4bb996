import ObjectMapping.TypeExpr.Basic

/-!
# Sameness of types

Two expressions are the same type when they are built alike from the same
classes, with three liberties: a union is the set of its members in either
spelling, a literal type is the set of its values, and annotations are compared
as values, which can be hashed. A text is the same as an equal text that is held
the same way, by itself or by reference. What it resolves to does not count, as
long as equal texts resolve to one type.
-/

namespace ObjectMapping

/-- Two lists of constants agree place by place. -/
def Scalar.agreeAll : List Scalar → List Scalar → Bool
  | [], [] => true
  | first :: rest, first' :: rest' => first.agrees first' && agreeAll rest rest'
  | _, _ => false

/-- Two lists hold the same constants, truth values apart from numbers. -/
def Scalar.sameSet (left right : List Scalar) : Bool :=
  left.all right.contains && right.all left.contains

/-- A text that stands free is held by itself, any other by reference. -/
def TextPlace.isReference : TextPlace → Bool
  | .free => false
  | .argument | .annotated => true

namespace TypeExpr

/-- The text that an expression is, with the way in which it is held. -/
def text? : TypeExpr → Option (Bool × String)
  | .text place source _ | .brokenText place source _ => some (place.isReference, source)
  | _ => Option.none

mutual

/-- Two expressions are the same type. -/
def same : TypeExpr → TypeExpr → Bool
  | .named c, .named c' => c.id == c'.id
  | .any, .any => true
  | .none, .none => true
  | .ellipsis, .ellipsis => true
  | .form f, .form f' => f == f'
  | .generic h arguments, .generic h' arguments' => h == h' && sameAll arguments arguments'
  | .union _ members, .union _ members' =>
      within members members' && members'.all fun member => holds members member
  | .annotated inner metadata, .annotated inner' metadata' =>
      same inner inner' && Scalar.agreeAll metadata metadata'
  | .literal values, .literal values' => Scalar.sameSet values values'
  | .typeVar name, .typeVar name' => name == name'
  | .initOnly mark _, .initOnly mark' _ => mark == mark'
  | .text place source _, t => t.text? == some (place.isReference, source)
  | .brokenText place source _, t => t.text? == some (place.isReference, source)
  | .other written, .other written' => written == written'
  | _, _ => false
termination_by structural t => t

/-- Two lists are the same types place by place. -/
def sameAll : List TypeExpr → List TypeExpr → Bool
  | [], [] => true
  | first :: rest, first' :: rest' => same first first' && sameAll rest rest'
  | _, _ => false

/-- Every type of the first list is the same as some type of the second. -/
def within : List TypeExpr → List TypeExpr → Bool
  | [], _ => true
  | first :: rest, members => (members.any fun member => same first member) && within rest members

/-- Some type of the list is the same as the given one. -/
def holds : List TypeExpr → TypeExpr → Bool
  | [], _ => false
  | first :: rest, member => same first member || holds rest member

end

/-- Every use of the expression makes a type of its own. -/
def isMadeAnew : TypeExpr → Bool
  | .generic (.container _) _ | .union .bars _ | .initOnly _ _ => true
  | _ => false

/-- Two expressions that are the same type are also spelled alike: the members
of a union and the values of a literal type stand in the same order. -/
def isSpelledLike : TypeExpr → TypeExpr → Bool
  | .union spelling members, .union spelling' members' =>
      spelling == spelling' && sameAll members members'
  | .literal values, .literal values' => values == values'
  | t, t' => t.same t'

end TypeExpr

end ObjectMapping
