import ObjectMapping.Number.Floating
import ObjectMapping.TypeExpr.Sameness

/-!
# Values

What properties hold. Plain values are what they are written as. Objects that
can change live at an address of the heap, and a value only refers to them, so
that two references to one address see the same changes.

Plain values can be equal without being one and the same: each making of a
larger value is a value of its own, told apart by a mark. Small values exist
only once, whatever their mark.
-/

namespace ObjectMapping

/-- Which making of a plain value it is. -/
inductive Making where
  /-- There is only one. -/
  | shared
  /-- The value is written at a place of a program. -/
  | written (place : Nat)
  /-- A run has made the value. -/
  | made (serial : Nat)
  /-- The value pairs a source with its context, after so many makings. -/
  | paired (makings : Nat)
  deriving DecidableEq, Repr, Inhabited

/-- A value. -/
inductive Value where
  | null
  | bool (value : Bool)
  | int (value : Int) (making : Making)
  | float (value : Floating) (making : Making)
  /-- A byte string by its hexadecimal digits. -/
  | bytes (digits : String) (making : Making)
  | str (value : String) (making : Making)
  | tuple (items : List Value) (making : Making)
  | type (t : TypeExpr) (making : Making)
  /-- A value of a standard class that never changes, by its parts. -/
  | standard (c : StandardClass) (parts : List Value) (making : Making)
  /-- A member of a class itself, as opposed to what reading it gives. -/
  | member (kind : StandardClass) (owner : ClassId) (name : String)
  | object (address : Nat)
  deriving Inhabited

/-- A type as a value: the null value and a text stand for themselves. -/
def TypeExpr.asValue (t : TypeExpr) (making : Making) : Value :=
  match t with
  | .none => .null
  | .text _ source _ | .brokenText _ source _ => .str source making
  | t => .type t making

namespace Value

/-- A text of which there is only one. -/
def text (s : String) : Value :=
  .str s .shared

/-- A number of which there is only one. -/
def number (n : Int) : Value :=
  .int n .shared

/-- A class as a value. -/
def ofClass (c : ClassName) : Value :=
  .type (.named c) .shared

/-- The number that a truth value counts as, or the number itself. -/
def number? : Value → Option Int
  | .bool value => some (if value then 1 else 0)
  | .int value _ => some value
  | _ => none

/-- The whole number that a value equals as a key. -/
def wholeNumber? : Value → Option Int
  | .float value _ => value.toInt?
  | v => v.number?

mutual

/-- Equality of values as keys: numbers are equal by what they count, whatever
their kind, and an object only equals itself. -/
def agrees : Value → Value → Bool
  | .tuple items _, .tuple items' _ => agreeAll items items'
  | .null, .null => true
  | .float value making, .float value' making' =>
      value.agrees value' || (value == .undefined && value' == .undefined && making == making')
  | .bytes digits _, .bytes digits' _ => digits == digits'
  | .str value _, .str value' _ => value == value'
  | .type t _, .type t' _ => t.same t'
  | .standard c parts _, .standard c' parts' _ => c == c' && agreeAll parts parts'
  | .member kind owner name, .member kind' owner' name' =>
      kind == kind' && owner == owner' && name == name'
  | .object address, .object address' => address == address'
  | .float value _, v => value.toInt?.isSome && value.toInt? == v.number?
  | .bool value, v => v.wholeNumber? == some (if value then 1 else 0)
  | .int value _, v => v.wholeNumber? == some value
  | _, _ => false
termination_by structural v => v

/-- Two lists of values agree place by place. -/
def agreeAll : List Value → List Value → Bool
  | [], [] => true
  | first :: rest, first' :: rest' => agrees first first' && agreeAll rest rest'
  | _, _ => false

end

/-- A number of which there is only one value, however often it is made. -/
def isSmallNumber (n : Int) : Bool :=
  -5 ≤ n && n ≤ 256

/-- A text of which there is only one value, however often it is made. -/
def isSmallText (s : String) : Bool :=
  match s.toList with
  | [] => true
  | [c] => c.toNat < 256
  | _ => false

mutual

/-- Two values are one and the same: one object, or one making of a plain value. -/
def identical : Value → Value → Bool
  | .tuple items making, .tuple items' making' =>
      (items.isEmpty || making == making') && identicalAll items items'
  | .null, .null => true
  | .bool value, .bool value' => value == value'
  | .int value making, .int value' making' =>
      value == value' && (isSmallNumber value || making == making')
  | .float value making, .float value' making' => value == value' && making == making'
  | .bytes digits making, .bytes digits' making' =>
      digits == digits' && (digits.length ≤ 2 || making == making')
  | .str value making, .str value' making' =>
      value == value' && (isSmallText value || making == making')
  | .type t making, .type t' making' =>
      t.isSpelledLike t' && (!t.isMadeAnew || making == making')
  | .standard c parts making, .standard c' parts' making' =>
      c == c' && making == making' && identicalAll parts parts'
  | .member kind owner name, .member kind' owner' name' =>
      kind == kind' && owner == owner' && name == name'
  | .object address, .object address' => address == address'
  | _, _ => false
termination_by structural v => v

/-- Two lists hold the same values place by place. -/
def identicalAll : List Value → List Value → Bool
  | [], [] => true
  | first :: rest, first' :: rest' => identical first first' && identicalAll rest rest'
  | _, _ => false

end

/-- Values are compared as keys. -/
instance : BEq Value := ⟨agrees⟩

end Value

end ObjectMapping
