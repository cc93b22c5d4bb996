import ObjectMapping.Collection.Grouping
import ObjectMapping.TypeExpr.Basic
import ObjectMapping.Value.Run

/-!
# Keys of plain data

Grouping and the search for duplicates over plain data. Only constants serve as
keys; lists and records do not. A search compares the keys, so that it fails
when they are of different kinds: null, texts and numbers have no common order.
-/

namespace ObjectMapping

/-- Plain data. -/
inductive Datum where
  | plain (value : Scalar)
  | list (items : List Datum)
  | record (fields : List (String × Datum))
  deriving Inhabited

/-- What is taken of a value as its key. -/
inductive KeySource where
  | itself
  | firstCharacter
  | lastCharacter
  | length
  /-- The same key for all. -/
  | constant
  | firstElement
  deriving DecidableEq, Repr, Inhabited

/-- A constant that serves as a key. -/
structure Key where
  value : Scalar
  deriving Inhabited

namespace Key

/-- Keys are equal as values. -/
instance : BEq Key := ⟨fun left right => left.value.agrees right.value⟩

/-- The kinds of keys that have an order among themselves. -/
def kind (key : Key) : Nat :=
  match key.value with
  | .null => 0
  | .str _ => 1
  | .bool _ | .int _ => 2

/-- The order of keys: texts by their characters, numbers by what they count. -/
def le (left right : Key) : Bool :=
  match left.value, right.value with
  | .str s, .str t => decide (s ≤ t)
  | l, r => decide ((l.number?.getD 0) ≤ (r.number?.getD 0))

instance : LE Key := ⟨fun left right => le left right = true⟩

instance : DecidableLE Key := fun left right => inferInstanceAs (Decidable (le left right = true))

end Key

namespace Datum

/-- The datum as a key. -/
def asKey : Datum → Except Fault Key
  | .plain value => .ok ⟨value⟩
  | _ => .error .badOperand

/-- A part of a text as a key. -/
def characterKey (take : List Char → List Char) : Datum → Except Fault Key
  | .plain (.str s) => .ok ⟨.str (String.ofList (take s.toList))⟩
  | _ => .error .badOperand

/-- The number of parts of a datum as a key. -/
def lengthKey : Datum → Except Fault Key
  | .plain (.str s) => .ok ⟨.int s.length⟩
  | .list items => .ok ⟨.int items.length⟩
  | .record fields => .ok ⟨.int fields.length⟩
  | .plain _ => .error .badOperand

/-- The first part of a datum as a key. -/
def elementKey : Datum → Except Fault Key
  | .list (first :: _) => first.asKey
  | .plain (.str s) =>
      match s.toList with
      | c :: _ => .ok ⟨.str (String.singleton c)⟩
      | [] => .error .indexOutOfRange
  | .list [] => .error .indexOutOfRange
  | .record _ => .error .noKey
  | .plain _ => .error .badOperand

/-- The key of a datum. -/
def keyBy : KeySource → Datum → Except Fault Key
  | .itself => asKey
  | .firstCharacter => characterKey (·.take 1)
  | .lastCharacter => characterKey fun chars => chars.reverse.take 1
  | .length => lengthKey
  | .constant => fun _ => .ok ⟨.null⟩
  | .firstElement => elementKey

end Datum

/-- Keys can be put in order: there is only one, or all are of one kind. -/
def areOrdered (keys : List Key) : Bool :=
  match keys with
  | [] => true
  | first :: rest => rest.all fun key => key == first || (key.kind == first.kind)

variable {ν : Type}

/-- Collects the values of each key. -/
def groupByKey (pairs : List (Datum × ν)) : Except Fault (Entries Key (List ν)) := do
  return groupPairs (← pairs.mapM fun pair => do return (← pair.1.asKey, pair.2))

/-- The first two values of the least key that two values share. -/
def firstDuplicateBy? (source : KeySource) (datum : ν → Datum) (values : List ν) :
    Except Fault (Option (ν × ν)) := do
  let keyed ← values.mapM fun v => do return (← (datum v).keyBy source, v)
  if areOrdered (keyed.map (·.1)) then
    return (firstDuplicate? Prod.fst keyed).map fun pair => (pair.1.2, pair.2.2)
  else
    throw .badOperand

end ObjectMapping
