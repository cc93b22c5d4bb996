import ObjectMapping.Collection.Entries

/-!
# Grouping and duplicates

Grouping collects the values of each key in the order in which they come, with
the keys in the order in which they were first seen. A duplicate is a key with
two values; of several the least key is reported, with its first two values.
The values themselves are never compared.
-/

namespace ObjectMapping

variable {κ ν : Type}

/-- Collects the values of each key. -/
def groupPairs [BEq κ] (pairs : List (κ × ν)) : Entries κ (List ν) :=
  pairs.foldl
    (fun groups pair =>
      Entries.alter (fun present => present.getD [] ++ [pair.2]) groups pair.1)
    []

/-- The first two values of a list that has them. -/
def firstTwo? : List ν → Option (ν × ν)
  | first :: second :: _ => some (first, second)
  | _ => none

/-- The first two values of the least key that two values share. -/
def firstDuplicate? [BEq κ] [LE κ] [DecidableLE κ] (key : ν → κ) (values : List ν) :
    Option (ν × ν) :=
  let groups := groupPairs (values.map fun value => (key value, value))
  let ascending := groups.mergeSort fun left right => decide (left.1 ≤ right.1)
  ascending.findSome? fun group => firstTwo? group.2

end ObjectMapping
