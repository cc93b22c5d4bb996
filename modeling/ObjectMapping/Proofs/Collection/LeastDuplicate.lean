import ObjectMapping.Proofs.Collection.Grouping
import Mathlib.Data.List.Sort

/-!
# Sorting groups by comparing them

The least duplicate is found by sorting the groups of a list as pairs: by their
keys first and, where these are equal, by their values. Grouping itself needs
only an equality of keys. A sort is a computation that learns about the things it
sorts only by asking which of two is less (`Comparing`), and comparing values is
an operation that may fail.

No two groups have one key. The groups of any two places differ in their keys, so
that no question of a sort reaches the values (`run_groups`), and the groups come
out in the one ascending order of their keys (`result_groups`).
`least_duplicate` puts the search together.
-/

namespace ObjectMapping

/-- A computation that learns about things by asking which of two is less. -/
inductive Comparing (α β : Type) where
  | done (result : β)
  | ask (left right : α) (next : Bool → Comparing α β)

namespace Comparing

variable {α β γ ε : Type}

/-- One computation after another. -/
def andThen (next : β → Comparing α γ) : Comparing α β → Comparing α γ
  | done result => next result
  | ask left right rest => ask left right fun answer => (rest answer).andThen next

/-- The result when every question has an answer. -/
def result (isLess : α → α → Bool) : Comparing α β → β
  | done result => result
  | ask left right next => (next (isLess left right)).result isLess

/-- The result when answering can fail, and the failure when it does. -/
def run (isLess : α → α → Except ε Bool) : Comparing α β → Except ε β
  | done result => .ok result
  | ask left right next => isLess left right >>= fun answer => (next answer).run isLess

/-- However its questions are answered, a computation asks only what is allowed
and ends with a result as required. -/
def Keeps (allowed : α → α → Prop) (required : β → Prop) : Comparing α β → Prop
  | done result => required result
  | ask left right next =>
      allowed left right ∧ ∀ answer, (next answer).Keeps allowed required

variable {allowed : α → α → Prop} {required : β → Prop}

@[simp] theorem result_andThen (isLess : α → α → Bool) (next : β → Comparing α γ)
    (first : Comparing α β) :
    (first.andThen next).result isLess = (next (first.result isLess)).result isLess := by
  induction first with
  | done result => rfl
  | ask left right rest ih => exact ih _

/-- What the first computation ends with is what the second starts from. -/
theorem Keeps.andThen {first : Comparing α β} (kept : first.Keeps allowed required)
    {next : β → Comparing α γ} {ending : γ → Prop}
    (keptNext : ∀ b, required b → (next b).Keeps allowed ending) :
    (first.andThen next).Keeps allowed ending := by
  induction first with
  | done result => exact keptNext result kept
  | ask left right rest ih => exact ⟨kept.1, fun answer => ih answer (kept.2 answer)⟩

/-- What is allowed and required may be relaxed. -/
theorem Keeps.imp {computation : Comparing α β} (kept : computation.Keeps allowed required)
    {allowed' : α → α → Prop} {required' : β → Prop}
    (allows : ∀ left right, allowed left right → allowed' left right)
    (requires : ∀ b, required b → required' b) : computation.Keeps allowed' required' := by
  induction computation with
  | done result => exact requires result kept
  | ask left right next ih =>
    exact ⟨allows left right kept.1, fun answer => ih answer (kept.2 answer)⟩

theorem Keeps.result {computation : Comparing α β} (kept : computation.Keeps allowed required)
    (isLess : α → α → Bool) : required (computation.result isLess) := by
  induction computation with
  | done result => exact kept
  | ask left right next ih => exact ih _ (kept.2 _)

/-- A computation succeeds whose questions all have answers. -/
theorem Keeps.run {computation : Comparing α β} (kept : computation.Keeps allowed required)
    {answer : α → α → Except ε Bool} {isLess : α → α → Bool}
    (answered : ∀ left right, allowed left right → answer left right = .ok (isLess left right)) :
    computation.run answer = .ok (computation.result isLess) := by
  induction computation with
  | done result => rfl
  | ask left right next ih =>
    show (answer left right >>= fun given => (next given).run answer) = _
    rw [answered left right kept.1]
    exact ih _ (kept.2 _)

/-- An order of things in which two may stand level. -/
structure IsOrder (isLess : α → α → Bool) : Prop where
  asymm : ∀ {a b}, isLess a b = true → isLess b a = false
  negative : ∀ {a b c}, isLess a b = false → isLess b c = false → isLess a c = false

/-- A way to put things into ascending order. It compares things of different
places only. -/
structure IsSort (sort : List α → Comparing α (List α)) : Prop where
  rearranges : ∀ things,
    (sort things).Keeps (fun left right => [left, right].Subperm things) (·.Perm things)
  ascending : ∀ things {isLess : α → α → Bool}, IsOrder isLess →
    ((sort things).result isLess).Pairwise fun left right => isLess right left = false

section Insertion

/-- Puts a thing before the first that is not less. -/
def insert (thing : α) : List α → Comparing α (List α)
  | [] => done [thing]
  | first :: rest => ask first thing fun
      | true => (insert thing rest).andThen fun inserted => done (first :: inserted)
      | false => done (thing :: first :: rest)

/-- Sorts things by putting one after another into its place. -/
def insertionSort : List α → Comparing α (List α)
  | [] => done []
  | thing :: rest => (insertionSort rest).andThen (insert thing)

/-- Nothing but the inserted thing is compared. -/
theorem keeps_insert (thing : α) (list : List α) :
    (insert thing list).Keeps (fun left right => left ∈ list ∧ right = thing)
      (·.Perm (thing :: list)) := by
  induction list with
  | nil => exact List.Perm.refl _
  | cons first rest ih =>
    refine ⟨⟨List.mem_cons_self, rfl⟩, fun
      | true => Keeps.andThen (ih.imp ?_ fun _ => id) ?_
      | false => List.Perm.refl _⟩
    · rintro left right ⟨mem, rfl⟩
      exact ⟨List.mem_cons_of_mem _ mem, rfl⟩
    · intro inserted perm
      exact (perm.cons first).trans (.swap thing first rest)

theorem result_insert (isLess : α → α → Bool) (thing : α) (list : List α) :
    (insert thing list).result isLess =
      list.orderedInsert (fun left right => isLess right left = false) thing := by
  induction list with
  | nil => rfl
  | cons first rest ih =>
    rw [insert, result, List.orderedInsert_cons]
    cases less : isLess first thing with
    | true => simp [result, ih]
    | false => simp [result]

theorem result_insertionSort (isLess : α → α → Bool) (things : List α) :
    (insertionSort things).result isLess =
      things.insertionSort fun left right => isLess right left = false := by
  induction things with
  | nil => rfl
  | cons thing rest ih =>
    rw [insertionSort, result_andThen, result_insert, ih, List.insertionSort_cons]

theorem isSort_insertionSort : IsSort (@insertionSort α) where
  rearranges things := by
    induction things with
    | nil => exact List.Perm.refl _
    | cons thing rest ih =>
      refine (ih.imp ?_ fun _ => id).andThen fun sorted perm =>
        (keeps_insert thing sorted).imp ?_ ?_
      · exact fun left right pair => pair.trans (List.sublist_cons_self thing rest).subperm
      · rintro left right ⟨mem, rfl⟩
        have single : [left].Subperm rest := List.singleton_subperm_iff.mpr (perm.mem_iff.mp mem)
        exact (List.Perm.swap right left []).subperm.trans ((List.subperm_cons right).mpr single)
      · exact fun inserted inserts => inserts.trans (perm.cons thing)
  ascending things isLess order := by
    rw [result_insertionSort]
    have total : Std.Total fun left right => isLess right left = false := ⟨fun left right =>
      (Bool.eq_false_or_eq_true (isLess right left)).symm.imp_right order.asymm⟩
    have trans : IsTrans α fun left right => isLess right left = false :=
      ⟨fun _ _ _ first second => order.negative second first⟩
    exact List.pairwise_insertionSort _ things

end Insertion

end Comparing

section Groups

open Comparing

variable {ν ε : Type} (valuesLess : List ν → List ν → Except ε Bool)

/-- Whether a group is less than another, as pairs are compared: by their keys,
and by their values where the keys are equal. -/
def groupIsLess (left right : String × List ν) : Except ε Bool :=
  if left.1 == right.1 then valuesLess left.2 right.2 else .ok (!decide (right.1 ≤ left.1))

/-- Whether the key of a group is less than that of another. -/
def keyIsLess (left right : String × List ν) : Bool :=
  !decide (right.1 ≤ left.1)

/-- The values of a list under their keys. -/
def keyedGroups (key : ν → String) (values : List ν) : Entries String (List ν) :=
  groupPairs (values.map fun value => (key value, value))

/-- The search for the first two values of the least key that two values share,
with the groups sorted as pairs. -/
def firstDuplicateSorting
    (sort : Entries String (List ν) → Comparing (String × List ν) (Entries String (List ν)))
    (key : ν → String) (values : List ν) : Except ε (Option (ν × ν)) := do
  let ascending ← (sort (keyedGroups key values)).run (groupIsLess valuesLess)
  return ascending.findSome? fun group => firstTwo? group.2

theorem keyIsLess_eq_false_iff (left right : String × List ν) :
    keyIsLess left right = false ↔ right.1 ≤ left.1 := by
  simp [keyIsLess]

theorem isOrder_keyIsLess : IsOrder (@keyIsLess ν) where
  asymm less := by
    rw [← Bool.not_eq_false, keyIsLess_eq_false_iff] at less
    exact (keyIsLess_eq_false_iff _ _).mpr ((String.le_total _ _).resolve_right less)
  negative first second := by
    rw [keyIsLess_eq_false_iff] at *
    exact String.le_trans second first

/-- Groups at different places have different keys. -/
theorem key_ne_of_subperm {groups : Entries String (List ν)}
    (distinct : (Entries.keys groups).Nodup) {left right : String × List ν}
    (pair : [left, right].Subperm groups) : left.1 ≠ right.1 := by
  obtain ⟨list, perm, sub⟩ := pair
  have apart : ([left, right].map Prod.fst).Nodup :=
    (perm.map Prod.fst).nodup_iff.mp (distinct.sublist (sub.map Prod.fst))
  simpa using apart

variable {sort : Entries String (List ν) → Comparing (String × List ν) (Entries String (List ν))}
  (isSort : IsSort sort)

include isSort

/-- Sorting groups of distinct keys as pairs is sorting them by their keys. -/
theorem run_groups {groups : Entries String (List ν)} (distinct : (Entries.keys groups).Nodup) :
    (sort groups).run (groupIsLess valuesLess) = .ok ((sort groups).result keyIsLess) := by
  refine (isSort.rearranges groups).run fun left right pair => ?_
  have apart : left.1 ≠ right.1 := key_ne_of_subperm distinct pair
  simp [groupIsLess, keyIsLess, apart]

/-- There is one order of the groups by their keys. -/
theorem result_groups (key : ν → String) (values : List ν) :
    (sort (keyedGroups key values)).result keyIsLess = ascendingGroups key values := by
  have perm : ((sort (keyedGroups key values)).result keyIsLess).Perm
      (ascendingGroups key values) :=
    ((isSort.rearranges _).result keyIsLess).trans (List.mergeSort_perm _ _).symm
  have ascending := isSort.ascending (keyedGroups key values) isOrder_keyIsLess
  simp only [keyIsLess_eq_false_iff] at ascending
  refine List.Perm.eq_of_pairwise ?_ ascending (ascendingGroups_ascending key values) perm
  rintro ⟨n, left⟩ ⟨m, right⟩ memLeft memRight below above
  obtain rfl : n = m := String.le_antisymm below above
  have groupLeft := (mem_ascendingGroups_iff key values n left).mp (perm.mem_iff.mp memLeft)
  have groupRight := (mem_ascendingGroups_iff key values n right).mp memRight
  rw [groupLeft.1, groupRight.1]

/-- The search is that which compares keys only. -/
theorem firstDuplicateSorting_eq (key : ν → String) (values : List ν) :
    firstDuplicateSorting valuesLess sort key values = .ok (firstDuplicate? key values) := by
  have distinct : (Entries.keys (keyedGroups key values)).Nodup := nodup_keys_groupPairs _
  rw [firstDuplicateSorting, run_groups valuesLess isSort distinct, result_groups isSort,
    firstDuplicate?_eq_findSome?]
  rfl

end Groups

/-- A list in groups has each key that occurs once, where it was first seen, with
the things of that key in their order. There is no duplicate when all keys are
distinct, and else it is the first two things, in their order, of the least key
that is repeated. However the groups are sorted as pairs, no values are compared:
the search ends the same way when every comparison of values fails. -/
theorem least_duplicate {ν ε : Type}
    {sort : Entries String (List ν) → Comparing (String × List ν) (Entries String (List ν))}
    (isSort : Comparing.IsSort sort) (valuesLess : List ν → List ν → Except ε Bool)
    (key : ν → String) (values : List ν) :
    groupPairs (values.map fun value => (key value, value)) =
        ((values.map key).eraseDups.map fun n => (n, values.filter (key · == n))) ∧
      (firstDuplicate? key values = none ↔ (values.map key).Nodup) ∧
      (∀ first second, firstDuplicate? key values = some (first, second) ↔
        ∃ n, IsLeast (repeatedNames (values.map key)) n ∧
          ∃ rest, values.filter (key · == n) = first :: second :: rest) ∧
      firstDuplicateSorting valuesLess sort key values = .ok (firstDuplicate? key values) := by
  refine ⟨?_, firstDuplicate?_eq_none_iff key values, firstDuplicate?_eq_some_iff key values,
    firstDuplicateSorting_eq valuesLess isSort key values⟩
  rw [groupPairs_eq, List.map_map]
  simp only [valuesAt_keyed]
  rfl

/-- Of four pairs under two names, sorted where pairs cannot be compared, those of
the lesser name are the duplicate. -/
theorem least_duplicate_of_two :
    firstDuplicateSorting (fun _ _ => Except.error ()) Comparing.insertionSort Prod.fst
      [("b", 1), ("a", 2), ("b", 3), ("a", 4)] = .ok (some (("a", 2), ("a", 4))) := by
  have search := least_duplicate Comparing.isSort_insertionSort
    (fun _ _ => Except.error ()) Prod.fst [("b", 1), ("a", 2), ("b", 3), ("a", 4)]
  rw [search.2.2.2, Except.ok.injEq, search.2.2.1]
  refine ⟨"a", ⟨(mem_repeatedNames _ _).mpr (by decide), ?_⟩, [], rfl⟩
  have least : ∀ n ∈ ["b", "a", "b", "a"], "a" ≤ n := by decide
  intro n repeated
  exact least n (List.count_pos_iff.mp (Nat.lt_of_lt_of_le Nat.zero_lt_two repeated))

end ObjectMapping
