import ObjectMapping.Collection.Grouping
import ObjectMapping.Proofs.Collection.Lookup
import Mathlib.Order.Bounds.Basic

/-!
# Groups and the least duplicate

`get?_groupPairs` says what grouping collects under a key, and `groupPairs_eq` in
which order the groups stand. From the first follows when there is a duplicate
(`firstDuplicate?_eq_none_iff`) and which one is reported
(`firstDuplicate?_eq_some_iff`): the first two values of the least key that
stands more than once.

A search through things in ascending order of distinct keys finds the one of the
least key (`findSome?_ascending`), whatever it searches for.
-/

namespace ObjectMapping

/-- The names that stand in a list more than once. -/
def repeatedNames (names : List String) : Set String :=
  {n | 2 ≤ names.count n}

theorem mem_repeatedNames (names : List String) (n : String) :
    n ∈ repeatedNames names ↔ 2 ≤ names.count n :=
  Iff.rfl

/-- Names are distinct when none is repeated. -/
theorem nodup_iff_no_repeatedNames (names : List String) :
    names.Nodup ↔ ∀ n, n ∉ repeatedNames names := by
  simp only [List.nodup_iff_count, mem_repeatedNames]
  constructor
  · intro once n twice
    have bound := once n
    omega
  · intro none n
    have notTwice := none n
    omega

/-- A search in ascending order of distinct keys finds what it looks for at the
least key at which it is. -/
theorem findSome?_ascending {α β : Type} (key : α → String) {f : α → Option β} {l : List α}
    (ascending : l.Pairwise fun left right => key left ≤ key right)
    (distinct : (l.map key).Nodup) (b : β) :
    l.findSome? f = some b ↔
      ∃ x ∈ l, f x = some b ∧ ∀ y ∈ l, (f y).isSome → key x ≤ key y := by
  induction l with
  | nil => simp
  | cons a rest ih =>
    obtain ⟨first, ascendingRest⟩ := List.pairwise_cons.mp ascending
    have distinctRest : (rest.map key).Nodup := (List.nodup_cons.mp distinct).2
    have apart : ∀ x ∈ rest, key a ≠ key x := by
      intro x mem equal
      exact (List.nodup_cons.mp distinct).1 (equal ▸ List.mem_map_of_mem mem)
    cases found : f a with
    | some c =>
      rw [List.findSome?_cons, found]
      constructor
      · rintro ⟨⟩
        refine ⟨a, List.mem_cons_self, found, ?_⟩
        intro y mem _
        rcases List.mem_cons.mp mem with rfl | later
        · exact String.le_refl _
        · exact first y later
      · rintro ⟨x, mem, holds, least⟩
        rcases List.mem_cons.mp mem with rfl | later
        · exact found.symm.trans holds
        · have below : key x ≤ key a := least a List.mem_cons_self (by simp [found])
          exact absurd (String.le_antisymm (first x later) below) (apart x later)
    | none =>
      rw [List.findSome?_cons, found]
      simp only [ih ascendingRest distinctRest, List.mem_cons, exists_eq_or_imp, found,
        forall_eq_or_imp]
      simp

variable {κ ν : Type} [BEq κ] [LawfulBEq κ]

/-- The values of the pairs with a key. -/
def valuesAt (pairs : List (κ × ν)) (key : κ) : List ν :=
  (pairs.filter (·.1 == key)).map (·.2)

theorem valuesAt_cons_self (key : κ) (value : ν) (rest : List (κ × ν)) :
    valuesAt ((key, value) :: rest) key = value :: valuesAt rest key := by
  simp [valuesAt]

theorem valuesAt_cons_of_ne {key other : κ} (value : ν) (rest : List (κ × ν))
    (apart : key ≠ other) : valuesAt ((key, value) :: rest) other = valuesAt rest other := by
  simp [valuesAt, apart]

/-- Adding pairs to groups appends to each group the values of its key. -/
theorem get?_foldl_group (pairs : List (κ × ν)) (groups : Entries κ (List ν)) (key : κ) :
    Entries.get?
      (pairs.foldl
        (fun groups pair =>
          Entries.alter (fun present => present.getD [] ++ [pair.2]) groups pair.1)
        groups) key =
      if valuesAt pairs key = [] then Entries.get? groups key
      else some ((Entries.get? groups key).getD [] ++ valuesAt pairs key) := by
  induction pairs generalizing groups with
  | nil => simp [valuesAt]
  | cons pair rest ih =>
    obtain ⟨k, value⟩ := pair
    rw [List.foldl_cons, ih]
    by_cases equal : k = key
    · subst equal
      rw [Entries.get?_alter_self, valuesAt_cons_self]
      by_cases empty : valuesAt rest k = [] <;> simp [empty]
    · rw [Entries.get?_alter_of_ne _ _ equal, valuesAt_cons_of_ne value rest equal]

/-- Grouping collects under each key the values of its pairs, in their order. -/
theorem get?_groupPairs (pairs : List (κ × ν)) (key : κ) :
    Entries.get? (groupPairs pairs) key =
      if valuesAt pairs key = [] then none else some (valuesAt pairs key) := by
  simp [groupPairs, get?_foldl_group, Entries.get?]

/-- No key has two groups. -/
theorem nodup_keys_groupPairs (pairs : List (κ × ν)) :
    (Entries.keys (groupPairs pairs)).Nodup :=
  Entries.nodup_keys_foldl_alter Prod.fst
    (fun (pair : κ × ν) present => present.getD [] ++ [pair.2]) Entries.nodup_keys_nil pairs

/-- The groups are the keys that occur, each with the values of its pairs. -/
theorem mem_groupPairs_iff (pairs : List (κ × ν)) (key : κ) (group : List ν) :
    (key, group) ∈ groupPairs pairs ↔ group = valuesAt pairs key ∧ group ≠ [] := by
  have found := get?_groupPairs pairs key
  constructor
  · intro mem
    rw [Entries.get?_eq_some_of_mem (nodup_keys_groupPairs pairs) mem] at found
    split at found <;> simp_all
  · rintro ⟨rfl, nonempty⟩
    rw [if_neg nonempty] at found
    exact Entries.mem_of_get?_eq_some found

/-- The keys of the groups are those of the pairs, each where it comes first. -/
theorem keys_groupPairs (pairs : List (κ × ν)) :
    Entries.keys (groupPairs pairs) = (pairs.map (·.1)).eraseDups :=
  Entries.keys_foldl_alter_nil Prod.fst
    (fun (pair : κ × ν) present => present.getD [] ++ [pair.2]) pairs

/-- The groups are the keys of the pairs, each where it comes first, with their values. -/
theorem groupPairs_eq (pairs : List (κ × ν)) :
    groupPairs pairs = (pairs.map (·.1)).eraseDups.map fun k => (k, valuesAt pairs k) := by
  rw [← keys_groupPairs]
  refine Entries.eq_map_of_get? (nodup_keys_groupPairs pairs) fun k present => ?_
  obtain ⟨⟨_, group⟩, mem, rfl⟩ := List.mem_map.mp present
  have shape := (mem_groupPairs_iff pairs _ group).mp mem
  rw [get?_groupPairs, if_neg (shape.1 ▸ shape.2)]

section FirstDuplicate

variable (key : ν → String) (values : List ν)

/-- A list whose things are paired with their keys has at each key the things of
that key. -/
theorem valuesAt_keyed (n : String) :
    valuesAt (values.map fun value => (key value, value)) n =
      values.filter (key · == n) := by
  induction values with
  | nil => rfl
  | cons value rest ih =>
    by_cases equal : key value = n
    · subst equal
      rw [List.map_cons, valuesAt_cons_self, ih, List.filter_cons_of_pos (by simp)]
    · rw [List.map_cons, valuesAt_cons_of_ne _ _ equal, ih,
        List.filter_cons_of_neg (by simpa using equal)]

/-- A key is as often in the list of keys as there are things of it. -/
theorem count_map_key (n : String) :
    (values.map key).count n = (values.filter (key · == n)).length := by
  rw [List.count, List.countP_map, List.countP_eq_length_filter]
  rfl

theorem firstTwo?_eq_some_iff {first second : ν} :
    firstTwo? values = some (first, second) ↔ ∃ rest, values = first :: second :: rest := by
  match values with
  | [] => simp [firstTwo?]
  | [_] => simp [firstTwo?]
  | _ :: _ :: rest => simp [firstTwo?]

theorem firstTwo?_isSome_iff : (firstTwo? values).isSome ↔ 2 ≤ values.length := by
  match values with
  | [] => simp [firstTwo?]
  | [_] => simp [firstTwo?]
  | _ :: _ :: rest => simp [firstTwo?]

/-- The groups of a keyed list in ascending order of their keys. -/
def ascendingGroups : Entries String (List ν) :=
  (groupPairs (values.map fun value => (key value, value))).mergeSort
    fun left right => decide (left.1 ≤ right.1)

theorem firstDuplicate?_eq_findSome? :
    firstDuplicate? key values =
      (ascendingGroups key values).findSome? fun group => firstTwo? group.2 :=
  rfl

/-- The groups are those of the keys that occur. -/
theorem mem_ascendingGroups_iff (n : String) (group : List ν) :
    (n, group) ∈ ascendingGroups key values ↔
      group = values.filter (key · == n) ∧ group ≠ [] := by
  rw [ascendingGroups, List.mem_mergeSort, mem_groupPairs_iff, valuesAt_keyed]

theorem ascendingGroups_ascending :
    (ascendingGroups key values).Pairwise fun left right => left.1 ≤ right.1 := by
  have sorted : (ascendingGroups key values).Pairwise fun left right =>
      decide (left.1 ≤ right.1) :=
    List.pairwise_mergeSort (fun _ _ _ => by simpa using String.le_trans)
      (fun left right => by simpa using String.le_total left.1 right.1) _
  simpa using sorted

theorem nodup_keys_ascendingGroups : ((ascendingGroups key values).map (·.1)).Nodup :=
  ((List.mergeSort_perm _ _).map _).nodup_iff.mpr (nodup_keys_groupPairs _)

/-- The group of a repeated key holds at least two values. -/
theorem mem_repeatedNames_iff_group (n : String) :
    n ∈ repeatedNames (values.map key) ↔
      ∃ group, (n, group) ∈ ascendingGroups key values ∧ (firstTwo? group).isSome := by
  simp only [mem_ascendingGroups_iff, firstTwo?_isSome_iff, mem_repeatedNames, count_map_key]
  constructor
  · intro twice
    refine ⟨_, ⟨rfl, ?_⟩, twice⟩
    intro empty
    simp [empty] at twice
  · rintro ⟨_, ⟨rfl, _⟩, twice⟩
    exact twice

/-- The reported duplicate is the first two things, in their order, of the least
key that is repeated. -/
theorem firstDuplicate?_eq_some_iff (first second : ν) :
    firstDuplicate? key values = some (first, second) ↔
      ∃ n, IsLeast (repeatedNames (values.map key)) n ∧
        ∃ rest, values.filter (key · == n) = first :: second :: rest := by
  rw [firstDuplicate?_eq_findSome?,
    findSome?_ascending Prod.fst (ascendingGroups_ascending key values)
      (nodup_keys_ascendingGroups key values)]
  constructor
  · rintro ⟨⟨n, group⟩, mem, two, least⟩
    refine ⟨n, ⟨?_, ?_⟩, ?_⟩
    · exact (mem_repeatedNames_iff_group key values n).mpr ⟨group, mem, by simp [two]⟩
    · intro m repeated
      obtain ⟨group', mem', two'⟩ := (mem_repeatedNames_iff_group key values m).mp repeated
      exact least (m, group') mem' two'
    · rw [← ((mem_ascendingGroups_iff key values n group).mp mem).1]
      exact (firstTwo?_eq_some_iff group).mp two
  · rintro ⟨n, ⟨_, least⟩, rest, shape⟩
    refine ⟨(n, values.filter (key · == n)), ?_, ?_, ?_⟩
    · exact (mem_ascendingGroups_iff key values n _).mpr ⟨rfl, by simp [shape]⟩
    · exact (firstTwo?_eq_some_iff _).mpr ⟨rest, shape⟩
    · rintro ⟨m, group⟩ mem two
      exact least ((mem_repeatedNames_iff_group key values m).mpr ⟨group, mem, two⟩)

/-- There is no duplicate when all keys are distinct. -/
theorem firstDuplicate?_eq_none_iff :
    firstDuplicate? key values = none ↔ (values.map key).Nodup := by
  rw [firstDuplicate?_eq_findSome?, List.findSome?_eq_none_iff, nodup_iff_no_repeatedNames]
  constructor
  · intro none n repeated
    obtain ⟨group, mem, two⟩ := (mem_repeatedNames_iff_group key values n).mp repeated
    simp [none (n, group) mem] at two
  · rintro none ⟨n, group⟩ mem
    rw [← Option.not_isSome_iff_eq_none]
    intro two
    exact none n ((mem_repeatedNames_iff_group key values n).mpr ⟨group, mem, two⟩)

end FirstDuplicate

end ObjectMapping
