import ObjectMapping.Mapping.Matching
import ObjectMapping.Proofs.Collection.Grouping
import Mathlib.Data.List.Nodup

/-!
# When properties correspond

`Corresponding` says of two lists of properties that they can be joined by name,
and `MatchingFault` says which error reports that they cannot. The two are
stated by names alone, without any order of the lists. `validateMapping_eq_ok_iff`
and `validateMapping_eq_error_iff` show that the checks decide exactly that.

Of several names at fault the least is reported. The faults come in a fixed
order, and each constructor of `MatchingFault` says that those before it are
absent.
-/

namespace ObjectMapping

section ByName

variable {α : Type} (name : α → String)

theorem byName_perm (l : List α) : (byName name l).Perm l :=
  List.mergeSort_perm _ _

theorem mem_byName_iff (l : List α) (x : α) : x ∈ byName name l ↔ x ∈ l :=
  (byName_perm name l).mem_iff

theorem byName_ascending (l : List α) :
    (byName name l).Pairwise fun left right => name left ≤ name right := by
  have sorted : (byName name l).Pairwise fun left right =>
      decide (name left ≤ name right) :=
    List.pairwise_mergeSort (fun _ _ _ => by simpa using String.le_trans)
      (fun left right => by simpa using String.le_total (name left) (name right)) _
  simpa using sorted

theorem nodup_names_byName {l : List α} (distinct : (l.map name).Nodup) :
    ((byName name l).map name).Nodup :=
  ((byName_perm name l).map name).nodup_iff.mpr distinct

/-- Things that are in the order of their names stay where they are. -/
theorem byName_of_ascending {l : List α}
    (ascending : l.Pairwise fun left right => name left ≤ name right) : byName name l = l :=
  List.mergeSort_of_pairwise (by simpa using ascending)

/-- Things of distinct names have one order by name, however they were listed. -/
theorem byName_eq_of_perm {l l' : List α} (distinct : (l.map name).Nodup) (perm : l.Perm l') :
    byName name l = byName name l' := by
  refine List.Perm.eq_of_pairwise ?_ (byName_ascending name l) (byName_ascending name l') ?_
  · intro x y mem mem' below above
    have equal : name x = name y := String.le_antisymm below above
    rw [mem_byName_iff] at mem mem'
    exact List.inj_on_of_nodup_map distinct mem (perm.mem_iff.mpr mem') equal
  · exact (byName_perm name l).trans (perm.trans (byName_perm name l').symm)

/-- A search by name finds what it looks for at the least name at which it is. -/
theorem find?_byName_eq_some_iff {l : List α} (distinct : (l.map name).Nodup) (p : α → Bool)
    (x : α) :
    (byName name l).find? p = some x ↔
      x ∈ l ∧ IsLeast {n | ∃ y ∈ l, name y = n ∧ p y = true} (name x) := by
  rw [List.find?_eq_findSome?_guard,
    findSome?_ascending name (byName_ascending name l) (nodup_names_byName name distinct)]
  simp only [mem_byName_iff, Option.guard_eq_some_iff, Option.isSome_guard]
  constructor
  · rintro ⟨z, mem, ⟨rfl, holds⟩, least⟩
    refine ⟨mem, ⟨z, mem, rfl, holds⟩, ?_⟩
    rintro _ ⟨y, memY, rfl, holdsY⟩
    exact least y memY holdsY
  · rintro ⟨mem, ⟨z, memZ, sameName, holds⟩, least⟩
    have equal : z = x := List.inj_on_of_nodup_map distinct memZ mem sameName
    refine ⟨x, mem, ⟨rfl, equal ▸ holds⟩, ?_⟩
    intro y memY holdsY
    exact least ⟨y, memY, rfl, holdsY⟩

theorem find?_byName_eq_none_iff (l : List α) (p : α → Bool) :
    (byName name l).find? p = none ↔ ∀ x ∈ l, p x = false := by
  simp [List.find?_eq_none, mem_byName_iff]

/-- Where no name is there twice, a search for a name finds what has it. -/
theorem find?_name_eq_some_iff {l : List α} (distinct : (l.map name).Nodup) (n : String) (x : α) :
    l.find? (name · == n) = some x ↔ x ∈ l ∧ name x = n := by
  constructor
  · intro found
    exact ⟨List.mem_of_find?_eq_some found, by simpa using List.find?_some found⟩
  · rintro ⟨mem, rfl⟩
    cases found : l.find? (name · == name x) with
    | none =>
      have missing := List.find?_eq_none.mp found x mem
      simp at missing
    | some y =>
      have sameName : name y = name x := by simpa using List.find?_some found
      rw [List.inj_on_of_nodup_map distinct (List.mem_of_find?_eq_some found) mem sameName]

end ByName

/-- The names of a list that another list lacks. -/
def namesWithout (names others : List String) : Set String :=
  {n | n ∈ names ∧ n ∉ others}

/-- The names whose two properties differ in type. -/
def mismatchedNames (targets : List TargetProperty) (sources : List SourceProperty) :
    Set String :=
  {n | ∃ t ∈ targets, ∃ s ∈ sources, t.name = n ∧ s.name = n ∧ t.type.agrees s.type = false}

/-- Two lists of properties can be joined by name: no name is twice on a side, the
sides have the same names, and the two properties of a name have the same type. -/
structure Corresponding (targets : List TargetProperty) (sources : List SourceProperty) :
    Prop where
  distinctTargets : (targets.map (·.name)).Nodup
  distinctSources : (sources.map (·.name)).Nodup
  sameNames : ∀ n, n ∈ targets.map (·.name) ↔ n ∈ sources.map (·.name)
  agreeing : ∀ t ∈ targets, ∀ s ∈ sources, t.name = s.name → t.type.agrees s.type = true

theorem corresponding_nil : Corresponding [] [] :=
  ⟨List.nodup_nil, List.nodup_nil, fun _ => Iff.rfl, by simp⟩

/-- One property on each side corresponds if the two have the same name and type. -/
theorem corresponding_singleton {t : TargetProperty} {s : SourceProperty}
    (sameName : t.name = s.name) (agree : t.type.agrees s.type = true) :
    Corresponding [t] [s] where
  distinctTargets := List.nodup_singleton _
  distinctSources := List.nodup_singleton _
  sameNames := by simp [sameName]
  agreeing := by simp [agree]

/-- The error that reports why two lists of properties cannot be joined by name:
the first fault that there is, at the least name that has it. -/
inductive MatchingFault (targets : List TargetProperty) (sources : List SourceProperty) :
    MappingError → Prop where
  | duplicateTarget {n first second rest}
      (least : IsLeast (repeatedNames (targets.map (·.name))) n)
      (declared : targets.filter (·.name == n) = first :: second :: rest) :
      MatchingFault targets sources (.duplicateTarget first second)
  | duplicateSource {n first second rest}
      (distinctTargets : (targets.map (·.name)).Nodup)
      (least : IsLeast (repeatedNames (sources.map (·.name))) n)
      (declared : sources.filter (·.name == n) = first :: second :: rest) :
      MatchingFault targets sources (.duplicateSource first second)
  | unmatchedTarget {t}
      (distinctTargets : (targets.map (·.name)).Nodup)
      (distinctSources : (sources.map (·.name)).Nodup)
      (mem : t ∈ targets)
      (least : IsLeast (namesWithout (targets.map (·.name)) (sources.map (·.name))) t.name) :
      MatchingFault targets sources (.unmatchedTarget t)
  | unmatchedSource {s}
      (distinctTargets : (targets.map (·.name)).Nodup)
      (distinctSources : (sources.map (·.name)).Nodup)
      (targetsMatched : ∀ n ∈ targets.map (·.name), n ∈ sources.map (·.name))
      (mem : s ∈ sources)
      (least : IsLeast (namesWithout (sources.map (·.name)) (targets.map (·.name))) s.name) :
      MatchingFault targets sources (.unmatchedSource s)
  | incompatible {t s}
      (distinctTargets : (targets.map (·.name)).Nodup)
      (distinctSources : (sources.map (·.name)).Nodup)
      (sameNames : ∀ n, n ∈ targets.map (·.name) ↔ n ∈ sources.map (·.name))
      (target : t ∈ targets) (source : s ∈ sources) (sameName : s.name = t.name)
      (least : IsLeast (mismatchedNames targets sources) t.name) :
      MatchingFault targets sources (.incompatible t s)

/-! Each check finds the fault that it is for. -/

section Checks

variable (targets : List TargetProperty) (sources : List SourceProperty)

theorem sourceNamed?_eq_some_iff {sources : List SourceProperty}
    (distinct : (sources.map (·.name)).Nodup) (n : String) (s : SourceProperty) :
    sourceNamed? sources n = some s ↔ s ∈ sources ∧ s.name = n :=
  find?_name_eq_some_iff SourceProperty.name distinct n s

theorem unmatchedTarget?_eq_some_iff {targets : List TargetProperty}
    (distinct : (targets.map (·.name)).Nodup) (t : TargetProperty) :
    unmatchedTarget? targets sources = some t ↔
      t ∈ targets ∧
        IsLeast (namesWithout (targets.map (·.name)) (sources.map (·.name))) t.name := by
  have faulty : {n | ∃ t ∈ targets, t.name = n ∧ (!sources.any (·.name == t.name)) = true} =
      namesWithout (targets.map (·.name)) (sources.map (·.name)) := by
    ext n
    simp only [namesWithout, Set.mem_ofPred_eq]
    aesop
  rw [unmatchedTarget?, find?_byName_eq_some_iff _ distinct, faulty]

theorem unmatchedTarget?_eq_none_iff :
    unmatchedTarget? targets sources = none ↔
      ∀ n ∈ targets.map (·.name), n ∈ sources.map (·.name) := by
  rw [unmatchedTarget?, find?_byName_eq_none_iff]
  simp

theorem unmatchedSource?_eq_some_iff {sources : List SourceProperty}
    (distinct : (sources.map (·.name)).Nodup) (s : SourceProperty) :
    unmatchedSource? targets sources = some s ↔
      s ∈ sources ∧
        IsLeast (namesWithout (sources.map (·.name)) (targets.map (·.name))) s.name := by
  have faulty : {n | ∃ s ∈ sources, s.name = n ∧ (!targets.any (·.name == s.name)) = true} =
      namesWithout (sources.map (·.name)) (targets.map (·.name)) := by
    ext n
    simp only [namesWithout, Set.mem_ofPred_eq]
    aesop
  rw [unmatchedSource?, find?_byName_eq_some_iff _ distinct, faulty]

theorem unmatchedSource?_eq_none_iff :
    unmatchedSource? targets sources = none ↔
      ∀ n ∈ sources.map (·.name), n ∈ targets.map (·.name) := by
  rw [unmatchedSource?, find?_byName_eq_none_iff]
  simp

/-- What the check of types says of a single target property. -/
def mismatchAt? (sources : List SourceProperty) (t : TargetProperty) : Option PropertyPair :=
  match sourceNamed? sources t.name with
  | some s => if t.type.agrees s.type then none else some ⟨t, s⟩
  | none => none

theorem mismatchAt?_eq_some_iff {sources : List SourceProperty}
    (distinct : (sources.map (·.name)).Nodup) (t : TargetProperty) (pair : PropertyPair) :
    mismatchAt? sources t = some pair ↔
      pair.target = t ∧ pair.source ∈ sources ∧ pair.source.name = t.name ∧
        t.type.agrees pair.source.type = false := by
  obtain ⟨target, source⟩ := pair
  have named := sourceNamed?_eq_some_iff distinct t.name
  cases found : sourceNamed? sources t.name with
  | none =>
    have result : mismatchAt? sources t = none := by rw [mismatchAt?, found]
    rw [result]
    constructor
    · rintro ⟨⟩
    · rintro ⟨_, mem, sameName, _⟩
      rw [(named source).mpr ⟨mem, sameName⟩] at found
      cases found
  | some s =>
    obtain ⟨mem, sameName⟩ := (named s).mp found
    have only : ∀ s', s' ∈ sources → s'.name = t.name → s' = s := by
      intro s' mem' sameName'
      rw [(named s').mpr ⟨mem', sameName'⟩] at found
      exact Option.some.inj found
    have result : mismatchAt? sources t =
        if t.type.agrees s.type then none else some ⟨t, s⟩ := by rw [mismatchAt?, found]
    rw [result]
    cases agree : t.type.agrees s.type with
    | true =>
      rw [if_pos rfl]
      constructor
      · rintro ⟨⟩
      · rintro ⟨_, mem', sameName', differ⟩
        rw [only source mem' sameName', agree] at differ
        cases differ
    | false =>
      rw [if_neg (by simp)]
      constructor
      · rintro ⟨⟩
        exact ⟨rfl, mem, sameName, agree⟩
      · rintro ⟨rfl, mem', sameName', _⟩
        rw [only source mem' sameName']

theorem mismatchAt?_isSome_iff {sources : List SourceProperty}
    (distinct : (sources.map (·.name)).Nodup) (t : TargetProperty) :
    (mismatchAt? sources t).isSome ↔
      ∃ s ∈ sources, s.name = t.name ∧ t.type.agrees s.type = false := by
  rw [Option.isSome_iff_exists]
  constructor
  · rintro ⟨pair, found⟩
    obtain ⟨_, mem, sameName, differ⟩ := (mismatchAt?_eq_some_iff distinct t pair).mp found
    exact ⟨pair.source, mem, sameName, differ⟩
  · rintro ⟨s, mem, sameName, differ⟩
    exact ⟨⟨t, s⟩, (mismatchAt?_eq_some_iff distinct t _).mpr ⟨rfl, mem, sameName, differ⟩⟩

theorem mismatch?_eq_some_iff {targets : List TargetProperty} {sources : List SourceProperty}
    (distinctTargets : (targets.map (·.name)).Nodup)
    (distinctSources : (sources.map (·.name)).Nodup) (t : TargetProperty)
    (s : SourceProperty) :
    mismatch? targets sources = some ⟨t, s⟩ ↔
      t ∈ targets ∧ s ∈ sources ∧ s.name = t.name ∧
        IsLeast (mismatchedNames targets sources) t.name := by
  have search : mismatch? targets sources =
      (byName (·.name) targets).findSome? (mismatchAt? sources) := rfl
  rw [search, findSome?_ascending _ (byName_ascending _ targets)
    (nodup_names_byName _ distinctTargets)]
  simp only [mem_byName_iff, mismatchAt?_isSome_iff distinctSources,
    mismatchAt?_eq_some_iff distinctSources]
  constructor
  · rintro ⟨_, mem, ⟨rfl, memS, sameName, differ⟩, least⟩
    refine ⟨mem, memS, sameName, ⟨_, mem, _, memS, rfl, sameName, differ⟩, ?_⟩
    rintro _ ⟨t', memT', s', memS', rfl, sameName', differ'⟩
    exact least t' memT' ⟨s', memS', sameName', differ'⟩
  · rintro ⟨mem, memS, sameName, ⟨t', memT', s', memS', sameT, sameS, differ⟩, least⟩
    have equalT : t' = t := List.inj_on_of_nodup_map distinctTargets memT' mem sameT
    have equalS : s' = s :=
      List.inj_on_of_nodup_map distinctSources memS' memS (sameS.trans sameName.symm)
    subst equalT equalS
    refine ⟨t', mem, ⟨rfl, memS, sameName, differ⟩, ?_⟩
    rintro y memY ⟨s, memS, sameName, differ⟩
    exact least ⟨y, memY, s, memS, rfl, sameName, differ⟩

theorem mismatch?_eq_none_iff {sources : List SourceProperty}
    (distinctSources : (sources.map (·.name)).Nodup) :
    mismatch? targets sources = none ↔
      ∀ t ∈ targets, ∀ s ∈ sources, t.name = s.name → t.type.agrees s.type = true := by
  have search : mismatch? targets sources =
      (byName (·.name) targets).findSome? (mismatchAt? sources) := rfl
  rw [search, List.findSome?_eq_none_iff]
  simp only [mem_byName_iff, ← Option.not_isSome_iff_eq_none,
    mismatchAt?_isSome_iff distinctSources]
  constructor
  · intro none t memT s memS sameName
    by_contra differ
    exact none t memT ⟨s, memS, sameName.symm, by simpa using differ⟩
  · rintro agreeing t memT ⟨s, memS, sameName, differ⟩
    simp [agreeing t memT s memS sameName.symm] at differ

end Checks

/-! The checks together. -/

theorem refuse_eq_ok_iff (error? : Option MappingError) :
    refuse error? = .ok () ↔ error? = none := by
  cases error? <;> simp [refuse]

theorem refuse_eq_error_iff (error? : Option MappingError) (e : MappingError) :
    refuse error? = .error e ↔ error? = some e := by
  cases error? <;> simp [refuse]

theorem refuse_bind_eq_ok_iff (error? : Option MappingError)
    (next : Unit → Except MappingError Unit) :
    (refuse error? >>= next) = .ok () ↔ error? = none ∧ next () = .ok () := by
  cases error? <;> simp [refuse, bind, Except.bind]

theorem refuse_bind_eq_error_iff (error? : Option MappingError)
    (next : Unit → Except MappingError Unit) (e : MappingError) :
    (refuse error? >>= next) = .error e ↔
      error? = some e ∨ error? = none ∧ next () = .error e := by
  cases error? <;> simp [refuse, bind, Except.bind]

variable (targets : List TargetProperty) (sources : List SourceProperty)

/-- The checks pass exactly where the two lists correspond. -/
theorem validateMapping_eq_ok_iff :
    validateMapping targets sources = .ok () ↔ Corresponding targets sources := by
  simp only [validateMapping, refuse_bind_eq_ok_iff, refuse_eq_ok_iff, Option.map_eq_none_iff,
    firstDuplicate?_eq_none_iff, unmatchedTarget?_eq_none_iff, unmatchedSource?_eq_none_iff]
  constructor
  · rintro ⟨distinctT, distinctS, matchedT, matchedS, noMismatch⟩
    exact ⟨distinctT, distinctS, fun n => ⟨matchedT n, matchedS n⟩,
      (mismatch?_eq_none_iff targets distinctS).mp noMismatch⟩
  · rintro ⟨distinctT, distinctS, sameNames, agreeing⟩
    exact ⟨distinctT, distinctS, fun n => (sameNames n).mp, fun n => (sameNames n).mpr,
      (mismatch?_eq_none_iff targets distinctS).mpr agreeing⟩

/-- The checks refuse two lists exactly for their first fault. -/
theorem validateMapping_eq_error_iff (e : MappingError) :
    validateMapping targets sources = .error e ↔ MatchingFault targets sources e := by
  simp only [validateMapping, refuse_bind_eq_error_iff, refuse_eq_error_iff,
    Option.map_eq_some_iff, Option.map_eq_none_iff, firstDuplicate?_eq_none_iff,
    unmatchedTarget?_eq_none_iff, unmatchedSource?_eq_none_iff]
  constructor
  · rintro (⟨⟨first, second⟩, found, rfl⟩ | ⟨distinctT, ⟨⟨first, second⟩, found, rfl⟩ |
      ⟨distinctS, ⟨t, found, rfl⟩ | ⟨matchedT, ⟨s, found, rfl⟩ |
        ⟨matchedS, ⟨t, s⟩, found, rfl⟩⟩⟩⟩)
    · obtain ⟨n, least, rest, declared⟩ := (firstDuplicate?_eq_some_iff _ _ _ _).mp found
      exact .duplicateTarget least declared
    · obtain ⟨n, least, rest, declared⟩ := (firstDuplicate?_eq_some_iff _ _ _ _).mp found
      exact .duplicateSource distinctT least declared
    · obtain ⟨mem, least⟩ := (unmatchedTarget?_eq_some_iff sources distinctT t).mp found
      exact .unmatchedTarget distinctT distinctS mem least
    · obtain ⟨mem, least⟩ := (unmatchedSource?_eq_some_iff targets distinctS s).mp found
      exact .unmatchedSource distinctT distinctS matchedT mem least
    · obtain ⟨memT, memS, sameName, least⟩ :=
        (mismatch?_eq_some_iff distinctT distinctS t s).mp found
      exact .incompatible distinctT distinctS (fun n => ⟨matchedT n, matchedS n⟩) memT memS
        sameName least
  · intro fault
    cases fault with
    | duplicateTarget least declared =>
      exact .inl ⟨_, (firstDuplicate?_eq_some_iff _ _ _ _).mpr ⟨_, least, _, declared⟩, rfl⟩
    | duplicateSource distinctT least declared =>
      exact .inr ⟨distinctT,
        .inl ⟨_, (firstDuplicate?_eq_some_iff _ _ _ _).mpr ⟨_, least, _, declared⟩, rfl⟩⟩
    | unmatchedTarget distinctT distinctS mem least =>
      exact .inr ⟨distinctT, .inr ⟨distinctS,
        .inl ⟨_, (unmatchedTarget?_eq_some_iff sources distinctT _).mpr ⟨mem, least⟩, rfl⟩⟩⟩
    | unmatchedSource distinctT distinctS matchedT mem least =>
      exact .inr ⟨distinctT, .inr ⟨distinctS, .inr ⟨matchedT,
        .inl ⟨_, (unmatchedSource?_eq_some_iff targets distinctS _).mpr ⟨mem, least⟩, rfl⟩⟩⟩⟩
    | incompatible distinctT distinctS sameNames memT memS sameName least =>
      exact .inr ⟨distinctT, .inr ⟨distinctS, .inr ⟨fun n => (sameNames n).mp,
        .inr ⟨fun n => (sameNames n).mpr, ⟨_, _⟩,
          (mismatch?_eq_some_iff distinctT distinctS _ _).mpr ⟨memT, memS, sameName, least⟩,
          rfl⟩⟩⟩⟩

end ObjectMapping
