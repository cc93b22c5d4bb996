import ObjectMapping.Package.Runtime
import ObjectMapping.Proofs.Mapping.Creation

/-!
# The order of declaration does not matter

Listing the properties of a specification in another order changes neither
whether it compiles nor what it compiles to (`create_of_perm`). A fault keeps its
kind and its name; of a name that is declared more than twice, another two
declarations may be the first two.

All conditions on properties are sets of names, and the pairs are made in the
order of names, so that each of them is shown to be the same for both orders.
-/

namespace ObjectMapping

/-- Two errors report the same. Of a name that is declared more than once they may
name other declarations. -/
inductive MappingError.ReportsLike : MappingError → MappingError → Prop where
  | same (e : MappingError) : ReportsLike e e
  | duplicateTarget {first second first' second' : TargetProperty}
      (sameName : first.name = first'.name) :
      ReportsLike (.duplicateTarget first second) (.duplicateTarget first' second')
  | duplicateSource {first second first' second' : SourceProperty}
      (sameName : first.name = first'.name) :
      ReportsLike (.duplicateSource first second) (.duplicateSource first' second')

/-- Two compilations end in the same way: with one and the same mapper, or with
errors that report the same. -/
abbrev SameOutcome {α : Type} : Except MappingError α → Except MappingError α → Prop :=
  PairedOutcomes MappingError.ReportsLike Eq

theorem repeatedNames_of_perm {names names' : List String} (perm : names.Perm names') :
    repeatedNames names = repeatedNames names' := by
  ext n
  rw [mem_repeatedNames, mem_repeatedNames, perm.count_eq]

theorem namesWithout_of_perm {names names' others others' : List String}
    (perm : names.Perm names') (permOthers : others.Perm others') :
    namesWithout names others = namesWithout names' others' := by
  ext n
  simp only [namesWithout, Set.mem_ofPred_eq, perm.mem_iff, permOthers.mem_iff]

/-- A name that is repeated has a first and a second declaration. -/
theorem exists_firstTwo_of_repeated {α : Type} (name : α → String) {l : List α} {n : String}
    (repeated : n ∈ repeatedNames (l.map name)) :
    ∃ first second rest, l.filter (name · == n) = first :: second :: rest := by
  rw [mem_repeatedNames, count_map_key, ← firstTwo?_isSome_iff, Option.isSome_iff_exists]
    at repeated
  obtain ⟨⟨first, second⟩, found⟩ := repeated
  obtain ⟨rest, shape⟩ := (firstTwo?_eq_some_iff _).mp found
  exact ⟨first, second, rest, shape⟩

theorem name_eq_of_filter_eq_cons {α : Type} {name : α → String} {l : List α} {n : String}
    {first : α} {rest : List α} (shape : l.filter (name · == n) = first :: rest) :
    name first = n := by
  have mem : first ∈ l.filter (name · == n) := shape ▸ List.mem_cons_self
  simpa using (List.mem_filter.mp mem).2

section Reordering

variable {targets targets' : List TargetProperty} {sources sources' : List SourceProperty}
  (permT : targets.Perm targets') (permS : sources.Perm sources')

include permT permS

theorem mismatchedNames_of_perm :
    mismatchedNames targets sources = mismatchedNames targets' sources' := by
  ext n
  simp only [mismatchedNames, Set.mem_ofPred_eq, permT.mem_iff, permS.mem_iff]

/-- Lists correspond in any order if they do in one. -/
theorem Corresponding.of_perm (corresponding : Corresponding targets sources) :
    Corresponding targets' sources' where
  distinctTargets := (permT.map _).nodup_iff.mp corresponding.distinctTargets
  distinctSources := (permS.map _).nodup_iff.mp corresponding.distinctSources
  sameNames n := by
    rw [← (permT.map _).mem_iff, ← (permS.map _).mem_iff]
    exact corresponding.sameNames n
  agreeing t memT s memS :=
    corresponding.agreeing t (permT.mem_iff.mpr memT) s (permS.mem_iff.mpr memS)

/-- Corresponding lists have the same pairs in any order. -/
theorem Corresponding.pairsByName_of_perm (corresponding : Corresponding targets sources) :
    pairsByName targets sources = pairsByName targets' sources' := by
  rw [pairsByName, byName_eq_of_perm _ corresponding.distinctTargets permT,
    byName_eq_of_perm _ corresponding.distinctSources permS, pairsByName]

/-- A fault of two lists is reported alike for any order of them. -/
theorem MatchingFault.of_perm {e : MappingError} (fault : MatchingFault targets sources e) :
    ∃ e', MatchingFault targets' sources' e' ∧ e.ReportsLike e' := by
  have permTNames : (targets.map (·.name)).Perm (targets'.map (·.name)) := permT.map _
  have permSNames : (sources.map (·.name)).Perm (sources'.map (·.name)) := permS.map _
  cases fault with
  | duplicateTarget least declared =>
    rw [repeatedNames_of_perm permTNames] at least
    obtain ⟨first', second', rest', declared'⟩ := exists_firstTwo_of_repeated _ least.1
    refine ⟨.duplicateTarget first' second', .duplicateTarget least declared', ?_⟩
    exact .duplicateTarget ((name_eq_of_filter_eq_cons declared).trans
      (name_eq_of_filter_eq_cons declared').symm)
  | duplicateSource distinctT least declared =>
    rw [permTNames.nodup_iff] at distinctT
    rw [repeatedNames_of_perm permSNames] at least
    obtain ⟨first', second', rest', declared'⟩ := exists_firstTwo_of_repeated _ least.1
    refine ⟨.duplicateSource first' second', .duplicateSource distinctT least declared', ?_⟩
    exact .duplicateSource ((name_eq_of_filter_eq_cons declared).trans
      (name_eq_of_filter_eq_cons declared').symm)
  | unmatchedTarget distinctT distinctS mem least =>
    rw [permTNames.nodup_iff] at distinctT
    rw [permSNames.nodup_iff] at distinctS
    rw [namesWithout_of_perm permTNames permSNames] at least
    exact ⟨_, .unmatchedTarget distinctT distinctS (permT.mem_iff.mp mem) least, .same _⟩
  | unmatchedSource distinctT distinctS matchedT mem least =>
    rw [permTNames.nodup_iff] at distinctT
    rw [permSNames.nodup_iff] at distinctS
    rw [namesWithout_of_perm permSNames permTNames] at least
    have matchedT' : ∀ n ∈ targets'.map (·.name), n ∈ sources'.map (·.name) :=
      fun n memN => permSNames.mem_iff.mp (matchedT n (permTNames.mem_iff.mpr memN))
    exact ⟨_, .unmatchedSource distinctT distinctS matchedT' (permS.mem_iff.mp mem) least,
      .same _⟩
  | incompatible distinctT distinctS sameNames memT memS sameName least =>
    rw [permTNames.nodup_iff] at distinctT
    rw [permSNames.nodup_iff] at distinctS
    rw [mismatchedNames_of_perm permT permS] at least
    have sameNames' : ∀ n, n ∈ targets'.map (·.name) ↔ n ∈ sources'.map (·.name) :=
      fun n => permTNames.mem_iff.symm.trans ((sameNames n).trans permSNames.mem_iff)
    exact ⟨_, .incompatible distinctT distinctS sameNames' (permT.mem_iff.mp memT)
      (permS.mem_iff.mp memS) sameName least, .same _⟩

end Reordering

variable (classes : ClassTable Code)

/-- What two reordered specifications are compiled from is the same, so that they
end in the same way whatever it is finished to. -/
theorem Specification.compileWith_of_perm [Packages] {α : Type} (s : Specification)
    (finish : List Stage → Factory → α) {targets : List TargetProperty}
    {sources : List SourceProperty} (permT : s.targets.Perm targets)
    (permS : s.sources.Perm sources) :
    SameOutcome (s.compileWith classes finish)
      ({ s with targets := targets, sources := sources }.compileWith classes finish) := by
  cases result : s.compileWith classes finish with
  | ok a =>
    obtain ⟨corresponding, factory, chosen, rfl⟩ :=
      (s.compileWith_eq_ok_iff classes finish a).mp result
    have reordered := (compileWith_eq_ok_iff classes
      { s with targets := targets, sources := sources } finish _).mpr
      ⟨corresponding.of_perm permT permS, factory, chosen, rfl⟩
    rw [reordered, ← corresponding.pairsByName_of_perm permT permS]
    exact .ok rfl
  | error e =>
    have decided := compileWith_eq_error_iff classes
      { s with targets := targets, sources := sources } finish
    cases (s.compileWith_eq_error_iff classes finish e).mp result with
    | ofMatching fault =>
      obtain ⟨e', fault', alike⟩ := fault.of_perm permT permS
      rw [(decided e').mpr (.ofMatching fault')]
      exact .error alike
    | noDefaultConstructor corresponding notGiven obstructed =>
      rw [(decided _).mpr (.noDefaultConstructor (corresponding.of_perm permT permS)
        notGiven obstructed)]
      exact .error (.same _)

/-- Listing the properties of a specification in another order does not change
how it compiles, nor does it for a contextual specification around it: the mapper
is the same, or the errors report the same, and so are the pairs that are made. -/
theorem create_of_perm [Packages] (s : Specification) (context : TypeExpr)
    (customs : List ContextualStage) {targets : List TargetProperty}
    {sources : List SourceProperty} (permT : s.targets.Perm targets)
    (permS : s.sources.Perm sources) :
    let reordered : Specification := { s with targets := targets, sources := sources }
    SameOutcome (s.create classes).outcome.1 (reordered.create classes).outcome.1 ∧
    SameOutcome
      (({ inner := s, context := context, customs := customs } :
        ContextualSpecification).create classes).outcome.1
      (({ inner := reordered, context := context, customs := customs } :
        ContextualSpecification).create classes).outcome.1 ∧
    ∀ pairs, matchProperties s.targets s.sources = .ok pairs ↔
      matchProperties targets sources = .ok pairs := by
  refine ⟨?_, ?_, ?_⟩
  · rw [Specification.create_outcome, Specification.create_outcome]
    exact s.compileWith_of_perm classes _ permT permS
  · rw [ContextualSpecification.create_outcome, ContextualSpecification.create_outcome]
    exact s.compileWith_of_perm classes _ permT permS
  · intro pairs
    rw [matchProperties_eq_ok_iff, matchProperties_eq_ok_iff]
    constructor
    · rintro ⟨corresponding, rfl⟩
      exact ⟨corresponding.of_perm permT permS, corresponding.pairsByName_of_perm permT permS⟩
    · rintro ⟨corresponding, rfl⟩
      exact ⟨corresponding.of_perm permT.symm permS.symm,
        corresponding.pairsByName_of_perm permT.symm permS.symm⟩

open scoped RuntimePackages

/-- Two properties that are declared in both orders are paired alike, and both mappers set
them in the order of their names. -/
theorem create_of_perm_reversed :
    let name : TargetProperty := .declare 0 .any "name" (.standard .str) .assignment
    let age : TargetProperty := .declare 1 .any "age" (.standard .int) .assignment
    let name' : SourceProperty :=
      .declare 0 .any "name" (.standard .str) fun _ => pure (.text "Ada")
    let age' : SourceProperty :=
      .declare 1 .any "age" (.standard .int) fun _ => pure (.number 36)
    let s : Specification := {
      target := .any, source := .any, targets := [name, age], sources := [name', age']
      factory? := some (Run.allocate (.record { classId := .declared 0 })) }
    let reordered : Specification := { s with targets := [age, name], sources := [age', name'] }
    s.targets.Perm reordered.targets ∧ s.sources.Perm reordered.sources ∧
      ∃ mapper, (s.create {}).outcome.1 = .ok mapper ∧
        (reordered.create {}).outcome.1 = .ok mapper ∧
        matchProperties reordered.targets reordered.sources = .ok [⟨age, age'⟩, ⟨name, name'⟩] ∧
        ((mapper.map .null).run.run {}).2.heap = ⟨#[.record {
          classId := .declared 0
          attributes := [("age", .number 36), ("name", .text "Ada")] }]⟩ := by
  intro name age name' age' s reordered
  have permT : s.targets.Perm reordered.targets := List.Perm.swap age name []
  have permS : s.sources.Perm reordered.sources := List.Perm.swap age' name' []
  obtain ⟨outcomes, -, pairs⟩ := create_of_perm {} s .any [] permT permS
  have corresponding : Corresponding s.targets s.sources := by
    refine ⟨by decide, by decide, by simp [s, name, age, name', age', TargetProperty.declare,
      SourceProperty.declare], ?_⟩
    intro t memT p memP
    simp only [s, List.mem_cons, List.not_mem_nil, or_false] at memT memP
    rcases memT with rfl | rfl <;> rcases memP with rfl | rfl <;> decide
  have inOrder : pairsByName s.targets s.sources = [⟨age, age'⟩, ⟨name, name'⟩] := by
    simp [pairsByName, byName, List.mergeSort, s, name, age, name', age', TargetProperty.declare,
      SourceProperty.declare]
  have compilable : s.Compilable {} := ⟨corresponding, .inl rfl⟩
  obtain ⟨mapper, created⟩ := compilable.exists_mapper
  refine ⟨permT, permS, mapper, created, ?_, ?_, ?_⟩
  · rw [created] at outcomes
    generalize (reordered.create {}).outcome.1 = outcome at outcomes
    cases outcomes with
    | ok same => exact congrArg Except.ok same.symm
  · rw [← inOrder]
    exact (pairs _).mp ((matchProperties_eq_ok_iff _).mpr ⟨corresponding, rfl⟩)
  · obtain ⟨-, factory, chosen, rfl⟩ := (s.create_eq_ok_iff {} mapper).mp created
    obtain rfl : Run.allocate (.record { classId := .declared 0 }) = factory :=
      Except.ok.inj chosen
    rw [corresponding.createSetters_pairsByName, inOrder]
    rfl

end ObjectMapping
