import ObjectMapping.Package.Runtime
import ObjectMapping.Proofs.Mapping.Building
import ObjectMapping.Proofs.Mapping.Creation

/-!
# Following the hints of errors

The error that refuses a specification names the properties at fault. Leaving
these out and compiling again is a loop (`Retried`), and this module shows that
it always ends in a mapper, with one failure for each property at most
(`hints_end_compiled`).

Two things carry the argument. A property that an error names is there, so that
the call that leaves it out succeeds and the lists get shorter. And, where names
are distinct, no error names a property that could be matched, so that the names
in `matchableNames` stay what they were: they are the names that are matched in
the end. One round keeps both facts as `Eased`, and the whole loop adds them up.

A factory has to be given. Without one the last error could be that targets cannot
be made, against which no property can be left out.
-/

namespace ObjectMapping

/-- The names that stand on both sides with one type. -/
def matchableNames (targets : List TargetProperty) (sources : List SourceProperty) :
    Set String :=
  {n | ∃ t ∈ targets, ∃ p ∈ sources, t.name = n ∧ p.name = n ∧ t.type.agrees p.type = true}

/-- The calls that an error asks for: leaving out the properties at fault. -/
def MappingError.hintedCalls {Custom Read : Type} :
    MappingError → List (BuilderCall Custom Read)
  | .duplicateTarget first _ => [.ignoreTarget first.name]
  | .duplicateSource first _ => [.ignoreSource first.name]
  | .unmatchedTarget t => [.ignoreTarget t.name]
  | .unmatchedSource p => [.ignoreSource p.name]
  | .incompatible t p => [.ignoreTarget t.name, .ignoreSource p.name]
  | .noDefaultConstructor _ _ | .unknownProperty _ _ _ _ => []

section Removal

variable {targets : List TargetProperty} {sources : List SourceProperty}

theorem mem_withoutTarget_of_ne {t removed : TargetProperty} (mem : t ∈ targets)
    (apart : t.name ≠ removed.name) : t ∈ withoutTarget targets removed := by
  apply List.mem_filter.mpr
  exact ⟨mem, by simp [TargetProperty.isOne, apart]⟩

theorem mem_withoutSource_of_ne {p removed : SourceProperty} (mem : p ∈ sources)
    (apart : p.name ≠ removed.name) : p ∈ withoutSource sources removed := by
  apply List.mem_filter.mpr
  exact ⟨mem, by simp [SourceProperty.isOne, apart]⟩

theorem length_withoutTarget_lt {removed : TargetProperty} (mem : removed ∈ targets) :
    (withoutTarget targets removed).length < targets.length := by
  apply List.length_filter_lt_length_iff_exists.mpr
  exact ⟨removed, mem, by simp [TargetProperty.isOne]⟩

theorem length_withoutSource_lt {removed : SourceProperty} (mem : removed ∈ sources) :
    (withoutSource sources removed).length < sources.length := by
  apply List.length_filter_lt_length_iff_exists.mpr
  exact ⟨removed, mem, by simp [SourceProperty.isOne]⟩

/-- Leaving out a target property whose name cannot be matched loses no name that can. -/
theorem matchableNames_withoutTarget {removed : TargetProperty}
    (unmatchable : removed.name ∉ matchableNames targets sources) :
    matchableNames (withoutTarget targets removed) sources = matchableNames targets sources := by
  ext n
  constructor
  · rintro ⟨t, memT, rest⟩
    exact ⟨t, (List.mem_filter.mp memT).1, rest⟩
  · rintro ⟨t, memT, p, memP, rfl, sameName, agree⟩
    have apart : t.name ≠ removed.name := by
      intro same
      exact unmatchable ⟨t, memT, p, memP, same, sameName.trans same, agree⟩
    exact ⟨t, mem_withoutTarget_of_ne memT apart, p, memP, rfl, sameName, agree⟩

/-- Leaving out a source property whose name cannot be matched loses no name that can. -/
theorem matchableNames_withoutSource {removed : SourceProperty}
    (unmatchable : removed.name ∉ matchableNames targets sources) :
    matchableNames targets (withoutSource sources removed) = matchableNames targets sources := by
  ext n
  constructor
  · rintro ⟨t, memT, p, memP, rest⟩
    exact ⟨t, memT, p, (List.mem_filter.mp memP).1, rest⟩
  · rintro ⟨t, memT, p, memP, sameName, rfl, agree⟩
    have apart : p.name ≠ removed.name := by
      intro same
      exact unmatchable ⟨t, memT, p, memP, sameName.trans same, same, agree⟩
    exact ⟨t, memT, p, mem_withoutSource_of_ne memP apart, sameName, rfl, agree⟩

/-- A name that one side lacks cannot be matched. -/
theorem not_mem_matchableNames_of_not_mem_sources {n : String}
    (lacking : n ∉ sources.map (·.name)) : n ∉ matchableNames targets sources := by
  rintro ⟨_, _, p, memP, _, sameName, _⟩
  exact lacking (List.mem_map.mpr ⟨p, memP, sameName⟩)

theorem not_mem_matchableNames_of_not_mem_targets {n : String}
    (lacking : n ∉ targets.map (·.name)) : n ∉ matchableNames targets sources := by
  rintro ⟨t, memT, _, _, sameName, _⟩
  exact lacking (List.mem_map.mpr ⟨t, memT, sameName⟩)

/-- A name whose two properties differ in type cannot be matched, as there are no
others of that name. -/
theorem not_mem_matchableNames_of_mismatched {n : String}
    (distinctTargets : (targets.map (·.name)).Nodup)
    (distinctSources : (sources.map (·.name)).Nodup)
    (mismatched : n ∈ mismatchedNames targets sources) :
    n ∉ matchableNames targets sources := by
  obtain ⟨t, memT, p, memP, nameT, nameP, differ⟩ := mismatched
  rintro ⟨t', memT', p', memP', nameT', nameP', agree⟩
  have sameT : t' = t :=
    List.inj_on_of_nodup_map distinctTargets memT' memT (nameT'.trans nameT.symm)
  have sameP : p' = p :=
    List.inj_on_of_nodup_map distinctSources memP' memP (nameP'.trans nameP.symm)
  rw [sameT, sameP, differ] at agree
  cases agree

/-- Where the two lists correspond, every name is matchable. -/
theorem Corresponding.mem_matchableNames_iff (corresponding : Corresponding targets sources)
    (n : String) : n ∈ matchableNames targets sources ↔ n ∈ targets.map (·.name) := by
  constructor
  · rintro ⟨t, memT, _, _, sameName, _⟩
    exact List.mem_map.mpr ⟨t, memT, sameName⟩
  · intro mem
    obtain ⟨t, memT, nameT⟩ := List.mem_map.mp mem
    obtain ⟨p, memP, nameP⟩ := List.mem_map.mp ((corresponding.sameNames n).mp mem)
    have agree := corresponding.agreeing t memT p memP (nameT.trans nameP.symm)
    exact ⟨t, memT, p, memP, nameT, nameP, agree⟩

end Removal

/-- How many properties a specification holds on both sides. -/
def Specification.propertyCount (s : Specification) : Nat :=
  s.targets.length + s.sources.length

/-- A specification that differs from another one in that at least so many
properties are left out, none of which could be matched. -/
structure Eased (removed : Nat) (s s' : Specification) : Prop where
  factory : s'.factory? = s.factory?
  targets : s'.targets.Sublist s.targets
  sources : s'.sources.Sublist s.sources
  fewer : s'.propertyCount + removed ≤ s.propertyCount
  matchable : s.NamesApart →
    matchableNames s'.targets s'.sources = matchableNames s.targets s.sources

namespace Eased

variable {s s' s'' : Specification} {removed more : Nat}

theorem refl (s : Specification) : Eased 0 s s :=
  ⟨rfl, List.Sublist.refl _, List.Sublist.refl _, Nat.le_refl _, fun _ => rfl⟩

theorem trans (first : Eased removed s s') (second : Eased more s' s'') :
    Eased (removed + more) s s'' where
  factory := second.factory.trans first.factory
  targets := second.targets.trans first.targets
  sources := second.sources.trans first.sources
  fewer := by
    have early := first.fewer
    have late := second.fewer
    omega
  matchable := by
    intro apart
    have apart' := apart.of_sublist first.targets first.sources
    exact (second.matchable apart').trans (first.matchable apart)

theorem mono (eased : Eased removed s s') (fewer : more ≤ removed) : Eased more s s' where
  factory := eased.factory
  targets := eased.targets
  sources := eased.sources
  fewer := Nat.le_trans (Nat.add_le_add_left fewer _) eased.fewer
  matchable := eased.matchable

end Eased

namespace Specification

variable {s : Specification}

theorem exists_targetNamed {t : TargetProperty} (mem : t ∈ s.targets) :
    ∃ found ∈ s.targets, found.name = t.name ∧ s.targetNamed t.name = .ok found := by
  cases search : s.targets.find? (·.name == t.name) with
  | none =>
    have missing := List.find?_eq_none.mp search t mem
    simp at missing
  | some found =>
    refine ⟨found, List.mem_of_find?_eq_some search, ?_, ?_⟩
    · simpa using List.find?_some search
    · exact (targetNamed_eq_ok_iff found).mpr search

theorem exists_sourceNamed {p : SourceProperty} (mem : p ∈ s.sources) :
    ∃ found ∈ s.sources, found.name = p.name ∧ s.sourceNamed p.name = .ok found := by
  cases search : s.sources.find? (·.name == p.name) with
  | none =>
    have missing := List.find?_eq_none.mp search p mem
    simp at missing
  | some found =>
    refine ⟨found, List.mem_of_find?_eq_some search, ?_, ?_⟩
    · simpa using List.find?_some search
    · exact (sourceNamed_eq_ok_iff found).mpr search

variable (classes : ClassTable Code)

/-- A target property that is there and cannot be matched can be left out. -/
theorem ignoreTarget_eases [Packages] {t : TargetProperty} (mem : t ∈ s.targets)
    (unmatchable : s.NamesApart → t.name ∉ matchableNames s.targets s.sources) :
    ∃ s', s.perform classes (.ignoreTarget t.name) = .ok s' ∧ Eased 1 s s' ∧
      s'.sources = s.sources := by
  obtain ⟨found, memFound, sameName, search⟩ := exists_targetNamed mem
  refine ⟨_, (s.perform_eq_ok_iff classes _ _).mpr (.ignoreTarget search), ?_, rfl⟩
  refine {
    factory := rfl
    targets := List.filter_sublist
    sources := List.Sublist.refl _
    fewer := ?_
    matchable := ?_ }
  · have shorter := length_withoutTarget_lt memFound
    simp only [propertyCount]
    omega
  · intro apart
    apply matchableNames_withoutTarget
    rw [sameName]
    exact unmatchable apart

/-- A source property that is there and cannot be matched can be left out. -/
theorem ignoreSource_eases [Packages] {p : SourceProperty} (mem : p ∈ s.sources)
    (unmatchable : s.NamesApart → p.name ∉ matchableNames s.targets s.sources) :
    ∃ s', s.perform classes (.ignoreSource p.name) = .ok s' ∧ Eased 1 s s' := by
  obtain ⟨found, memFound, sameName, search⟩ := exists_sourceNamed mem
  refine ⟨_, (s.perform_eq_ok_iff classes _ _).mpr (.ignoreSource search), ?_⟩
  refine {
    factory := rfl
    targets := List.Sublist.refl _
    sources := List.filter_sublist
    fewer := ?_
    matchable := ?_ }
  · have shorter := length_withoutSource_lt memFound
    simp only [propertyCount]
    omega
  · intro apart
    apply matchableNames_withoutSource
    rw [sameName]
    exact unmatchable apart

theorem performAll_singleton_eq_ok [Packages] {call : PlainCall} {s' : Specification}
    (performed : s.perform classes call = .ok s') : s.performAll classes [call] = .ok s' :=
  (performAll_cons_eq_ok_iff _ s call [] s').mpr ⟨s', performed, rfl⟩

/-- What an error about the properties asks for succeeds, and it leaves out only
properties that could not be matched. -/
theorem hintedCalls_ease_of_matchingFault [Packages] {e : MappingError}
    (fault : MatchingFault s.targets s.sources e) :
    ∃ s', s.performAll classes e.hintedCalls = .ok s' ∧ Eased 1 s s' := by
  cases fault with
  | @duplicateTarget n first second rest least declared =>
    have mem : first ∈ s.targets :=
      List.mem_of_mem_filter (declared ▸ List.mem_cons_self)
    obtain ⟨s', performed, eased, -⟩ := ignoreTarget_eases classes mem fun apart =>
      absurd least.1 ((nodup_iff_no_repeatedNames _).mp apart.targets n)
    exact ⟨s', performAll_singleton_eq_ok classes performed, eased⟩
  | @duplicateSource n first second rest _ least declared =>
    have mem : first ∈ s.sources :=
      List.mem_of_mem_filter (declared ▸ List.mem_cons_self)
    obtain ⟨s', performed, eased⟩ := ignoreSource_eases classes mem fun apart =>
      absurd least.1 ((nodup_iff_no_repeatedNames _).mp apart.sources n)
    exact ⟨s', performAll_singleton_eq_ok classes performed, eased⟩
  | unmatchedTarget _ _ mem least =>
    obtain ⟨s', performed, eased, -⟩ := ignoreTarget_eases classes mem fun _ =>
      not_mem_matchableNames_of_not_mem_sources least.1.2
    exact ⟨s', performAll_singleton_eq_ok classes performed, eased⟩
  | unmatchedSource _ _ _ mem least =>
    obtain ⟨s', performed, eased⟩ := ignoreSource_eases classes mem fun _ =>
      not_mem_matchableNames_of_not_mem_targets least.1.2
    exact ⟨s', performAll_singleton_eq_ok classes performed, eased⟩
  | @incompatible t p distinctT distinctS _ memT memP sameName least =>
    have unmatchable : t.name ∉ matchableNames s.targets s.sources :=
      not_mem_matchableNames_of_mismatched distinctT distinctS least.1
    obtain ⟨next, first, eased, sameSources⟩ :=
      ignoreTarget_eases classes memT fun _ => unmatchable
    -- The first call leaves the matchable names as they are, so that the name is
    -- none of them either when the source property is left out.
    have unmatchableNext : p.name ∉ matchableNames next.targets next.sources := by
      rw [eased.matchable ⟨distinctT, distinctS⟩, sameName]
      exact unmatchable
    have memNext : p ∈ next.sources := by
      rw [sameSources]
      exact memP
    obtain ⟨s', second, easedNext⟩ :=
      ignoreSource_eases classes memNext fun _ => unmatchableNext
    refine ⟨s', ?_, (eased.trans easedNext).mono (by omega)⟩
    apply (performAll_cons_eq_ok_iff _ _ _ _ _).mpr
    exact ⟨next, first, performAll_singleton_eq_ok classes second⟩

/-- With a factory, whatever error there is asks for calls that succeed. -/
theorem hintedCalls_ease [Packages] (given : s.factory?.isSome) {e : MappingError}
    (fault : s.CreationFault classes e) :
    ∃ s', s.performAll classes e.hintedCalls = .ok s' ∧ Eased 1 s s' := by
  cases fault with
  | ofMatching fault => exact hintedCalls_ease_of_matchingFault classes fault
  | noDefaultConstructor _ notGiven _ => simp [notGiven] at given

end Specification

namespace ContextualSpecification

variable {classes : ClassTable Code} {c : ContextualSpecification} {s' : Specification}

theorem perform_ignoreTarget [Packages] {name : String}
    (performed : c.inner.perform classes (.ignoreTarget name) = .ok s') :
    c.perform classes (.ignoreTarget name) = .ok { c with inner := s' } :=
  bind_eq_ok_iff.mpr ⟨s', performed, rfl⟩

theorem perform_ignoreSource [Packages] {name : String}
    (performed : c.inner.perform classes (.ignoreSource name) = .ok s') :
    c.perform classes (.ignoreSource name) = .ok { c with inner := s' } :=
  bind_eq_ok_iff.mpr ⟨s', performed, rfl⟩

/-- What an error asks for, a contextual specification does to the one inside. -/
theorem performAll_hintedCalls [Packages] {e : MappingError}
    (performed : c.inner.performAll classes e.hintedCalls = .ok s') :
    c.performAll classes e.hintedCalls = .ok { c with inner := s' } := by
  cases e with
  | duplicateTarget | unmatchedTarget =>
    obtain ⟨next, first, ⟨⟩⟩ := (performAll_cons_eq_ok_iff _ _ _ _ _).mp performed
    exact (performAll_cons_eq_ok_iff _ _ _ _ _).mpr ⟨_, perform_ignoreTarget first, rfl⟩
  | duplicateSource | unmatchedSource =>
    obtain ⟨next, first, ⟨⟩⟩ := (performAll_cons_eq_ok_iff _ _ _ _ _).mp performed
    exact (performAll_cons_eq_ok_iff _ _ _ _ _).mpr ⟨_, perform_ignoreSource first, rfl⟩
  | incompatible =>
    obtain ⟨next, first, later⟩ := (performAll_cons_eq_ok_iff _ _ _ _ _).mp performed
    obtain ⟨last, second, ⟨⟩⟩ := (performAll_cons_eq_ok_iff _ _ _ _ _).mp later
    apply (performAll_cons_eq_ok_iff _ _ _ _ _).mpr
    refine ⟨_, perform_ignoreTarget first, ?_⟩
    exact (performAll_cons_eq_ok_iff _ _ _ _ _).mpr ⟨_, perform_ignoreSource second, rfl⟩
  | noDefaultConstructor | unknownProperty =>
    cases performed
    rfl

end ContextualSpecification

section Loop

variable {σ μ Custom Read : Type} (create : σ → Except MappingError μ)
  (perform : σ → BuilderCall Custom Read → Except MappingError σ)

/-- What is reached by compiling and doing what the error asks for, again and
again, after a number of failures. -/
inductive Retried (start : σ) : Nat → σ → Prop where
  | start : Retried start 0 start
  | again {failures s e s'} (earlier : Retried start failures s) (failed : create s = .error e)
      (performed : performAll perform s e.hintedCalls = .ok s') : Retried start (failures + 1) s'

/-- Following the hints of errors from a specification ends in a mapper. -/
structure EndsCompiled (inner : σ → Specification) (start : σ) : Prop where
  /-- No call that an error asks for fails. -/
  hintsApply : ∀ failures s e, Retried create perform start failures s → create s = .error e →
    ∃ s', performAll perform s e.hintedCalls = .ok s'
  /-- There are at most as many failures as properties. -/
  bounded : ∀ failures s, Retried create perform start failures s →
    failures ≤ (inner start).targets.length + (inner start).sources.length
  ends : ∃ failures last mapper,
    Retried create perform start failures last ∧ create last = .ok mapper
  /-- From distinct names on, what is matched in the end are the names that stood
  on both sides with one type. -/
  matched : ((inner start).targets.map (·.name)).Nodup →
    ((inner start).sources.map (·.name)).Nodup →
    ∀ failures last mapper, Retried create perform start failures last →
      create last = .ok mapper →
      ∃ pairs, matchProperties (inner last).targets (inner last).sources = .ok pairs ∧
        ∀ n, n ∈ pairs.map (·.target.name) ↔
          ∃ t ∈ (inner start).targets, ∃ p ∈ (inner start).sources,
            t.name = n ∧ p.name = n ∧ t.type.agrees p.type = true

/-- A kind of specification, around a plain one each, whose errors can be made up for. -/
structure Recovers (inner : σ → Specification) : Prop where
  step : ∀ s e, (inner s).factory?.isSome → create s = .error e →
    ∃ s', performAll perform s e.hintedCalls = .ok s' ∧ Eased 1 (inner s) (inner s')
  compiled : ∀ s mapper, create s = .ok mapper →
    Corresponding (inner s).targets (inner s).sources

variable {create perform} {inner : σ → Specification}

/-- Each failure leaves out a property at least. -/
theorem Retried.eased (recovers : Recovers create perform inner) {start : σ}
    (given : (inner start).factory?.isSome) {failures : Nat} {s : σ}
    (retried : Retried create perform start failures s) :
    Eased failures (inner start) (inner s) := by
  induction retried with
  | start => exact Eased.refl _
  | again earlier failed performed ih =>
    obtain ⟨s', performed', eased⟩ := recovers.step _ _ (ih.factory ▸ given) failed
    rw [performed] at performed'
    cases performed'
    exact ih.trans eased

/-- The loop ends, by induction on the number of properties that are left. -/
theorem Recovers.exists_retried (recovers : Recovers create perform inner) {start : σ} :
    ∀ (count failures : Nat) (s : σ), (inner s).propertyCount ≤ count →
      (inner s).factory?.isSome → Retried create perform start failures s →
      ∃ failures last mapper,
        Retried create perform start failures last ∧ create last = .ok mapper := by
  intro count
  induction count with
  | zero =>
    intro failures s few given retried
    cases result : create s with
    | ok mapper => exact ⟨failures, s, mapper, retried, result⟩
    | error e =>
      obtain ⟨s', -, eased⟩ := recovers.step s e given result
      have fewer := eased.fewer
      omega
  | succ count ih =>
    intro failures s few given retried
    cases result : create s with
    | ok mapper => exact ⟨failures, s, mapper, retried, result⟩
    | error e =>
      obtain ⟨s', performed, eased⟩ := recovers.step s e given result
      have fewer := eased.fewer
      exact ih (failures + 1) s' (by omega) (eased.factory ▸ given)
        (retried.again result performed)

theorem Recovers.endsCompiled (recovers : Recovers create perform inner) {start : σ}
    (given : (inner start).factory?.isSome) : EndsCompiled create perform inner start where
  hintsApply := by
    intro failures s e retried failed
    have eased := retried.eased recovers given
    obtain ⟨s', performed, -⟩ := recovers.step s e (eased.factory ▸ given) failed
    exact ⟨s', performed⟩
  bounded := by
    intro failures s retried
    have fewer := (retried.eased recovers given).fewer
    simp only [Specification.propertyCount] at fewer
    omega
  ends := recovers.exists_retried _ 0 start (Nat.le_refl _) given .start
  matched := by
    intro distinctT distinctS failures last mapper retried compiled
    have eased := retried.eased recovers given
    have corresponding := recovers.compiled last mapper compiled
    refine ⟨_, (matchProperties_eq_ok_iff _).mpr ⟨corresponding, rfl⟩, ?_⟩
    intro n
    rw [corresponding.names_pairsByName, ((byName_perm _ _).map _).mem_iff,
      ← corresponding.mem_matchableNames_iff, eased.matchable ⟨distinctT, distinctS⟩]
    rfl

end Loop

variable (classes : ClassTable Code)

theorem Specification.recovers [Packages] :
    Recovers (fun s : Specification => (s.create classes).outcome.1)
      (Specification.perform classes) id where
  step := by
    intro s e given failed
    rw [s.create_outcome] at failed
    exact hintedCalls_ease classes given ((s.compileWith_eq_error_iff classes _ e).mp failed)
  compiled := by
    intro s mapper compiled
    exact ((s.create_eq_ok_iff classes mapper).mp compiled).1

theorem ContextualSpecification.recovers [Packages] :
    Recovers (fun c : ContextualSpecification => (c.create classes).outcome.1)
      (ContextualSpecification.perform classes) (·.inner) where
  step := by
    intro c e given failed
    rw [c.create_outcome] at failed
    obtain ⟨s', performed, eased⟩ := Specification.hintedCalls_ease classes given
      ((c.inner.compileWith_eq_error_iff classes _ e).mp failed)
    exact ⟨_, performAll_hintedCalls performed, eased⟩
  compiled := by
    intro c mapper compiled
    rw [c.create_outcome] at compiled
    exact ((c.inner.compileWith_eq_ok_iff classes _ mapper).mp compiled).1

/-- With a given factory, doing what each error asks for and compiling again always
ends in a mapper, also for a contextual specification. -/
theorem hints_end_compiled [Packages] (s : Specification) (context : TypeExpr)
    (customs : List ContextualStage) (given : s.factory?.isSome) :
    EndsCompiled (fun s : Specification => (s.create classes).outcome.1)
      (Specification.perform classes) id s ∧
    EndsCompiled (fun c : ContextualSpecification => (c.create classes).outcome.1)
      (ContextualSpecification.perform classes) (·.inner)
      { inner := s, context := context, customs := customs } :=
  ⟨(Specification.recovers classes).endsCompiled given,
    (ContextualSpecification.recovers classes).endsCompiled given⟩

open scoped RuntimePackages

/-- A name that is declared twice, one that no source has, and one of two types
are left out in turn. -/
theorem hints_end_compiled_of_faults :
    let title : TargetProperty := .declare 0 .any "title" (.standard .str) .assignment
    let early : TargetProperty := .declare 1 .any "name" (.standard .str) .assignment
    let late : TargetProperty := .declare 2 .any "name" (.standard .str) .assignment
    let age : TargetProperty := .declare 3 .any "age" (.standard .int) .assignment
    let age' : SourceProperty := .declare 0 .any "age" (.standard .str) pure
    let name' : SourceProperty := .declare 1 .any "name" (.standard .str) pure
    let s : Specification := {
      target := .any, source := .any, targets := [title, early, late, age]
      sources := [age', name'], factory? := some (pure .null) }
    s.factory?.isSome ∧
      EndsCompiled (fun s : Specification => (s.create {}).outcome.1)
        (Specification.perform {}) id s := by
  intro title early late age age' name' s
  have given : s.factory?.isSome := rfl
  exact ⟨given, (hints_end_compiled {} s .any [] given).1⟩

end ObjectMapping
