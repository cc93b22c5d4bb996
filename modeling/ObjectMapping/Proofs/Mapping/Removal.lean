import ObjectMapping.Package.Runtime
import ObjectMapping.Proofs.Mapping.Accounting

/-!
# What dropping a name leaves

A call that drops a property takes the entry off the list that it finds by the
name. Lists are only checked when a specification is compiled, so that they may
hold other entries of that name, and these stay. `dropped_name_gone_iff` says when
a name is gone from the list, and from the setters of a mapper that is compiled
afterwards: exactly if it stood for one entry (`OneEntry`).

The two sides of a specification are lists of properties with a name and an
identity, and one lemma speaks of both (`LosesEntry.of_found`).
-/

namespace ObjectMapping

section Lists

variable {Property : Type} (name : Property → String) (identity : Property → Nat)

/-- All properties of a name are one entry, which may be listed more than once. -/
def OneEntry (properties : List Property) (n : String) : Prop :=
  ∀ p ∈ properties, ∀ p' ∈ properties, name p = n → name p' = n → identity p = identity p'

/-- A list loses the first entry of a name, wherever the entry is listed. -/
structure LosesEntry (before after : List Property) (n : String) : Prop where
  entry : ∃ p, before.find? (name · == n) = some p ∧
    after = before.filter fun p' => !(identity p' == identity p && name p' == name p)
  /-- The name is gone exactly if it stood for one entry. -/
  gone_iff : n ∉ after.map name ↔ OneEntry name identity before n

variable {name identity}

theorem LosesEntry.of_found {before : List Property} {n : String} {p : Property}
    (found : before.find? (name · == n) = some p) :
    LosesEntry name identity before
      (before.filter fun p' => !(identity p' == identity p && name p' == name p)) n where
  entry := ⟨p, found, rfl⟩
  gone_iff := by
    have memP : p ∈ before := List.mem_of_find?_eq_some found
    have named : name p = n := by simpa using List.find?_some found
    constructor
    · intro gone
      -- A property of the name that is another entry would have stayed.
      have sameEntry : ∀ p' ∈ before, name p' = n → identity p' = identity p := by
        intro p' mem named'
        by_contra other
        exact gone (List.mem_map.mpr ⟨p', List.mem_filter.mpr ⟨mem, by simp [other]⟩, named'⟩)
      intro p₁ mem₁ p₂ mem₂ named₁ named₂
      exact (sameEntry p₁ mem₁ named₁).trans (sameEntry p₂ mem₂ named₂).symm
    · intro oneEntry stays
      obtain ⟨p', mem, named'⟩ := List.mem_map.mp stays
      obtain ⟨mem', kept⟩ := List.mem_filter.mp mem
      simp [oneEntry p' mem' p memP named' named, named', named] at kept

end Lists

/-- A name of a target property stands for one entry of the specification. -/
abbrev Specification.OneTarget (s : Specification) : String → Prop :=
  OneEntry (·.name) (·.identity) s.targets

/-- A name of a source property stands for one entry of the specification. -/
abbrev Specification.OneSource (s : Specification) : String → Prop :=
  OneEntry (·.name) (·.identity) s.sources

namespace BuilderCall

variable {Custom Read : Type}

/-- A call takes one entry off each list that it drops a name from. -/
structure DropsEntries (call : BuilderCall Custom Read) (before after : Specification) : Prop where
  targets : ∀ n, call.droppedTarget? = some n →
    LosesEntry (·.name) (·.identity) before.targets after.targets n
  sources : ∀ n, call.droppedSource? = some n →
    LosesEntry (·.name) (·.identity) before.sources after.sources n

/-- No pair is one of a name that a call drops, exactly if the name stood for one entry. -/
structure MatchedWithout (call : BuilderCall Custom Read) (before : Specification)
    (pairs : List PropertyPair) : Prop where
  notWritten_iff : ∀ n, call.droppedTarget? = some n →
    ((∀ pair ∈ pairs, pair.target.name ≠ n) ↔ before.OneTarget n)
  notRead_iff : ∀ n, call.droppedSource? = some n →
    ((∀ pair ∈ pairs, pair.source.name ≠ n) ↔ before.OneSource n)

variable {call : BuilderCall Custom Read} {before after : Specification}

/-- The names of the pairs are those that are left in the lists. -/
theorem DropsEntries.matchedWithout (drops : call.DropsEntries before after)
    (corresponding : Corresponding after.targets after.sources) :
    call.MatchedWithout before (pairsByName after.targets after.sources) where
  notWritten_iff := by
    intro n dropped
    have names : (∃ pair ∈ pairsByName after.targets after.sources, pair.target.name = n) ↔
        n ∈ after.targets.map (·.name) := by
      rw [← ((byName_perm (·.name) after.targets).map _).mem_iff,
        ← corresponding.names_pairsByName, List.mem_map]
    rw [Specification.OneTarget, ← (drops.targets n dropped).gone_iff, ← names]
    simp
  notRead_iff := by
    intro n dropped
    have names : (∃ pair ∈ pairsByName after.targets after.sources, pair.source.name = n) ↔
        n ∈ after.sources.map (·.name) := by
      rw [← ((byName_perm (·.name) after.sources).map _).mem_iff,
        ← corresponding.sources_pairsByName, List.map_map, List.mem_map]
      rfl
    rw [Specification.OneSource, ← (drops.sources n dropped).gone_iff, ← names]
    simp

end BuilderCall

namespace Specification

variable {s : Specification} {name : String}

theorem losesEntry_of_targetNamed {t : TargetProperty} (found : s.targetNamed name = .ok t) :
    LosesEntry (·.name) (·.identity) s.targets (withoutTarget s.targets t) name :=
  .of_found ((targetNamed_eq_ok_iff t).mp found)

theorem losesEntry_of_sourceNamed {p : SourceProperty} (found : s.sourceNamed name = .ok p) :
    LosesEntry (·.name) (·.identity) s.sources (withoutSource s.sources p) name :=
  .of_found ((sourceNamed_eq_ok_iff p).mp found)

variable {classes : ClassTable Code} {built : Specification}

theorem dropsEntries_of_perform [Packages] {call : PlainCall}
    (performed : s.perform classes call = .ok built) : call.DropsEntries s built := by
  cases (s.perform_eq_ok_iff classes call built).mp performed with
  | ignoreTarget found | setFrom _ found =>
    refine ⟨?_, nofun⟩
    rintro n ⟨⟩
    exact losesEntry_of_targetNamed found
  | ignoreSource found =>
    refine ⟨nofun, ?_⟩
    rintro n ⟨⟩
    exact losesEntry_of_sourceNamed found
  | withFactory | withCustom => exact ⟨nofun, nofun⟩
  | setFromSource found foundSource =>
    constructor
    · rintro n ⟨⟩
      exact losesEntry_of_targetNamed found
    · rintro n ⟨⟩
      exact losesEntry_of_sourceNamed foundSource

end Specification

theorem ContextualSpecification.dropsEntries_of_perform [Packages] {classes : ClassTable Code}
    {c built : ContextualSpecification} {call : ContextualCall}
    (performed : c.perform classes call = .ok built) : call.DropsEntries c.inner built.inner := by
  cases (c.perform_eq_ok_iff classes call built).mp performed with
  | ignoreTarget found | setFrom _ found =>
    refine ⟨?_, nofun⟩
    rintro n ⟨⟩
    exact Specification.losesEntry_of_targetNamed found
  | ignoreSource found =>
    refine ⟨nofun, ?_⟩
    rintro n ⟨⟩
    exact Specification.losesEntry_of_sourceNamed found
  | withFactory | withCustom => exact ⟨nofun, nofun⟩
  | setFromSource found foundSource =>
    constructor
    · rintro n ⟨⟩
      exact Specification.losesEntry_of_targetNamed found
    · rintro n ⟨⟩
      exact Specification.losesEntry_of_sourceNamed foundSource

/-- A call takes off the entry that a name finds first. The name is gone from the
list, and from the matched setters of every mapper that is compiled of what is
left, exactly if it stood for one entry before. -/
theorem dropped_name_gone_iff [Packages] (building compiling : ClassTable Code) :
    (∀ s call built, Specification.perform building s call = .ok built →
      call.DropsEntries s built ∧
        ∀ mapper, (built.create compiling).outcome.1 = .ok mapper → ∃ pairs,
          mapper.transform =
            compose compiling (pairs.map (·.setter compiling) ++ built.customs) ∧
          call.MatchedWithout s pairs) ∧
    ∀ c call built, ContextualSpecification.perform building c call = .ok built →
      call.DropsEntries c.inner built.inner ∧
        ∀ mapper, (built.create compiling).outcome.1 = .ok mapper → ∃ pairs,
          mapper.transform = composeContextual compiling
            (pairs.map (·.setter compiling) ++ built.inner.customs) built.customs ∧
          call.MatchedWithout c.inner pairs := by
  constructor
  · intro s call built performed
    have drops := Specification.dropsEntries_of_perform performed
    refine ⟨drops, fun mapper compiled => ?_⟩
    obtain ⟨corresponding, factory, -, rfl⟩ := (built.create_eq_ok_iff compiling mapper).mp compiled
    refine ⟨pairsByName built.targets built.sources, ?_, drops.matchedWithout corresponding⟩
    rw [corresponding.createSetters_pairsByName]
  · intro c call built performed
    have drops := ContextualSpecification.dropsEntries_of_perform performed
    refine ⟨drops, fun mapper compiled => ?_⟩
    rw [built.create_outcome] at compiled
    obtain ⟨corresponding, factory, -, rfl⟩ :=
      (built.inner.compileWith_eq_ok_iff compiling _ mapper).mp compiled
    refine ⟨pairsByName built.inner.targets built.inner.sources, ?_,
      drops.matchedWithout corresponding⟩
    rw [corresponding.createSetters_pairsByName]

section Twofold

/-- A target property that stores a title, told apart from others by its identity. -/
def listedTitle (identity : Nat) : TargetProperty :=
  .declare identity .any "title" (.standard .str) .assignment

/-- A source that is its own title. -/
def listedTitleSource (identity : Nat) : SourceProperty :=
  .declare identity .any "title" (.standard .str) pure

/-- A specification that lists two properties of one name on each side. -/
def twofoldSpecification : Specification where
  target := .any
  source := .any
  targets := [listedTitle 0, listedTitle 1]
  sources := [listedTitleSource 0, listedTitleSource 1]
  factory? := some (pure .null)

/-- What is left of it when both sides have lost an entry. -/
def onefoldSpecification (customs : List Stage) : Specification :=
  { twofoldSpecification with
    targets := [listedTitle 1], sources := [listedTitleSource 1], customs := customs }

theorem onefoldSpecification_compiled [Packages] (customs : List Stage) :
    ((onefoldSpecification customs).create {}).outcome.1 = .ok {
      factory := pure .null
      transform :=
        compose {} ((listedTitle 1).setter {} (listedTitleSource 1).reader :: customs) } := by
  rw [Specification.create_eq_ok_iff]
  have corresponding : Corresponding (onefoldSpecification customs).targets
      (onefoldSpecification customs).sources := corresponding_singleton rfl rfl
  have onePair : pairsByName (onefoldSpecification customs).targets
      (onefoldSpecification customs).sources = [⟨listedTitle 1, listedTitleSource 1⟩] := by
    simp [pairsByName, byName, onefoldSpecification]
  refine ⟨corresponding, pure .null, rfl, ?_⟩
  rw [corresponding.createSetters_pairsByName, onePair]
  rfl

open scoped RuntimePackages

/-- Binding the title to the title takes one entry off each side. The mapper that is
compiled of the rest has a matched setter that writes the title. -/
theorem dropped_name_gone_iff_twofold :
    let stage := (listedTitle 0).setter {} (listedTitleSource 0).reader
    twofoldSpecification.perform {} (.setFromSource "title" "title") =
        .ok (onefoldSpecification [stage]) ∧
      "title" ∈ (onefoldSpecification [stage]).targets.map (·.name) ∧
      ∃ mapper, ((onefoldSpecification [stage]).create {}).outcome.1 = .ok mapper ∧
        ∃ pairs : List PropertyPair,
          mapper.transform = compose {} (pairs.map (·.setter {}) ++ [stage]) ∧
          ∃ pair ∈ pairs, pair.target.name = "title" := by
  intro stage
  have performed : twofoldSpecification.perform {} (.setFromSource "title" "title") =
      .ok (onefoldSpecification [stage]) := rfl
  obtain ⟨drops, matched⟩ := (dropped_name_gone_iff {} {}).1 _ _ _ performed
  have two : ¬ twofoldSpecification.OneTarget "title" := by
    intro oneEntry
    have same := oneEntry (listedTitle 0) (by simp [twofoldSpecification]) (listedTitle 1)
      (by simp [twofoldSpecification]) rfl rfl
    cases same
  refine ⟨performed, ?_, _, onefoldSpecification_compiled [stage], ?_⟩
  · by_contra gone
    exact two ((drops.targets "title" rfl).gone_iff.mp gone)
  · obtain ⟨pairs, transform, without⟩ := matched _ (onefoldSpecification_compiled [stage])
    refine ⟨pairs, transform, ?_⟩
    by_contra none
    refine two ((without.notWritten_iff "title" rfl).mp ?_)
    exact fun pair mem named => none ⟨pair, mem, named⟩

/-- After the title is ignored on both sides, a mapper still writes it. -/
theorem title_matched_after_ignoring :
    twofoldSpecification.performAll {} [.ignoreTarget "title", .ignoreSource "title"] =
        .ok (onefoldSpecification []) ∧
      (onefoldSpecification []).targets.map (·.name) = ["title"] ∧
      ∃ mapper, ((onefoldSpecification []).create {}).outcome.1 = .ok mapper ∧
        mapper.transform = compose {} [(listedTitle 1).setter {} (listedTitleSource 1).reader] :=
  ⟨rfl, rfl, _, onefoldSpecification_compiled [], rfl⟩

end Twofold

end ObjectMapping
