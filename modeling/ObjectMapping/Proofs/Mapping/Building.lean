import ObjectMapping.Mapping.Contextual
import Mathlib.Data.List.Nodup

/-!
# Chains of building steps

A specification is built by a chain of calls, each of which may fail. A call is
data here (`BuilderCall`), so that statements can speak of every chain. Plain and
contextual specifications take the same calls; they only differ in what custom
stages and readers are.

What a successful call does is said once for each kind of specification, by
`Performed`. No call adds a property, so that names which do not come twice
(`NamesApart`) never come twice later.
-/

namespace ObjectMapping

/-- A call that builds a specification from another one. -/
inductive BuilderCall (Custom Read : Type) where
  | ignoreTarget (name : String)
  | ignoreSource (name : String)
  | withFactory (factory : Factory)
  | withCustom (custom : Custom)
  /-- Selects a target property and writes what a reader reads. -/
  | setFrom (name : String) (reader : Read)
  /-- Selects a target property and reads it from a source property. -/
  | setFromSource (name source : String)

/-- Reads a value off a source and a context. -/
abbrev ContextualReader := Value → Value → Run Value

/-- A call on a specification. -/
abbrev PlainCall := BuilderCall Stage Reader

/-- A call on a contextual specification. -/
abbrev ContextualCall := BuilderCall ContextualStage ContextualReader

/-- The target property that a call gives a value of its own. -/
def BuilderCall.bound? {Custom Read : Type} : BuilderCall Custom Read → Option String
  | .setFrom name _ | .setFromSource name _ => some name
  | _ => none

/-- The call on a contextual specification that does the same and pays no regard to
the context. -/
def PlainCall.inContext : PlainCall → ContextualCall
  | .ignoreTarget name => .ignoreTarget name
  | .ignoreSource name => .ignoreSource name
  | .withFactory factory => .withFactory factory
  | .withCustom stage => .withCustom fun target source _ => stage target source
  | .setFrom name reader => .setFrom name fun source _ => reader source
  | .setFromSource name source => .setFromSource name source

/-- Performs a call on a specification. -/
def Specification.perform [Packages] (classes : ClassTable Code) (s : Specification) :
    PlainCall → Except MappingError Specification
  | .ignoreTarget name => s.ignoringTarget name
  | .ignoreSource name => s.ignoringSource name
  | .withFactory factory => return s.withFactory factory
  | .withCustom stage => return s.withCustom stage
  | .setFrom name reader => do return (← s.thatSets name).fromReader classes reader
  | .setFromSource name source => do (← s.thatSets name).fromSource classes source

/-- Performs a call on a contextual specification. -/
def ContextualSpecification.perform [Packages] (classes : ClassTable Code)
    (s : ContextualSpecification) : ContextualCall → Except MappingError ContextualSpecification
  | .ignoreTarget name => s.ignoringTarget name
  | .ignoreSource name => s.ignoringSource name
  | .withFactory factory => return s.withFactory factory
  | .withCustom stage => return s.withCustom stage
  | .setFrom name reader => do return (← s.thatSets name).fromReader classes reader
  | .setFromSource name source => do (← s.thatSets name).fromSource classes source

/-- The failure of a chain, told by how many calls came before it and the error,
after some more calls. -/
def failedLater (calls : Nat) (failure : Nat × MappingError) : Nat × MappingError :=
  (calls + failure.1, failure.2)

theorem failedLater_failedLater (first second : Nat) (failure : Nat × MappingError) :
    failedLater first (failedLater second failure) = failedLater (first + second) failure := by
  simp only [failedLater, Nat.add_assoc]

/-- Performs calls one after another. The first that fails ends the chain. -/
def performAll {σ κ : Type} (perform : σ → κ → Except MappingError σ) :
    σ → List κ → Except (Nat × MappingError) σ
  | s, [] => .ok s
  | s, call :: rest =>
      match perform s call with
      | .error e => .error (0, e)
      | .ok s' => (performAll perform s' rest).mapError (failedLater 1)

/-- Performs a chain of calls on a specification. -/
def Specification.performAll [Packages] (classes : ClassTable Code) :
    Specification → List PlainCall → Except (Nat × MappingError) Specification :=
  ObjectMapping.performAll (Specification.perform classes)

/-- Performs a chain of calls on a contextual specification. -/
def ContextualSpecification.performAll [Packages] (classes : ClassTable Code) :
    ContextualSpecification → List ContextualCall →
      Except (Nat × MappingError) ContextualSpecification :=
  ObjectMapping.performAll (ContextualSpecification.perform classes)

/-- Performs calls on a specification, lets it take a context, and goes on with
calls on the contextual specification. -/
def Specification.performInContext [Packages] (classes : ClassTable Code) (s : Specification)
    (before : List PlainCall) (context : TypeExpr) (after : List ContextualCall) :
    Except (Nat × MappingError) ContextualSpecification := do
  let s' ← s.performAll classes before
  ((s'.usingContext context).performAll classes after).mapError (failedLater before.length)

/-- Two steps succeed when the first does and the second does on its result. -/
theorem bind_eq_ok_iff {ε α β : Type} {first : Except ε α} {next : α → Except ε β} {b : β} :
    (first >>= next) = .ok b ↔ ∃ a, first = .ok a ∧ next a = .ok b := by
  cases first <;> simp [bind, Except.bind]

theorem mapError_ok {ε ε' α : Type} (f : ε → ε') (a : α) :
    (.ok a : Except ε α).mapError f = .ok a := rfl

theorem mapError_error {ε ε' α : Type} (f : ε → ε') (e : ε) :
    (.error e : Except ε α).mapError f = .error (f e) := rfl

theorem mapError_eq_ok_iff {ε ε' α : Type} {f : ε → ε'} {result : Except ε α} {a : α} :
    result.mapError f = .ok a ↔ result = .ok a := by
  cases result <;> simp [mapError_ok, mapError_error]

/-- Where no name is twice, removing a property leaves those of other names. -/
theorem withoutTarget_eq {targets : List TargetProperty}
    (distinct : (targets.map (·.name)).Nodup) {t : TargetProperty} (mem : t ∈ targets) :
    withoutTarget targets t = targets.filter fun t' => t'.name ≠ t.name := by
  refine List.filter_congr fun t' memTarget => ?_
  by_cases same : t'.name = t.name
  · obtain rfl : t' = t := List.inj_on_of_nodup_map distinct memTarget mem same
    simp [TargetProperty.isOne]
  · simp [TargetProperty.isOne, same]

/-- Where no name is twice, removing a property leaves those of other names. -/
theorem withoutSource_eq {sources : List SourceProperty}
    (distinct : (sources.map (·.name)).Nodup) {p : SourceProperty} (mem : p ∈ sources) :
    withoutSource sources p = sources.filter fun s => s.name ≠ p.name := by
  refine List.filter_congr fun s memSource => ?_
  by_cases same : s.name = p.name
  · obtain rfl : s = p := List.inj_on_of_nodup_map distinct memSource mem same
    simp [SourceProperty.isOne]
  · simp [SourceProperty.isOne, same]

namespace Specification

variable {s : Specification} {name : String}

/-- A target property that is found by its name is one of the specification. -/
theorem of_targetNamed_eq_ok {t : TargetProperty} (found : s.targetNamed name = .ok t) :
    t ∈ s.targets ∧ t.name = name := by
  rw [targetNamed] at found
  split at found
  · next t' search =>
    cases found
    exact ⟨List.mem_of_find?_eq_some search, by simpa using List.find?_some search⟩
  · cases found

/-- A source property that is found by its name is one of the specification. -/
theorem of_sourceNamed_eq_ok {p : SourceProperty} (found : s.sourceNamed name = .ok p) :
    p ∈ s.sources ∧ p.name = name := by
  rw [sourceNamed] at found
  split at found
  · next p' search =>
    cases found
    exact ⟨List.mem_of_find?_eq_some search, by simpa using List.find?_some search⟩
  · cases found

theorem targetNamed_eq_ok_iff (t : TargetProperty) :
    s.targetNamed name = .ok t ↔ s.targets.find? (·.name == name) = some t := by
  rw [targetNamed]
  cases s.targets.find? (·.name == name) <;> simp

theorem sourceNamed_eq_ok_iff (p : SourceProperty) :
    s.sourceNamed name = .ok p ↔ s.sources.find? (·.name == name) = some p := by
  rw [sourceNamed]
  cases s.sources.find? (·.name == name) <;> simp

variable (classes : ClassTable Code)

/-- What a successful call makes of a specification. -/
inductive Performed [Packages] (s : Specification) : PlainCall → Specification → Prop where
  | ignoreTarget {name t} (found : s.targetNamed name = .ok t) :
      Performed s (.ignoreTarget name) { s with targets := withoutTarget s.targets t }
  | ignoreSource {name p} (found : s.sourceNamed name = .ok p) :
      Performed s (.ignoreSource name) { s with sources := withoutSource s.sources p }
  | withFactory (factory) : Performed s (.withFactory factory) (s.withFactory factory)
  | withCustom (stage) : Performed s (.withCustom stage) (s.withCustom stage)
  | setFrom {name t} (reader) (found : s.targetNamed name = .ok t) :
      Performed s (.setFrom name reader) {
        s with
        targets := withoutTarget s.targets t
        customs := s.customs ++ [t.setter classes reader] }
  | setFromSource {name source t p} (found : s.targetNamed name = .ok t)
      (foundSource : s.sourceNamed source = .ok p) (agree : t.type.agrees p.type = true) :
      Performed s (.setFromSource name source) {
        s with
        targets := withoutTarget s.targets t
        sources := withoutSource s.sources p
        customs := s.customs ++ [t.setter classes p.reader] }

/-- A call succeeds exactly with what `Performed` says. -/
theorem perform_eq_ok_iff [Packages] (call : PlainCall) (s' : Specification) :
    s.perform classes call = .ok s' ↔ s.Performed classes call s' := by
  constructor
  · intro performed
    cases call with
    | ignoreTarget name =>
      obtain ⟨t, found, ⟨⟩⟩ := bind_eq_ok_iff.mp performed
      exact .ignoreTarget found
    | ignoreSource name =>
      obtain ⟨p, found, ⟨⟩⟩ := bind_eq_ok_iff.mp performed
      exact .ignoreSource found
    | withFactory factory =>
      cases performed
      exact .withFactory factory
    | withCustom stage =>
      cases performed
      exact .withCustom stage
    | setFrom name reader =>
      obtain ⟨_, selected, ⟨⟩⟩ := bind_eq_ok_iff.mp performed
      obtain ⟨t, found, ⟨⟩⟩ := bind_eq_ok_iff.mp selected
      exact .setFrom reader found
    | setFromSource name source =>
      obtain ⟨_, selected, bound⟩ := bind_eq_ok_iff.mp performed
      obtain ⟨t, found, ⟨⟩⟩ := bind_eq_ok_iff.mp selected
      obtain ⟨p, foundSource, checked⟩ := bind_eq_ok_iff.mp bound
      cases agree : t.type.agrees p.type with
      | false => simp [agree] at checked
      | true =>
        rw [if_pos agree] at checked
        cases checked
        exact .setFromSource found foundSource agree
  · intro performed
    cases performed with
    | ignoreTarget found => exact bind_eq_ok_iff.mpr ⟨_, found, rfl⟩
    | ignoreSource found => exact bind_eq_ok_iff.mpr ⟨_, found, rfl⟩
    | withFactory factory => rfl
    | withCustom stage => rfl
    | setFrom reader found =>
      exact bind_eq_ok_iff.mpr ⟨_, bind_eq_ok_iff.mpr ⟨_, found, rfl⟩, rfl⟩
    | setFromSource found foundSource agree =>
      refine bind_eq_ok_iff.mpr ⟨_, bind_eq_ok_iff.mpr ⟨_, found, rfl⟩, ?_⟩
      exact bind_eq_ok_iff.mpr ⟨_, foundSource, if_pos agree⟩

/-- No call adds a target property. -/
theorem Performed.targets_subset [Packages] {call : PlainCall} {s' : Specification}
    (performed : s.Performed classes call s') : s'.targets ⊆ s.targets := by
  cases performed with
  | ignoreTarget | setFrom | setFromSource => exact List.filter_sublist.subset
  | ignoreSource | withFactory | withCustom => exact List.Subset.refl _

end Specification

/-- The contextual stage that writes what a reader reads off source and context. -/
def TargetProperty.contextualSetter [Packages] (classes : ClassTable Code) (t : TargetProperty)
    (reader : ContextualReader) : ContextualStage :=
  fun target source context => do
    t.setter classes (ContextualSetter.pairReader reader) target (← Run.pair source context)

namespace ContextualSpecification

variable (classes : ClassTable Code)

/-- What a successful call makes of a contextual specification. -/
inductive Performed [Packages] (c : ContextualSpecification) :
    ContextualCall → ContextualSpecification → Prop where
  | ignoreTarget {name t} (found : c.inner.targetNamed name = .ok t) :
      Performed c (.ignoreTarget name) {
        c with inner := { c.inner with targets := withoutTarget c.inner.targets t } }
  | ignoreSource {name p} (found : c.inner.sourceNamed name = .ok p) :
      Performed c (.ignoreSource name) {
        c with inner := { c.inner with sources := withoutSource c.inner.sources p } }
  | withFactory (factory) : Performed c (.withFactory factory) (c.withFactory factory)
  | withCustom (stage) : Performed c (.withCustom stage) (c.withCustom stage)
  | setFrom {name t} (reader) (found : c.inner.targetNamed name = .ok t) :
      Performed c (.setFrom name reader) {
        c with
        inner := { c.inner with targets := withoutTarget c.inner.targets t }
        customs := c.customs ++ [t.contextualSetter classes reader] }
  | setFromSource {name source t p} (found : c.inner.targetNamed name = .ok t)
      (foundSource : c.inner.sourceNamed source = .ok p)
      (agree : t.type.agrees p.type = true) :
      Performed c (.setFromSource name source) {
        c with
        inner := {
          c.inner with
          targets := withoutTarget c.inner.targets t
          sources := withoutSource c.inner.sources p }
        customs := c.customs ++ [t.contextualSetter classes fun value _ => p.reader value] }

/-- A call succeeds exactly with what `Performed` says. -/
theorem perform_eq_ok_iff [Packages] (c : ContextualSpecification) (call : ContextualCall)
    (c' : ContextualSpecification) :
    c.perform classes call = .ok c' ↔ c.Performed classes call c' := by
  constructor
  · intro performed
    cases call with
    | ignoreTarget name =>
      obtain ⟨_, removed, ⟨⟩⟩ := bind_eq_ok_iff.mp performed
      obtain ⟨t, found, ⟨⟩⟩ := bind_eq_ok_iff.mp removed
      exact .ignoreTarget found
    | ignoreSource name =>
      obtain ⟨_, removed, ⟨⟩⟩ := bind_eq_ok_iff.mp performed
      obtain ⟨p, found, ⟨⟩⟩ := bind_eq_ok_iff.mp removed
      exact .ignoreSource found
    | withFactory factory =>
      cases performed
      exact .withFactory factory
    | withCustom stage =>
      cases performed
      exact .withCustom stage
    | setFrom name reader =>
      obtain ⟨_, selected, ⟨⟩⟩ := bind_eq_ok_iff.mp performed
      obtain ⟨t, found, ⟨⟩⟩ := bind_eq_ok_iff.mp selected
      exact .setFrom reader found
    | setFromSource name source =>
      obtain ⟨_, selected, bound⟩ := bind_eq_ok_iff.mp performed
      obtain ⟨t, found, ⟨⟩⟩ := bind_eq_ok_iff.mp selected
      obtain ⟨p, foundSource, checked⟩ := bind_eq_ok_iff.mp bound
      cases agree : t.type.agrees p.type with
      | false => simp [agree] at checked
      | true =>
        rw [if_pos agree] at checked
        cases checked
        exact .setFromSource found foundSource agree
  · intro performed
    cases performed with
    | ignoreTarget found =>
      exact bind_eq_ok_iff.mpr ⟨_, bind_eq_ok_iff.mpr ⟨_, found, rfl⟩, rfl⟩
    | ignoreSource found =>
      exact bind_eq_ok_iff.mpr ⟨_, bind_eq_ok_iff.mpr ⟨_, found, rfl⟩, rfl⟩
    | withFactory factory => rfl
    | withCustom stage => rfl
    | setFrom reader found =>
      exact bind_eq_ok_iff.mpr ⟨_, bind_eq_ok_iff.mpr ⟨_, found, rfl⟩, rfl⟩
    | setFromSource found foundSource agree =>
      refine bind_eq_ok_iff.mpr ⟨_, bind_eq_ok_iff.mpr ⟨_, found, rfl⟩, ?_⟩
      exact bind_eq_ok_iff.mpr ⟨_, foundSource, if_pos agree⟩

end ContextualSpecification

section Chains

variable {σ κ : Type} (perform : σ → κ → Except MappingError σ)

/-- A chain succeeds when its first call does and the others do on its result. -/
theorem performAll_cons_eq_ok_iff (s : σ) (call : κ) (rest : List κ) (s' : σ) :
    performAll perform s (call :: rest) = .ok s' ↔
      ∃ next, perform s call = .ok next ∧ performAll perform next rest = .ok s' := by
  rw [performAll]
  cases perform s call with
  | error e => simp
  | ok next => simp [mapError_eq_ok_iff]

/-- A chain that goes on from another one tells failures by their place in both. -/
theorem performAll_append (s : σ) (before after : List κ) :
    performAll perform s (before ++ after) =
      (performAll perform s before).bind fun s' =>
        (performAll perform s' after).mapError (failedLater before.length) := by
  induction before generalizing s with
  | nil =>
    simp only [List.nil_append, performAll, Except.bind, List.length_nil]
    cases performAll perform s after <;> simp [mapError_ok, mapError_error, failedLater]
  | cons call rest ih =>
    simp only [List.cons_append, performAll]
    cases perform s call with
    | error e => rfl
    | ok s' =>
      simp only [ih]
      cases performAll perform s' rest with
      | error failure => rfl
      | ok s'' =>
        simp only [Except.bind, mapError_ok, List.length_cons]
        cases performAll perform s'' after with
        | error failure => simp only [mapError_error, failedLater_failedLater, Nat.add_comm 1]
        | ok last => rfl

/-- What each successful call keeps, a successful chain keeps. -/
theorem performAll_preserves {motive : σ → Prop} {calls : List κ}
    (step : ∀ s call s', call ∈ calls → motive s → perform s call = .ok s' → motive s')
    {s s' : σ} (start : motive s) (performed : performAll perform s calls = .ok s') :
    motive s' := by
  induction calls generalizing s with
  | nil =>
    cases performed
    exact start
  | cons call rest ih =>
    obtain ⟨next, first, later⟩ := (performAll_cons_eq_ok_iff perform s call rest s').mp performed
    have kept : motive next := step s call next List.mem_cons_self start first
    exact ih (fun s call s' mem => step s call s' (List.mem_cons_of_mem _ mem)) kept later

end Chains

/-- No chain adds a target property. -/
theorem Specification.targets_subset_of_performAll [Packages] {classes : ClassTable Code}
    {s s' : Specification} {calls : List PlainCall}
    (performed : s.performAll classes calls = .ok s') : s'.targets ⊆ s.targets := by
  refine performAll_preserves _ (motive := fun later => later.targets ⊆ s.targets) ?_
    (List.Subset.refl _) performed
  intro earlier call later _ subset step
  have fewer := ((earlier.perform_eq_ok_iff classes call later).mp step).targets_subset
  exact List.Subset.trans fewer subset

/-- On neither side of the specification does a name come twice. -/
structure Specification.NamesApart (s : Specification) : Prop where
  targets : (s.targets.map (·.name)).Nodup
  sources : (s.sources.map (·.name)).Nodup

namespace Specification.NamesApart

variable {s : Specification} (apart : s.NamesApart)

include apart

/-- Properties that are taken away leave the names of the others apart. -/
theorem of_sublist {s' : Specification} (targets : s'.targets.Sublist s.targets)
    (sources : s'.sources.Sublist s.sources) : s'.NamesApart :=
  ⟨apart.targets.sublist (targets.map _), apart.sources.sublist (sources.map _)⟩

/-- A building step adds no property to either side. -/
theorem perform [Packages] {building : ClassTable Code} {call : PlainCall} {s' : Specification}
    (performed : s.perform building call = .ok s') : s'.NamesApart := by
  cases (s.perform_eq_ok_iff building call s').mp performed with
  | ignoreTarget | setFrom => exact apart.of_sublist List.filter_sublist (List.Sublist.refl _)
  | ignoreSource => exact apart.of_sublist (List.Sublist.refl _) List.filter_sublist
  | setFromSource => exact apart.of_sublist List.filter_sublist List.filter_sublist
  | withFactory | withCustom => exact apart.of_sublist (List.Sublist.refl _) (List.Sublist.refl _)

theorem performAll [Packages] {building : ClassTable Code} {calls : List PlainCall}
    {s' : Specification} (performed : s.performAll building calls = .ok s') : s'.NamesApart :=
  performAll_preserves _ (fun _ _ _ _ apart performed => apart.perform performed) apart performed

end Specification.NamesApart

namespace ContextualSpecification

variable {s s' : ContextualSpecification} {building : ClassTable Code}

/-- Nor does a building step of a contextual specification. -/
theorem namesApart_of_perform [Packages] (apart : s.inner.NamesApart) {call : ContextualCall}
    (performed : s.perform building call = .ok s') : s'.inner.NamesApart := by
  cases (s.perform_eq_ok_iff building call s').mp performed with
  | ignoreTarget | setFrom => exact apart.of_sublist List.filter_sublist (List.Sublist.refl _)
  | ignoreSource => exact apart.of_sublist (List.Sublist.refl _) List.filter_sublist
  | setFromSource => exact apart.of_sublist List.filter_sublist List.filter_sublist
  | withFactory | withCustom => exact apart.of_sublist (List.Sublist.refl _) (List.Sublist.refl _)

theorem namesApart_of_performAll [Packages] (apart : s.inner.NamesApart)
    {calls : List ContextualCall}
    (performed : s.performAll building calls = .ok s') : s'.inner.NamesApart :=
  performAll_preserves _ (motive := fun s => s.inner.NamesApart)
    (fun _ _ _ _ apart performed => namesApart_of_perform apart performed) apart performed

end ContextualSpecification

end ObjectMapping
