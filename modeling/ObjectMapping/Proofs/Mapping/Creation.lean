import ObjectMapping.Mapping.Contextual
import ObjectMapping.Proofs.Mapping.Pairing

/-!
# When specifications compile

Compiling a specification either gives a mapper or reports one fault. What
decides is stated apart from how it is checked: `Specification.Compilable` says
when there is a mapper, and `Specification.CreationFault` which fault is
reported otherwise. A contextual specification compiles as the one inside does.
-/

namespace ObjectMapping

/-- Two computations end in the same way: both with errors that are related, or
both with results that are. -/
inductive PairedOutcomes {ε ε' α β : Type} (errors : ε → ε' → Prop) (results : α → β → Prop) :
    Except ε α → Except ε' β → Prop where
  | ok {a b} (related : results a b) : PairedOutcomes errors results (.ok a) (.ok b)
  | error {e e'} (related : errors e e') : PairedOutcomes errors results (.error e) (.error e')

namespace PairedOutcomes

variable {ε ε' α β : Type} {errors : ε → ε' → Prop} {results : α → β → Prop}
  {first : Except ε α} {second : Except ε' β}

theorem of_ok {a : α} (paired : PairedOutcomes errors results first second)
    (ended : first = .ok a) : ∃ b, second = .ok b ∧ results a b := by
  subst ended
  cases paired with
  | ok related => exact ⟨_, rfl, related⟩

theorem of_error {e : ε} (paired : PairedOutcomes errors results first second)
    (ended : first = .error e) : ∃ e', second = .error e' ∧ errors e e' := by
  subst ended
  cases paired with
  | error related => exact ⟨_, rfl, related⟩

/-- Outcomes with the same errors fail alike. -/
theorem error_iff {second : Except ε β} (paired : PairedOutcomes Eq results first second)
    (e : ε) : first = .error e ↔ second = .error e := by
  cases paired with
  | ok => simp
  | error same => simp [same]

theorem mapError {second : Except ε β} {γ : Type} (f : ε → γ)
    (paired : PairedOutcomes Eq results first second) :
    PairedOutcomes Eq results (first.mapError f) (second.mapError f) := by
  cases paired with
  | ok related => exact .ok related
  | error same => exact .error (congrArg f same)

end PairedOutcomes

/-- The factory of a specification, without the report of it. -/
def Specification.chosenFactory [Packages] (classes : ClassTable Code) (s : Specification) :
    Except MappingError Factory :=
  match s.factory?, constructionObstacle? classes s.target with
  | some factory, _ => .ok factory
  | none, none => .ok (classes.callType {} s.target)
  | none, some obstacle => .error (.noDefaultConstructor s.target obstacle)

/-- A specification has a mapper: its properties correspond, and targets can be
made, by a given factory or by calling the target type. -/
structure Specification.Compilable [Packages] (classes : ClassTable Code) (s : Specification) :
    Prop where
  corresponding : Corresponding s.targets s.sources
  constructible : s.factory?.isSome ∨ constructionObstacle? classes s.target = none

/-- The error that reports why a specification has no mapper. Faults of the
properties come before a missing factory. -/
inductive Specification.CreationFault [Packages] (classes : ClassTable Code) (s : Specification) :
    MappingError → Prop where
  | ofMatching {e} (fault : MatchingFault s.targets s.sources e) : CreationFault classes s e
  | noDefaultConstructor {obstacle}
      (corresponding : Corresponding s.targets s.sources)
      (notGiven : s.factory? = none)
      (obstructed : constructionObstacle? classes s.target = some obstacle) :
      CreationFault classes s (.noDefaultConstructor s.target obstacle)

variable (classes : ClassTable Code)

namespace Specification

variable {α : Type} (s : Specification)

/-- What both kinds of specifications are compiled from: the setters of the
matched properties, and the factory. -/
def compileWith [Packages] (finish : List Stage → Factory → α) : Except MappingError α := do
  let pairs ← matchProperties s.targets s.sources
  let factory ← s.chosenFactory classes
  return finish (createSetters classes pairs) factory

/-- What compiling a specification results in, without the report of it. -/
theorem create_outcome [Packages] :
    (s.create classes).outcome.1 = s.compileWith classes fun setters factory =>
      { factory := factory, transform := compose classes (setters ++ s.customs) } := by
  rw [create, compileWith, compileSetters, chosenFactory]
  cases matchProperties s.targets s.sources with
  | error e => rfl
  | ok pairs =>
    cases s.factory? with
    | some factory => rfl
    | none =>
      simp only [resolveFactory]
      cases constructionObstacle? classes s.target <;> rfl

variable (finish : List Stage → Factory → α)

theorem chosenFactory_eq_error_iff [Packages] (e : MappingError) :
    s.chosenFactory classes = .error e ↔
      ∃ obstacle, s.factory? = none ∧
        constructionObstacle? classes s.target = some obstacle ∧
        .noDefaultConstructor s.target obstacle = e := by
  rw [chosenFactory]
  cases s.factory? <;> cases constructionObstacle? classes s.target <;> simp

theorem exists_chosenFactory_iff [Packages] :
    (∃ factory, s.chosenFactory classes = .ok factory) ↔
      s.factory?.isSome ∨ constructionObstacle? classes s.target = none := by
  rw [chosenFactory]
  cases s.factory? <;> cases constructionObstacle? classes s.target <;> simp

/-- Compiling succeeds with what the pairs and the factory are finished to. -/
theorem compileWith_eq_ok_iff [Packages] (a : α) :
    s.compileWith classes finish = .ok a ↔
      Corresponding s.targets s.sources ∧
        ∃ factory, s.chosenFactory classes = .ok factory ∧
          a = finish (createSetters classes (pairsByName s.targets s.sources)) factory := by
  rw [compileWith]
  cases found : matchProperties s.targets s.sources with
  | error e =>
    have mismatched : ¬ Corresponding s.targets s.sources := by
      intro corresponding
      rw [(matchProperties_eq_ok_iff _).mpr ⟨corresponding, rfl⟩] at found
      cases found
    simp [bind, Except.bind, mismatched]
  | ok pairs =>
    obtain ⟨corresponding, rfl⟩ := (matchProperties_eq_ok_iff pairs).mp found
    cases s.chosenFactory classes <;>
      simp [bind, Except.bind, pure, Except.pure, corresponding, eq_comm]

/-- Compiling succeeds with the setters of the pairs, followed by the custom stages. -/
theorem create_eq_ok_iff [Packages] (mapper : Mapper) :
    (s.create classes).outcome.1 = .ok mapper ↔
      Corresponding s.targets s.sources ∧ ∃ factory, s.chosenFactory classes = .ok factory ∧
        mapper = {
          factory := factory
          transform := compose classes
            (createSetters classes (pairsByName s.targets s.sources) ++ s.customs) } := by
  rw [create_outcome, compileWith_eq_ok_iff]

theorem exists_compileWith_iff [Packages] :
    (∃ a, s.compileWith classes finish = .ok a) ↔ s.Compilable classes := by
  simp only [compileWith_eq_ok_iff]
  constructor
  · rintro ⟨_, corresponding, factory, chosen, rfl⟩
    exact ⟨corresponding, (exists_chosenFactory_iff classes s).mp ⟨factory, chosen⟩⟩
  · rintro ⟨corresponding, constructible⟩
    obtain ⟨factory, chosen⟩ := (exists_chosenFactory_iff classes s).mpr constructible
    exact ⟨_, corresponding, factory, chosen, rfl⟩

/-- Compiling fails exactly with the fault that there is. -/
theorem compileWith_eq_error_iff [Packages] (e : MappingError) :
    s.compileWith classes finish = .error e ↔ s.CreationFault classes e := by
  rw [compileWith]
  cases found : matchProperties s.targets s.sources with
  | error e' =>
    have mismatched : ¬ Corresponding s.targets s.sources := by
      intro corresponding
      rw [(matchProperties_eq_ok_iff _).mpr ⟨corresponding, rfl⟩] at found
      cases found
    constructor
    · rintro ⟨⟩
      exact .ofMatching ((matchProperties_eq_error_iff _).mp found)
    · intro fault
      cases fault with
      | ofMatching fault =>
        rw [← found, (matchProperties_eq_error_iff e).mpr fault]
        rfl
      | noDefaultConstructor corresponding => exact absurd corresponding mismatched
  | ok pairs =>
    obtain ⟨corresponding, rfl⟩ := (matchProperties_eq_ok_iff pairs).mp found
    have chosen := chosenFactory_eq_error_iff classes s e
    constructor
    · intro failed
      have refused : s.chosenFactory classes = .error e := by
        cases picked : s.chosenFactory classes <;>
          simp_all [bind, Except.bind, pure, Except.pure]
      obtain ⟨obstacle, notGiven, obstructed, rfl⟩ := chosen.mp refused
      exact .noDefaultConstructor corresponding notGiven obstructed
    · intro fault
      cases fault with
      | ofMatching fault =>
        rw [(matchProperties_eq_error_iff e).mpr fault] at found
        cases found
      | noDefaultConstructor _ notGiven obstructed =>
        rw [chosen.mpr ⟨_, notGiven, obstructed, rfl⟩]
        rfl

end Specification

/-- What compiling a contextual specification results in, without the report of it. -/
theorem ContextualSpecification.create_outcome [Packages] (c : ContextualSpecification) :
    (c.create classes).outcome.1 = c.inner.compileWith classes fun setters factory => {
      factory := factory
      transform := composeContextual classes (setters ++ c.inner.customs) c.customs } := by
  rw [create, Specification.compileWith, Specification.compileSetters,
    Specification.chosenFactory]
  cases matchProperties c.inner.targets c.inner.sources with
  | error e => rfl
  | ok pairs =>
    cases c.inner.factory? with
    | some factory => rfl
    | none =>
      simp only [resolveFactory]
      cases constructionObstacle? classes c.inner.target <;> rfl

theorem Specification.Compilable.exists_mapper [Packages] {classes : ClassTable Code}
    {s : Specification}
    (compilable : s.Compilable classes) : ∃ mapper, (s.create classes).outcome.1 = .ok mapper := by
  rw [s.create_outcome]
  exact (s.exists_compileWith_iff classes _).mpr compilable

theorem ContextualSpecification.exists_mapper [Packages] {classes : ClassTable Code}
    {c : ContextualSpecification} (compilable : c.inner.Compilable classes) :
    ∃ mapper, (c.create classes).outcome.1 = .ok mapper := by
  rw [c.create_outcome]
  exact (c.inner.exists_compileWith_iff classes _).mpr compilable

/-- A specification that has no mapper has exactly one fault. -/
theorem Specification.existsUnique_creationFault [Packages] (s : Specification)
    (notCompilable : ¬ s.Compilable classes) : ∃! e, s.CreationFault classes e := by
  have decided := s.compileWith_eq_error_iff classes fun _ _ => ()
  cases result : s.compileWith classes fun _ _ => () with
  | ok a => exact absurd ((s.exists_compileWith_iff classes _).mp ⟨a, result⟩) notCompilable
  | error e =>
    refine ⟨e, (decided e).mp result, ?_⟩
    intro e' fault
    rw [(decided e').mpr fault] at result
    exact Except.error.inj result

/-- Compiling gives a mapper exactly where the properties correspond and targets
can be made. Otherwise there is exactly one fault, and compiling reports it. -/
theorem create_decides [Packages] (s : Specification) (c : ContextualSpecification) :
    ((∃ mapper, (s.create classes).outcome.1 = .ok mapper) ↔ s.Compilable classes) ∧
    (∀ e, (s.create classes).outcome.1 = .error e ↔ s.CreationFault classes e) ∧
    (¬ s.Compilable classes → ∃! e, s.CreationFault classes e) ∧
    ((∃ mapper, (c.create classes).outcome.1 = .ok mapper) ↔ c.inner.Compilable classes) ∧
    (∀ e, (c.create classes).outcome.1 = .error e ↔ c.inner.CreationFault classes e) := by
  rw [s.create_outcome classes, c.create_outcome classes]
  exact ⟨s.exists_compileWith_iff classes _, s.compileWith_eq_error_iff classes _,
    s.existsUnique_creationFault classes, c.inner.exists_compileWith_iff classes _,
    c.inner.compileWith_eq_error_iff classes _⟩

end ObjectMapping
