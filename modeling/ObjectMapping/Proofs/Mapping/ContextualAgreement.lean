import ObjectMapping.Package.Runtime
import ObjectMapping.Proofs.Mapping.Building
import ObjectMapping.Proofs.Mapping.Creation

/-!
# Contextual specifications agree with plain ones

A chain of calls on a specification and the same chain with a context taken up
somewhere on the way, whose later readers and stages ignore the context, fail at
the same call or both succeed; then they compile alike, and the two mappers do
the same (`agreeInContext`). The mappers are compared as computations,
so that every read, write and call of one is made by the other, in the same order
and with the same outcome.

The relation that each call keeps is `Mirrors`: the contextual specification holds
as contextual stages what the plain one holds behind the stages of the inner one.

A property that is bound in a context takes the pair of source and context for its
source. A target property that looks at the source itself sees that pair, so that
the properties bound in the context have to use it through the reader alone.
-/

namespace ObjectMapping

/-- A stage as a contextual stage that pays no regard to the context. -/
def Stage.inContext (stage : Stage) : ContextualStage :=
  fun target source _ => stage target source

/-- What is written is decided by what the reader reads off the source, not by the source. -/
def TargetProperty.WritesByValue [Packages] (classes : ClassTable Code) (t : TargetProperty) :
    Prop :=
  ∀ (reader reader' : Reader) (source source' : Value), reader source = reader' source' →
    ∀ target, t.setter classes reader target source = t.setter classes reader' target source'

/-- A contextual specification does what a plain one does: its stages are those
that the plain one has behind the stages of the inner one. -/
inductive ContextualSpecification.Mirrors : ContextualSpecification → Specification → Prop where
  | intro (inner : Specification) (context : TypeExpr) (later : List Stage) :
      Mirrors { inner := inner, context := context, customs := later.map Stage.inContext }
        { inner with customs := inner.customs ++ later }

variable {classes : ClassTable Code}

theorem TargetProperty.writesByValue_of_assignment [Packages] {t : TargetProperty}
    (mode : t.mode = .assignment) : t.WritesByValue classes := by
  intro reader reader' source source' same target
  simp only [setter, mode, same]

/-- Making a pair and then paying no regard to it is doing nothing. -/
theorem Run.pair_bind_of_forall {α : Type} (source context : Value) (next : Value → Run α)
    (run : Run α) (same : ∀ making, next (.tuple [source, context] making) = run) :
    (Run.pair source context >>= next) = run := by
  funext world
  have here := same (.paired world.makings)
  rw [← here]
  rfl

/-- The stage that a property bound in a context adds is the plain one. -/
theorem ContextualSetter.write_pair_eq [Packages] {t : TargetProperty}
    (byValue : t.WritesByValue classes) (reader : Reader) :
    (fun target source context => do
      t.setter classes (pairReader fun source _ => reader source) target
        (← Run.pair source context)) = (t.setter classes reader).inContext := by
  funext target source context
  refine Run.pair_bind_of_forall source context _ _ ?_
  intro making
  exact byValue _ reader (.tuple [source, context] making) source rfl target

namespace ContextualSpecification

/-- A stage that both take up keeps them alike. -/
theorem mirrors_append (inner : Specification) (context : TypeExpr) (later : List Stage)
    (stage : Stage) :
    Mirrors {
        inner := inner
        context := context
        customs := later.map Stage.inContext ++ [stage.inContext] }
      { inner with customs := inner.customs ++ later ++ [stage] } := by
  have longer := Mirrors.intro inner context (later ++ [stage])
  rwa [List.map_append, ← List.append_assoc] at longer

/-- A property that both bind to what a reader reads keeps them alike. -/
theorem mirrors_bind [Packages] (inner : Specification) (context : TypeExpr) (later : List Stage)
    {t : TargetProperty} (byValue : t.WritesByValue classes) (reader : Reader) :
    Mirrors {
        inner := inner
        context := context
        customs := later.map Stage.inContext ++ [fun target source context => do
          t.setter classes (ContextualSetter.pairReader fun source _ => reader source) target
            (← Run.pair source context)] }
      { inner with customs := inner.customs ++ later ++ [t.setter classes reader] } := by
  rw [ContextualSetter.write_pair_eq byValue]
  exact mirrors_append inner context later _

/-- One call keeps two specifications alike, or fails on both with the same error. -/
theorem Mirrors.perform [Packages] {c : ContextualSpecification} {s : Specification}
    (mirrors : c.Mirrors s) (call : PlainCall)
    (byValue : ∀ t ∈ s.targets, call.bound? = some t.name → t.WritesByValue classes) :
    PairedOutcomes Eq (fun s c => c.Mirrors s) (s.perform classes call)
      (c.perform classes call.inContext) := by
  obtain ⟨inner, context, later⟩ := mirrors
  cases call with
  | ignoreTarget name =>
    show PairedOutcomes _ _ (inner.targetNamed name >>= _)
      ((inner.targetNamed name >>= _) >>= _)
    cases inner.targetNamed name with
    | error e => exact .error rfl
    | ok t =>
      exact .ok (.intro { inner with targets := withoutTarget inner.targets t } context later)
  | ignoreSource name =>
    show PairedOutcomes _ _ (inner.sourceNamed name >>= _)
      ((inner.sourceNamed name >>= _) >>= _)
    cases inner.sourceNamed name with
    | error e => exact .error rfl
    | ok p =>
      exact .ok (.intro { inner with sources := withoutSource inner.sources p } context later)
  | withFactory factory =>
    exact .ok (.intro (inner.withFactory factory) context later)
  | withCustom stage =>
    exact .ok (mirrors_append inner context later stage)
  | setFrom name reader =>
    show PairedOutcomes _ _ ((inner.targetNamed name >>= _) >>= _)
      ((inner.targetNamed name >>= _) >>= _)
    cases found : inner.targetNamed name with
    | error e => exact .error rfl
    | ok t =>
      obtain ⟨mem, sameName⟩ := Specification.of_targetNamed_eq_ok found
      exact .ok (mirrors_bind { inner with targets := withoutTarget inner.targets t } context
        later (byValue t mem (congrArg some sameName.symm)) reader)
  | setFromSource name sourceName =>
    show PairedOutcomes _ _ ((inner.targetNamed name >>= _) >>= _)
      ((inner.targetNamed name >>= _) >>= _)
    cases found : inner.targetNamed name with
    | error e => exact .error rfl
    | ok t =>
      obtain ⟨mem, sameName⟩ := Specification.of_targetNamed_eq_ok found
      show PairedOutcomes _ _ (inner.sourceNamed sourceName >>= _)
        (inner.sourceNamed sourceName >>= _)
      cases inner.sourceNamed sourceName with
      | error e => exact .error rfl
      | ok p =>
        show PairedOutcomes _ _ (if t.type.agrees p.type then _ else _)
          (if t.type.agrees p.type then _ else _)
        split
        · exact .ok (mirrors_bind {
              inner with
              targets := withoutTarget inner.targets t
              sources := withoutSource inner.sources p }
            context later (byValue t mem (congrArg some sameName.symm)) p.reader)
        · exact .error rfl

/-- A chain of calls keeps two specifications alike, or fails on both at the same
call with the same error. -/
theorem Mirrors.performAll [Packages] {c : ContextualSpecification} {s : Specification}
    (mirrors : c.Mirrors s) (calls : List PlainCall)
    (byValue : ∀ t ∈ s.targets, ∀ call ∈ calls, call.bound? = some t.name →
      t.WritesByValue classes) :
    PairedOutcomes Eq (fun s c => c.Mirrors s) (s.performAll classes calls)
      (c.performAll classes (calls.map PlainCall.inContext)) := by
  induction calls generalizing c s with
  | nil => exact .ok mirrors
  | cons call rest ih =>
    have step := mirrors.perform call fun t mem => byValue t mem call List.mem_cons_self
    simp only [List.map_cons, Specification.performAll, ContextualSpecification.performAll,
      ObjectMapping.performAll]
    cases plain : s.perform classes call with
    | error e =>
      obtain ⟨_, contextual, rfl⟩ := step.of_error plain
      rw [contextual]
      exact .error rfl
    | ok s' =>
      obtain ⟨c', contextual, mirrors'⟩ := step.of_ok plain
      rw [contextual]
      have fewer := ((s.perform_eq_ok_iff classes call s').mp plain).targets_subset
      refine (ih mirrors' ?_).mapError _
      intro t mem later memLater
      exact byValue t (fewer mem) later (List.mem_cons_of_mem _ memLater)

/-- Stages that are put behind others as contextual ones do the same there. -/
theorem composeContextual_inContext (classes : ClassTable Code) (stages later : List Stage)
    (target source context : Value) :
    composeContextual classes stages (later.map Stage.inContext) target source context =
      compose classes (stages ++ later) target source := by
  rw [composeContextual, compose, compose, List.foldlM_append]
  congr 1
  funext current
  rw [List.foldlM_map]
  rfl

/-- Specifications that are alike compile alike, and the mappers do the same. -/
theorem Mirrors.create [Packages] {c : ContextualSpecification} {s : Specification}
    (mirrors : c.Mirrors s) : PairedOutcomes Eq
      (fun mapper contextual =>
        (∀ source context, contextual.map source context = mapper.map source) ∧
        ∀ target source context,
          contextual.mapInto target source context = mapper.mapInto target source)
      (s.create classes).outcome.1 (c.create classes).outcome.1 := by
  obtain ⟨inner, context, later⟩ := mirrors
  rw [Specification.create_outcome, ContextualSpecification.create_outcome]
  show PairedOutcomes _ _
    (matchProperties inner.targets inner.sources >>= fun pairs =>
      inner.chosenFactory classes >>= _)
    (matchProperties inner.targets inner.sources >>= fun pairs =>
      inner.chosenFactory classes >>= _)
  cases matchProperties inner.targets inner.sources with
  | error e => exact .error rfl
  | ok pairs =>
    show PairedOutcomes _ _ (inner.chosenFactory classes >>= _)
      (inner.chosenFactory classes >>= _)
    cases inner.chosenFactory classes with
    | error e => exact .error rfl
    | ok factory =>
      have same := composeContextual_inContext classes
        (createSetters classes pairs ++ inner.customs) later
      simp only [List.append_assoc] at same
      refine .ok ⟨?_, ?_⟩
      · intro source given
        simp only [ContextualMapper.map, Mapper.map, same]
      · intro target source given
        exact same target source given

end ContextualSpecification

/-- A chain of calls, and the same chain with a context taken up behind the first
part, agree: for every context the two mappers make one and the same run. -/
structure AgreeInContext [Packages] (classes : ClassTable Code) (s : Specification)
    (before after : List PlainCall) (context : TypeExpr) : Prop where
  /-- The chains fail at the same call with the same error, or both succeed. -/
  failures : ∀ calls e,
    s.performAll classes (before ++ after) = .error (calls, e) ↔
      s.performInContext classes before context (after.map PlainCall.inContext) =
        .error (calls, e)
  /-- What they build compiles with the same error, or compiles both. -/
  faults : ∀ plain contextual,
    s.performAll classes (before ++ after) = .ok plain →
    s.performInContext classes before context (after.map PlainCall.inContext) = .ok contextual →
    ∀ e, (plain.create classes).outcome.1 = .error e ↔
      (contextual.create classes).outcome.1 = .error e
  /-- The mappers do the same. -/
  runs : ∀ plain contextual mapper contextualMapper,
    s.performAll classes (before ++ after) = .ok plain →
    s.performInContext classes before context (after.map PlainCall.inContext) = .ok contextual →
    (plain.create classes).outcome.1 = .ok mapper →
    (contextual.create classes).outcome.1 = .ok contextualMapper →
    (∀ source given, contextualMapper.map source given = mapper.map source) ∧
    ∀ target source given,
      contextualMapper.mapInto target source given = mapper.mapInto target source

/-- The two chains keep the specifications alike, or fail alike. -/
theorem paired_performInContext [Packages] (classes : ClassTable Code) (s : Specification)
    (before after : List PlainCall) (context : TypeExpr)
    (byValue : ∀ t ∈ s.targets, ∀ call ∈ after, call.bound? = some t.name →
      t.WritesByValue classes) :
    PairedOutcomes Eq (fun s c => c.Mirrors s) (s.performAll classes (before ++ after))
      (s.performInContext classes before context (after.map PlainCall.inContext)) := by
  rw [Specification.performAll, performAll_append, Specification.performInContext]
  cases performed : s.performAll classes before with
  | error failure =>
    rw [Specification.performAll] at performed
    rw [performed]
    exact .error rfl
  | ok s' =>
    have fewer : s'.targets ⊆ s.targets := Specification.targets_subset_of_performAll performed
    have mirrors : (s'.usingContext context).Mirrors s' := by
      have start := ContextualSpecification.Mirrors.intro s' context []
      rw [List.append_nil] at start
      exact start
    rw [Specification.performAll] at performed
    rw [performed]
    exact (mirrors.performAll after fun t mem => byValue t (fewer mem)).mapError _

/-- Taking up a context anywhere in a chain of calls changes nothing, as long as
the target properties that are bound from there on write by value. -/
theorem agreeInContext [Packages] (classes : ClassTable Code) (s : Specification)
    (before after : List PlainCall) (context : TypeExpr)
    (byValue : ∀ t ∈ s.targets, ∀ call ∈ after, call.bound? = some t.name →
      t.WritesByValue classes) :
    AgreeInContext classes s before after context := by
  have paired := paired_performInContext classes s before after context byValue
  refine ⟨fun calls e => paired.error_iff (calls, e), ?_, ?_⟩
  · intro plain contextual performed performedInContext
    obtain ⟨_, same, mirrors⟩ := paired.of_ok performed
    rw [performedInContext] at same
    cases same
    exact mirrors.create.error_iff
  · intro plain contextual mapper contextualMapper performed performedInContext created
      createdInContext
    obtain ⟨_, same, mirrors⟩ := paired.of_ok performed
    rw [performedInContext] at same
    cases same
    obtain ⟨_, sameMapper, alike⟩ := mirrors.create.of_ok created
    rw [createdInContext] at sameMapper
    cases sameMapper
    exact alike

open scoped RuntimePackages

/-- A property that is stored as an attribute may be bound in the context: both mappers
make a target and set two attributes of it. -/
theorem agreeInContext_of_stored_name :
    let name : TargetProperty := .declare 0 .any "name" (.standard .str) .assignment
    let age : TargetProperty := .declare 1 .any "age" (.standard .int) .assignment
    let label : SourceProperty := .declare 0 .any "label" (.standard .str) pure
    let years : SourceProperty :=
      .declare 1 .any "years" (.standard .int) fun _ => pure (.number 30)
    let s : Specification := {
      target := .any
      source := .any
      targets := [name, age]
      sources := [label, years]
      factory? := some (Run.allocate (.record { classId := .declared 0 })) }
    let before : List PlainCall := [.setFromSource "age" "years"]
    let after : List PlainCall := [.setFromSource "name" "label"]
    (∀ t ∈ s.targets, ∀ call ∈ after, call.bound? = some t.name → t.WritesByValue {}) ∧
      ∃ plain contextual mapper contextualMapper,
        s.performAll {} (before ++ after) = .ok plain ∧
        s.performInContext {} before (.standard .int) (after.map PlainCall.inContext) =
          .ok contextual ∧
        (plain.create {}).outcome.1 = .ok mapper ∧
        (contextual.create {}).outcome.1 = .ok contextualMapper ∧
        contextualMapper.map (.text "Ada") (.number 6) = mapper.map (.text "Ada") ∧
        ((mapper.map (.text "Ada")).run.run {}).2.heap = ⟨#[.record {
          classId := .declared 0
          attributes := [("age", .number 30), ("name", .text "Ada")] }]⟩ := by
  intro name age label years s before after
  have byValue : ∀ t ∈ s.targets, ∀ call ∈ after, call.bound? = some t.name →
      t.WritesByValue {} := by
    intro t mem _ _ _
    simp only [s, List.mem_cons, List.not_mem_nil, or_false] at mem
    rcases mem with rfl | rfl <;> exact TargetProperty.writesByValue_of_assignment rfl
  have agree := agreeInContext {} s before after (.standard .int) byValue
  let plain : Specification := {
    s with targets := [], sources := []
           customs := [age.setter {} years.reader, name.setter {} label.reader] }
  have performed : s.performAll {} (before ++ after) = .ok plain := rfl
  obtain ⟨mapper, created⟩ : ∃ mapper, (plain.create {}).outcome.1 = .ok mapper :=
    Specification.Compilable.exists_mapper ⟨corresponding_nil, .inl rfl⟩
  obtain ⟨contextual, performedInContext, corresponding, chosen⟩ : ∃ contextual,
      s.performInContext {} before (.standard .int) (after.map PlainCall.inContext) =
        .ok contextual ∧ Corresponding contextual.inner.targets contextual.inner.sources ∧
      contextual.inner.factory? = s.factory? :=
    ⟨_, rfl, corresponding_nil, rfl⟩
  obtain ⟨contextualMapper, createdInContext⟩ :
      ∃ contextualMapper, (contextual.create {}).outcome.1 = .ok contextualMapper :=
    ContextualSpecification.exists_mapper ⟨corresponding, .inl (by rw [chosen]; rfl)⟩
  refine ⟨byValue, plain, contextual, mapper, contextualMapper, performed, performedInContext,
    created, createdInContext, ?_, ?_⟩
  · exact (agree.runs _ _ _ _ performed performedInContext created createdInContext).1 _ _
  · obtain ⟨-, factory, chosen, rfl⟩ := (plain.create_eq_ok_iff {} mapper).mp created
    obtain rfl : Run.allocate (.record { classId := .declared 0 }) = factory :=
      Except.ok.inj chosen
    have empty : createSetters {} (pairsByName [] []) = [] := by
      simp [createSetters, pairsByName, byName]
    show ((Mapper.map
      ⟨_, compose {} (createSetters {} (pairsByName [] []) ++ _)⟩ _).run.run _).2.heap
      = _
    rw [empty]
    rfl

/-- A target property whose own code reads an attribute of the source by itself. -/
def selfReadingProperty [PackageReading] : TargetProperty :=
  .declare 0 .any "age" (.standard .int) <| .custom "age" fun _ target source => do
    let _ ← ({} : ClassTable Code).readAttribute source "years"
    return target

/-- A specification with that property alone. -/
def selfReadingSpecification [PackageReading] : Specification where
  target := .any
  source := .any
  targets := [selfReadingProperty]
  sources := []
  factory? := some (return .null)

/-- Code that looks at the source itself does not agree: in a context it is given
the pair, which has no such attribute. -/
theorem not_agreeInContext_of_self_reading :
    ¬ AgreeInContext {} selfReadingSpecification [] [.setFrom "age" pure] .any := by
  intro agree
  have empty : createSetters {} (pairsByName [] []) = [] := by
    simp [createSetters, pairsByName, byName]
  obtain ⟨runs, _⟩ := agree.runs _ _
    { factory := return .null
      transform := compose {} [selfReadingProperty.setter {} pure] }
    { factory := return .null
      transform := composeContextual {} [] [fun target source context => do
        selfReadingProperty.setter {} (ContextualSetter.pairReader fun source _ => pure source)
          target (← Run.pair source context)] }
    rfl rfl
    (by
      rw [Specification.create_outcome, Specification.compileWith_eq_ok_iff]
      refine ⟨corresponding_nil, _, rfl, ?_⟩
      show _ = Mapper.mk _ (compose {} (createSetters {} (pairsByName [] []) ++ _))
      rw [empty]
      rfl)
    (by
      rw [ContextualSpecification.create_outcome, Specification.compileWith_eq_ok_iff]
      refine ⟨corresponding_nil, _, rfl, ?_⟩
      show _ = ContextualMapper.mk _
        (composeContextual {} (createSetters {} (pairsByName [] []) ++ _) _)
      rw [empty]
      rfl)
  let world : World := {
    heap := ⟨#[.record { classId := .declared 0, attributes := [("years", .number 30)] }]⟩ }
  have outcomes := congrArg (fun run : Run Value => (run.run.run world).1)
    (runs (.object 0) (.number 6))
  cases outcomes

end ObjectMapping
