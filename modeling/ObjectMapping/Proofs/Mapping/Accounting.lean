import ObjectMapping.Discovery.Registry
import ObjectMapping.Package.Runtime
import ObjectMapping.Proofs.Mapping.Building
import ObjectMapping.Proofs.Mapping.Creation

/-!
# What a chain of calls adds up to

A chain of building calls is told here by what its calls name: the properties that
they drop, the factories that they set and the stages that they add.
`builder_accounting` says that the specification at the end is what the calls
account for and nothing else, for a chain of any length that takes up a context
somewhere on the way or not at all.

The two kinds of specifications share the induction. `Accounts` is what a chain
does, told by the specification inside and the stages that its calls add to, and
`Accountable` asks it of a single call of each kind.

That no provider is asked is told by the records: a registry that is asked leaves
one, while making a built specification anew of its lists leaves none, also where
a list has become empty.
-/

namespace ObjectMapping

namespace BuilderCall

variable {Custom Read : Type}

/-- The target property that a call takes off the list. -/
def droppedTarget? : BuilderCall Custom Read → Option String
  | .ignoreTarget name | .setFrom name _ | .setFromSource name _ => some name
  | _ => none

/-- The source property that a call takes off the list. -/
def droppedSource? : BuilderCall Custom Read → Option String
  | .ignoreSource name | .setFromSource _ name => some name
  | _ => none

/-- The factory that a call sets. -/
def factory? : BuilderCall Custom Read → Option Factory
  | .withFactory factory => some factory
  | _ => none

/-- A call adds a stage behind the others. -/
def addsStage : BuilderCall Custom Read → Bool
  | .withCustom _ | .setFrom _ _ | .setFromSource _ _ => true
  | .ignoreTarget _ | .ignoreSource _ | .withFactory _ => false

/-- The stage that a call adds: its own, or one that writes a property of the
specification that the chain starts from. -/
inductive Adds (write : TargetProperty → Read → Custom) (read : SourceProperty → Read)
    (s : Specification) : BuilderCall Custom Read → Custom → Prop where
  | withCustom (stage) : Adds write read s (.withCustom stage) stage
  | setFrom {t} (reader) (mem : t ∈ s.targets) :
      Adds write read s (.setFrom t.name reader) (write t reader)
  | setFromSource {t p} (target : t ∈ s.targets) (source : p ∈ s.sources)
      (agree : t.type.agrees p.type = true) :
      Adds write read s (.setFromSource t.name p.name) (write t (read p))

/-- A stage for properties that are left is one for properties that there were. -/
theorem Adds.of_subset {write : TargetProperty → Read → Custom} {read : SourceProperty → Read}
    {s s' : Specification} (targets : s'.targets ⊆ s.targets) (sources : s'.sources ⊆ s.sources)
    {call : BuilderCall Custom Read} {stage : Custom} (adds : Adds write read s' call stage) :
    Adds write read s call stage := by
  cases adds with
  | withCustom => exact .withCustom stage
  | setFrom reader mem => exact .setFrom reader (targets mem)
  | setFromSource target source agree =>
    exact .setFromSource (targets target) (sources source) agree

end BuilderCall

/-- What dropping properties and setting factories leaves of a specification. -/
structure Specification.Leaves (s : Specification) (droppedTargets droppedSources : List String)
    (factories : List Factory) (built : Specification) : Prop where
  target : built.target = s.target
  source : built.source = s.source
  /-- The remaining properties are those of before, in their order. -/
  targets : built.targets.Sublist s.targets
  sources : built.sources.Sublist s.sources
  /-- Exactly the dropped names are missing. -/
  targetsMissing : ∀ n, n ∈ droppedTargets ↔
    n ∈ s.targets.map (·.name) ∧ n ∉ built.targets.map (·.name)
  sourcesMissing : ∀ n, n ∈ droppedSources ↔
    n ∈ s.sources.map (·.name) ∧ n ∉ built.sources.map (·.name)
  /-- The factory is the last one that was set, or the one of before. -/
  factory : built.factory? = factories.getLast?.or s.factory?

namespace Specification.Leaves

variable {s s' s'' : Specification} {droppedTargets droppedTargets' droppedSources
  droppedSources' : List String} {factories factories' : List Factory}

/-- New stages alone drop nothing. -/
theorem withCustoms (s : Specification) (customs : List Stage) :
    s.Leaves [] [] [] { s with customs := customs } where
  target := rfl
  source := rfl
  targets := List.Sublist.refl _
  sources := List.Sublist.refl _
  targetsMissing := by simp
  sourcesMissing := by simp
  factory := rfl

theorem withFactory (s : Specification) (factory : Factory) :
    s.Leaves [] [] [factory] (s.withFactory factory) :=
  { withCustoms s s.customs with factory := rfl }

/-- Where no name is twice, taking a target property off the list drops its name. -/
theorem withoutTarget (apart : s.NamesApart) {t : TargetProperty} (mem : t ∈ s.targets)
    (customs : List Stage) :
    s.Leaves [t.name] [] [] {
      s with targets := ObjectMapping.withoutTarget s.targets t, customs := customs } := by
  refine { withCustoms s customs with
    targets := List.filter_sublist
    targetsMissing := ?_ }
  intro n
  rw [withoutTarget_eq apart.targets mem]
  simp only [List.mem_singleton, List.mem_map, List.mem_filter, decide_eq_true_eq]
  constructor
  · rintro rfl
    refine ⟨⟨t, mem, rfl⟩, ?_⟩
    rintro ⟨t', ⟨-, apart'⟩, same⟩
    exact apart' same
  · rintro ⟨⟨t', memT', rfl⟩, missing⟩
    by_contra apart'
    exact missing ⟨t', ⟨memT', apart'⟩, rfl⟩

/-- Where no name is twice, taking a source property off the list drops its name. -/
theorem withoutSource (apart : s.NamesApart) {p : SourceProperty} (mem : p ∈ s.sources) :
    s.Leaves [] [p.name] [] { s with sources := ObjectMapping.withoutSource s.sources p } := by
  refine { withCustoms s s.customs with
    sources := List.filter_sublist
    sourcesMissing := ?_ }
  intro n
  rw [withoutSource_eq apart.sources mem]
  simp only [List.mem_singleton, List.mem_map, List.mem_filter, decide_eq_true_eq]
  constructor
  · rintro rfl
    refine ⟨⟨p, mem, rfl⟩, ?_⟩
    rintro ⟨p', ⟨-, apart'⟩, same⟩
    exact apart' same
  · rintro ⟨⟨p', memP', rfl⟩, missing⟩
    by_contra apart'
    exact missing ⟨p', ⟨memP', apart'⟩, rfl⟩

/-- Names that are dropped one after the other are missing in the end. -/
theorem missing_append {first middle last dropped dropped' : List String} (fewer : middle ⊆ first)
    (fewer' : last ⊆ middle)
    (missing : ∀ n, n ∈ dropped ↔ n ∈ first ∧ n ∉ middle)
    (missing' : ∀ n, n ∈ dropped' ↔ n ∈ middle ∧ n ∉ last) (n : String) :
    n ∈ dropped ++ dropped' ↔ n ∈ first ∧ n ∉ last := by
  rw [List.mem_append, missing, missing']
  constructor
  · rintro (⟨mem, gone⟩ | ⟨mem, gone⟩)
    · exact ⟨mem, fun later => gone (fewer' later)⟩
    · exact ⟨fewer mem, gone⟩
  · rintro ⟨mem, gone⟩
    by_cases between : n ∈ middle
    · exact .inr ⟨between, gone⟩
    · exact .inl ⟨mem, between⟩

theorem trans (first : s.Leaves droppedTargets droppedSources factories s')
    (second : s'.Leaves droppedTargets' droppedSources' factories' s'') :
    s.Leaves (droppedTargets ++ droppedTargets') (droppedSources ++ droppedSources')
      (factories ++ factories') s'' where
  target := second.target.trans first.target
  source := second.source.trans first.source
  targets := second.targets.trans first.targets
  sources := second.sources.trans first.sources
  targetsMissing := missing_append (first.targets.map _).subset (second.targets.map _).subset
    first.targetsMissing second.targetsMissing
  sourcesMissing := missing_append (first.sources.map _).subset (second.sources.map _).subset
    first.sourcesMissing second.sourcesMissing
  factory := by
    rw [second.factory, first.factory, List.getLast?_append, Option.or_assoc]

/-- A target and a source property that are taken off their lists drop their names. -/
theorem withoutBoth (apart : s.NamesApart) {t : TargetProperty} (target : t ∈ s.targets)
    {p : SourceProperty} (source : p ∈ s.sources) (customs : List Stage) :
    s.Leaves [t.name] [p.name] [] {
      s with
      targets := ObjectMapping.withoutTarget s.targets t
      sources := ObjectMapping.withoutSource s.sources p
      customs := customs } := by
  have first := withoutTarget apart target customs
  exact first.trans (withoutSource (apart.of_sublist first.targets first.sources) source)

end Specification.Leaves

section Chain

variable {σ Custom Read : Type}

/-- What a chain of calls does to a specification, given the plain one inside and
the stages to which its calls add. -/
structure Accounts (inner : σ → Specification) (stages : σ → List Custom)
    (write : TargetProperty → Read → Custom) (read : SourceProperty → Read)
    (s : σ) (calls : List (BuilderCall Custom Read)) (built : σ) : Prop where
  leaves : (inner s).Leaves (calls.filterMap (·.droppedTarget?))
    (calls.filterMap (·.droppedSource?)) (calls.filterMap (·.factory?)) (inner built)
  /-- Each call that adds a stage adds one, and the stages stand in the order of the calls. -/
  stages : ∃ added,
    List.Forall₂ (BuilderCall.Adds write read (inner s)) (calls.filter (·.addsStage)) added ∧
      stages built = stages s ++ added

namespace Accounts

variable {inner : σ → Specification} {stages : σ → List Custom}
  {write : TargetProperty → Read → Custom} {read : SourceProperty → Read}

theorem nil (s : σ) : Accounts inner stages write read s [] s where
  leaves := .withCustoms (inner s) (inner s).customs
  stages := ⟨[], .nil, (List.append_nil _).symm⟩

/-- A call and the chain behind it account together for what they do. -/
theorem cons {s next built : σ} {call : BuilderCall Custom Read}
    {rest : List (BuilderCall Custom Read)}
    (first : Accounts inner stages write read s [call] next)
    (later : Accounts inner stages write read next rest built) :
    Accounts inner stages write read s (call :: rest) built where
  leaves := by
    have both := first.leaves.trans later.leaves
    rwa [← List.filterMap_append, ← List.filterMap_append, ← List.filterMap_append] at both
  stages := by
    obtain ⟨added, adds, behind⟩ := first.stages
    obtain ⟨added', adds', behind'⟩ := later.stages
    have adds'' : List.Forall₂ (BuilderCall.Adds write read (inner s))
        (rest.filter (·.addsStage)) added' := by
      refine adds'.imp ?_
      intro call stage
      exact .of_subset first.leaves.targets.subset first.leaves.sources.subset
    refine ⟨added ++ added', ?_, ?_⟩
    · have both : List.Forall₂ (BuilderCall.Adds write read (inner s))
          ([call].filter (·.addsStage) ++ rest.filter (·.addsStage)) (added ++ added') :=
        List.rel_append adds adds''
      rwa [← List.filter_append] at both
    · rw [behind', behind, List.append_assoc]

/-- A call that adds no stage. -/
theorem of_not_adds {s built : σ} {call : BuilderCall Custom Read}
    (leaves : (inner s).Leaves ([call].filterMap (·.droppedTarget?))
      ([call].filterMap (·.droppedSource?)) ([call].filterMap (·.factory?)) (inner built))
    (addsNone : call.addsStage = false) (same : stages built = stages s) :
    Accounts inner stages write read s [call] built where
  leaves := leaves
  stages := by
    refine ⟨[], ?_, by rw [same, List.append_nil]⟩
    rw [List.filter_cons_of_neg (by simp [addsNone])]
    exact .nil

/-- A call that adds a stage. -/
theorem of_adds {s built : σ} {call : BuilderCall Custom Read} {stage : Custom}
    (leaves : (inner s).Leaves ([call].filterMap (·.droppedTarget?))
      ([call].filterMap (·.droppedSource?)) ([call].filterMap (·.factory?)) (inner built))
    (addsOne : call.addsStage = true) (adds : BuilderCall.Adds write read (inner s) call stage)
    (behind : stages built = stages s ++ [stage]) :
    Accounts inner stages write read s [call] built where
  leaves := leaves
  stages := by
    refine ⟨[stage], ?_, behind⟩
    rw [List.filter_cons_of_pos (by simp [addsOne])]
    exact .cons adds .nil

end Accounts

/-- A kind of specification each of whose calls is accounted for. -/
def Accountable (perform : σ → BuilderCall Custom Read → Except MappingError σ)
    (inner : σ → Specification) (stages : σ → List Custom)
    (write : TargetProperty → Read → Custom) (read : SourceProperty → Read) : Prop :=
  ∀ s call s', (inner s).NamesApart → perform s call = .ok s' →
    Accounts inner stages write read s [call] s'

/-- What holds of single calls holds of chains of any length. -/
theorem Accountable.performAll {perform : σ → BuilderCall Custom Read → Except MappingError σ}
    {inner : σ → Specification} {stages : σ → List Custom}
    {write : TargetProperty → Read → Custom} {read : SourceProperty → Read}
    (accountable : Accountable perform inner stages write read)
    {s built : σ} (apart : (inner s).NamesApart) {calls : List (BuilderCall Custom Read)}
    (performed : ObjectMapping.performAll perform s calls = .ok built) :
    Accounts inner stages write read s calls built := by
  induction calls generalizing s with
  | nil =>
    cases performed
    exact .nil _
  | cons call rest ih =>
    obtain ⟨next, first, later⟩ := (performAll_cons_eq_ok_iff _ _ _ _ _).mp performed
    have account := accountable s call next apart first
    have apartNext := apart.of_sublist account.leaves.targets account.leaves.sources
    exact account.cons (ih apartNext later)

end Chain

variable {classes : ClassTable Code}

/-- The stage of a call on a plain specification writes with the setter of the property. -/
theorem Specification.accountable [Packages] :
    Accountable (Specification.perform classes) id (·.customs) (·.setter classes) (·.reader) := by
  intro s call s' apart performed
  cases (s.perform_eq_ok_iff classes call s').mp performed with
  | ignoreTarget found =>
    obtain ⟨mem, rfl⟩ := of_targetNamed_eq_ok found
    exact .of_not_adds (.withoutTarget apart mem _) rfl rfl
  | ignoreSource found =>
    obtain ⟨mem, rfl⟩ := of_sourceNamed_eq_ok found
    exact .of_not_adds (.withoutSource apart mem) rfl rfl
  | withFactory factory => exact .of_not_adds (.withFactory s factory) rfl rfl
  | withCustom stage => exact .of_adds (.withCustoms s _) rfl (.withCustom stage) rfl
  | setFrom reader found =>
    obtain ⟨mem, rfl⟩ := of_targetNamed_eq_ok found
    exact .of_adds (.withoutTarget apart mem _) rfl (.setFrom reader mem) rfl
  | setFromSource found foundSource agree =>
    obtain ⟨mem, rfl⟩ := of_targetNamed_eq_ok found
    obtain ⟨memSource, rfl⟩ := of_sourceNamed_eq_ok foundSource
    exact .of_adds (.withoutBoth apart mem memSource _) rfl
      (.setFromSource mem memSource agree) rfl

/-- The stage of a call in a context writes from the pair of source and context. -/
theorem ContextualSpecification.accountable [Packages] :
    Accountable (ContextualSpecification.perform classes) (·.inner) (·.customs)
      (·.contextualSetter classes) (fun p value _ => p.reader value) := by
  intro c call c' apart performed
  cases (c.perform_eq_ok_iff classes call c').mp performed with
  | ignoreTarget found =>
    obtain ⟨mem, rfl⟩ := Specification.of_targetNamed_eq_ok found
    exact .of_not_adds (.withoutTarget apart mem _) rfl rfl
  | ignoreSource found =>
    obtain ⟨mem, rfl⟩ := Specification.of_sourceNamed_eq_ok found
    exact .of_not_adds (.withoutSource apart mem) rfl rfl
  | withFactory factory => exact .of_not_adds (.withFactory c.inner factory) rfl rfl
  | withCustom stage => exact .of_adds (.withCustoms c.inner _) rfl (.withCustom stage) rfl
  | setFrom reader found =>
    obtain ⟨mem, rfl⟩ := Specification.of_targetNamed_eq_ok found
    exact .of_adds (.withoutTarget apart mem _) rfl (.setFrom reader mem) rfl
  | setFromSource found foundSource agree =>
    obtain ⟨mem, rfl⟩ := Specification.of_targetNamed_eq_ok found
    obtain ⟨memSource, rfl⟩ := Specification.of_sourceNamed_eq_ok foundSource
    exact .of_adds (.withoutBoth apart mem memSource _) rfl
      (.setFromSource mem memSource agree) rfl

/-- In a context no call changes what the chain took over: the stages inside and
the type of the context. -/
theorem ContextualSpecification.keptInside_of_performAll [Packages] {c c' : ContextualSpecification}
    {calls : List ContextualCall} (performed : c.performAll classes calls = .ok c') :
    c'.inner.customs = c.inner.customs ∧ c'.context = c.context := by
  refine performAll_preserves _ (motive := fun later =>
    later.inner.customs = c.inner.customs ∧ later.context = c.context) ?_ ⟨rfl, rfl⟩ performed
  intro earlier call later _ kept step
  cases (earlier.perform_eq_ok_iff classes call later).mp step <;> exact kept

/-! ## Registries -/

/-- A specification that is made anew of its parts asks no provider, also where a
list of it is empty. -/
theorem Specification.ofTypes_parts [Packages] (s : Specification) (registry : Registry) :
    (ofTypes classes registry s.target s.source (some s.targets) (some s.sources) s.customs
      s.factory?).outcome = (.ok s, []) :=
  rfl

/-- What both kinds of specifications do to compile, with the report of it. -/
def Specification.compileReporting [Packages] {μ : Type} (classes : ClassTable Code)
    (s : Specification) (report : List Stage → String) (finish : List Stage → Factory → μ) :
    Logged MappingError μ := do
  let setters ← s.compileSetters classes
  let factory ← resolveFactory classes s.target s.factory?
  Logged.record .debug specificationLogger (report setters)
  return finish setters factory

/-- Compiling leaves records of the mapper and of its factory only. -/
theorem Specification.logger_of_mem_compiled [Packages] {μ : Type} {s : Specification}
    {report : List Stage → String} {finish : List Stage → Factory → μ} {record : LogRecord}
    (mem : record ∈ (s.compileReporting classes report finish).outcome.2) :
    record.logger = specificationLogger ∨ record.logger = constructionLogger := by
  rw [compileReporting, compileSetters] at mem
  cases matched : matchProperties s.targets s.sources with
  | error e =>
    rw [matched] at mem
    cases mem
  | ok pairs =>
    rw [matched] at mem
    cases given : s.factory? with
    | some factory =>
      rw [given] at mem
      obtain rfl := List.mem_singleton.mp mem
      exact .inl rfl
    | none =>
      rw [given] at mem
      simp only [resolveFactory] at mem
      cases obstructed : constructionObstacle? classes s.target with
      | some obstacle =>
        rw [obstructed] at mem
        cases mem
      | none =>
        rw [obstructed] at mem
        rcases List.mem_cons.mp mem with rfl | later
        · exact .inr rfl
        · obtain rfl := List.mem_singleton.mp later
          exact .inl rfl

/-- Compiling a specification asks no provider. -/
theorem Specification.not_asked_by_create [Packages] {s : Specification} {record : LogRecord}
    (mem : record ∈ (s.create classes).outcome.2) : record.logger ≠ registryLogger := by
  rcases logger_of_mem_compiled mem with same | same <;> rw [same] <;> decide

/-- Nor does compiling a contextual specification. -/
theorem ContextualSpecification.not_asked_by_create [Packages] {c : ContextualSpecification}
    {record : LogRecord} (mem : record ∈ (c.create classes).outcome.2) :
    record.logger ≠ registryLogger := by
  rcases Specification.logger_of_mem_compiled (s := c.inner) mem with same | same <;>
    rw [same] <;> decide

/-! ## Both kinds of chains -/

/-- What a chain of calls on a specification adds up to. -/
structure Specification.AddsUp [Packages] (building : ClassTable Code) (s : Specification)
    (calls : List PlainCall) (built : Specification) : Prop where
  leaves : s.Leaves (calls.filterMap (·.droppedTarget?)) (calls.filterMap (·.droppedSource?))
    (calls.filterMap (·.factory?)) built
  /-- Behind the stages of before stands one for each call that adds one, in the
  order of the calls. -/
  stages : ∃ added,
    List.Forall₂ (BuilderCall.Adds (·.setter building) (·.reader) s)
      (calls.filter (·.addsStage)) added ∧
    built.customs = s.customs ++ added
  /-- A mapper runs these stages behind the setters, on targets of the factory. -/
  compiled : ∀ compiling mapper, (built.create compiling).outcome.1 = .ok mapper →
    mapper.transform = compose compiling
      (createSetters compiling (pairsByName built.targets built.sources) ++ built.customs) ∧
    ∀ factory, built.factory? = some factory → mapper.factory = factory
  /-- Made of its lists, the specification is itself, and no provider is asked for it. -/
  made : ∀ classes (registry : Registry),
    (ofTypes classes registry built.target built.source (some built.targets)
      (some built.sources) built.customs built.factory?).outcome = (.ok built, [])
  notAsked : ∀ compiling, ∀ record ∈ (built.create compiling).outcome.2,
    record.logger ≠ registryLogger

/-- What a chain of calls adds up to that takes up a context behind some of them. -/
structure ContextualSpecification.AddsUp [Packages] (building : ClassTable Code) (s : Specification)
    (before : List PlainCall) (context : TypeExpr) (after : List ContextualCall)
    (built : ContextualSpecification) : Prop where
  context : built.context = context
  leaves : s.Leaves
    (before.filterMap (·.droppedTarget?) ++ after.filterMap (·.droppedTarget?))
    (before.filterMap (·.droppedSource?) ++ after.filterMap (·.droppedSource?))
    (before.filterMap (·.factory?) ++ after.filterMap (·.factory?)) built.inner
  /-- The calls before the context add to the stages inside. -/
  stages : ∃ added,
    List.Forall₂ (BuilderCall.Adds (·.setter building) (·.reader) s)
      (before.filter (·.addsStage)) added ∧
    built.inner.customs = s.customs ++ added
  /-- The calls behind the context add contextual stages. -/
  contextualStages :
    List.Forall₂
      (BuilderCall.Adds (·.contextualSetter building) (fun p value _ => p.reader value) s)
      (after.filter (·.addsStage)) built.customs
  /-- A mapper runs the stages inside behind the setters, and then the contextual ones. -/
  compiled : ∀ compiling mapper, (built.create compiling).outcome.1 = .ok mapper →
    mapper.transform = composeContextual compiling
      (createSetters compiling (pairsByName built.inner.targets built.inner.sources) ++
        built.inner.customs) built.customs ∧
    ∀ factory, built.inner.factory? = some factory → mapper.factory = factory
  made : ∀ classes (registry : Registry),
    (Specification.ofTypes classes registry built.inner.target built.inner.source
      (some built.inner.targets) (some built.inner.sources) built.inner.customs
      built.inner.factory?).outcome = (.ok built.inner, [])
  notAsked : ∀ compiling, ∀ record ∈ (built.create compiling).outcome.2,
    record.logger ≠ registryLogger

theorem Specification.eq_of_chosenFactory [Packages] {s : Specification}
    {factory factory' : Factory}
    (chosen : s.chosenFactory classes = .ok factory) (given : s.factory? = some factory') :
    factory = factory' := by
  rw [chosenFactory, given] at chosen
  exact (Except.ok.inj chosen).symm

/-- From distinct names on, every chain of calls adds up: the properties that are
left, the stages and the factory are those that its calls account for, and no
provider is asked on the way. -/
theorem builder_accounting [Packages] (building : ClassTable Code) {s : Specification}
    (apart : s.NamesApart) :
    (∀ calls built, s.performAll building calls = .ok built →
      s.AddsUp building calls built) ∧
    (∀ before context after built,
      s.performInContext building before context after = .ok built →
      built.AddsUp building s before context after) := by
  constructor
  · intro calls built performed
    have account := Specification.accountable.performAll apart performed
    refine {
      leaves := account.leaves
      stages := account.stages
      compiled := ?_
      made := fun _ registry => built.ofTypes_parts registry
      notAsked := fun _ _ mem => Specification.not_asked_by_create mem }
    intro compiling mapper compiled
    obtain ⟨-, factory, chosen, rfl⟩ := (built.create_eq_ok_iff compiling mapper).mp compiled
    exact ⟨rfl, fun _ given => Specification.eq_of_chosenFactory chosen given⟩
  · intro before context after built performed
    obtain ⟨s', plain, later⟩ := bind_eq_ok_iff.mp performed
    have contextual := mapError_eq_ok_iff.mp later
    have accountBefore := Specification.accountable.performAll apart plain
    have apart' := apart.performAll plain
    have accountAfter :=
      ContextualSpecification.accountable.performAll (s := s'.usingContext context) apart'
        contextual
    obtain ⟨sameCustoms, sameContext⟩ :=
      ContextualSpecification.keptInside_of_performAll contextual
    obtain ⟨added, adds, behind⟩ := accountBefore.stages
    obtain ⟨addedAfter, addsAfter, behindAfter⟩ := accountAfter.stages
    refine {
      context := sameContext
      leaves := accountBefore.leaves.trans accountAfter.leaves
      stages := ⟨added, adds, sameCustoms.trans behind⟩
      contextualStages := ?_
      compiled := ?_
      made := fun _ registry => built.inner.ofTypes_parts registry
      notAsked := fun _ _ mem => ContextualSpecification.not_asked_by_create mem }
    · rw [behindAfter]
      refine addsAfter.imp ?_
      intro call stage
      exact .of_subset accountBefore.leaves.targets.subset accountBefore.leaves.sources.subset
    · intro compiling mapper compiled
      rw [built.create_outcome] at compiled
      obtain ⟨-, factory, chosen, rfl⟩ :=
        (built.inner.compileWith_eq_ok_iff compiling _ mapper).mp compiled
      exact ⟨rfl, fun _ given => Specification.eq_of_chosenFactory chosen given⟩

open scoped RuntimePackages

/-- A chain that binds the only target property to the only source property leaves
both lists empty, and one that goes on in a context sets a factory. -/
theorem builder_accounting_until_empty :
    let title : TargetProperty := .declare 0 .any "title" (.standard .str) .assignment
    let heading : SourceProperty := .declare 0 .any "heading" (.standard .str) pure
    let s : Specification := {
      target := .any, source := .any, targets := [title], sources := [heading] }
    let calls : List PlainCall := [.setFromSource "title" "heading"]
    let after : List ContextualCall := [.withFactory (pure .null)]
    s.NamesApart ∧
      (∃ built, s.performAll {} calls = .ok built ∧ built.targets = [] ∧ built.sources = [] ∧
        s.AddsUp {} calls built) ∧
      ∃ built, s.performInContext {} calls .any after = .ok built ∧
        built.AddsUp {} s calls .any after := by
  intro title heading s calls after
  have apart : s.NamesApart := ⟨List.nodup_singleton _, List.nodup_singleton _⟩
  obtain ⟨plain, contextual⟩ := builder_accounting {} apart
  refine ⟨apart, ⟨_, rfl, rfl, rfl, plain calls _ rfl⟩, ?_⟩
  exact ⟨_, rfl, contextual calls .any after _ rfl⟩

end ObjectMapping
