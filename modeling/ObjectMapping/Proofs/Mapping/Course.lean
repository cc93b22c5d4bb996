import ObjectMapping.Package.Runtime
import ObjectMapping.Proofs.Class.Making
import ObjectMapping.Proofs.Class.Refusal
import ObjectMapping.Proofs.Mapping.Creation

/-!
# The course of a mapping

A compiled mapper runs code that is not its own: a factory, readers, writers and
custom stages. `Course` says what such a run consists of. Each part runs in the
world that the part before it left, with the target by then; the first fault
ends the run, and nothing runs behind it.

`mappers_unfold` is the point of this module: for mappers of both kinds, making a
target or filling a given one is the course of the parts that the specification
names. It says nothing of what a part does.
-/

namespace ObjectMapping

/-! ## The target after a part -/

/-- A value is an instance of a class, where objects are what a heap says. -/
def ClassTable.isInstanceIn (classes : ClassTable Code) (heap : Heap) (v : Value) (c : ClassId) :
    Bool :=
  classes.isSubclass (classes.classIn heap v) c

/-- It cannot be told whether an answer is an instance of the class of the target: that
class is an interface, and the answer is of another class. -/
def ClassTable.isUntold (classes : ClassTable Code) (heap : Heap) (target answer : Value) : Bool :=
  (classes.info (classes.classIn heap target)).isInterface &&
    classes.classIn heap answer != classes.classIn heap target

/-- The target after a part that answered something: the answer if its class is
within the class of the target, otherwise the target. -/
def ClassTable.heldTarget (classes : ClassTable Code) (heap : Heap) (target answer : Value) :
    Except Fault Value :=
  if classes.isUntold heap target answer then .error .badOperand
  else if classes.isInstanceIn heap answer (classes.classIn heap target) then .ok answer
  else .ok target

theorem ClassTable.isInstanceIn_self (classes : ClassTable Code) (heap : Heap) (v : Value) :
    classes.isInstanceIn heap v (classes.classIn heap v) = true := by
  simp [isInstanceIn, isSubclass]

/-- Of a value it is told whether it is of a class, unless that is an interface and not
its own class. -/
theorem ClassTable.isInstance_run (classes : ClassTable Code) (v : Value) (c : ClassId)
    (w : World) :
    (classes.isInstance v c).run.run w =
      if (classes.info c).isInterface && classes.classIn w.heap v != c then (.error .badOperand, w)
      else (.ok (classes.isInstanceIn w.heap v c), w) := by
  rw [isInstance, (classes.classOf_eq v w).run_bind]
  cases same : classes.classIn w.heap v == c with
  | true =>
    obtain rfl := eq_of_beq same
    simp [isInstanceIn_self]
    rfl
  | false =>
    have apart : (classes.classIn w.heap v != c) = true := by simp [bne, same]
    cases (classes.info c).isInterface <;> simp [apart] <;> rfl

/-- Which target goes on is decided in the world of the answer, and without
changing it. -/
theorem keepTarget_eq (classes : ClassTable Code) (target answer : Value) (w : World) :
    (keepTarget classes target answer).run.run w =
      (classes.heldTarget w.heap target answer, w) := by
  rw [keepTarget, (classes.classOf_eq target w).run_bind, ClassTable.heldTarget,
    ClassTable.isUntold, ExceptT.run_bind, StateT.run_bind, classes.isInstance_run]
  split
  · rfl
  · cases classes.isInstanceIn w.heap answer (classes.classIn w.heap target) <;> rfl

/-- An instance takes the place of another one of its class. -/
theorem ClassTable.heldTarget_of_sameClass {classes : ClassTable Code} {heap : Heap}
    {target answer : Value}
    (sameClass : classes.classIn heap answer = classes.classIn heap target) :
    classes.heldTarget heap target answer = .ok answer := by
  simp [heldTarget, isUntold, isInstanceIn, isSubclass, sameClass]

/-- What goes on is the target, or an answer within its class. -/
theorem ClassTable.eq_or_of_heldTarget {classes : ClassTable Code} {heap : Heap}
    {target answer next : Value}
    (held : classes.heldTarget heap target answer = .ok next) :
    next = target ∨
      next = answer ∧ classes.isInstanceIn heap answer (classes.classIn heap target) = true := by
  rw [heldTarget] at held
  split at held
  · cases held
  split at held
  · next within => exact .inr ⟨(Except.ok.inj held).symm, within⟩
  · exact .inl (Except.ok.inj held).symm

theorem keepTarget_ends {classes : ClassTable Code} {w : World} {address address' : Nat}
    {old r : Instance} (foundOld : w.heap.get? address = some (.record old))
    (found : w.heap.get? address' = some (.record r)) (sameClass : r.classId = old.classId) :
    (keepTarget classes (.object address) (.object address')).Ends w (.object address') w := by
  rw [Run.Ends, keepTarget_eq, ClassTable.heldTarget_of_sameClass]
  simp only [ClassTable.classIn, foundOld, found, sameClass]

/-! ## Parts and their course -/

/-- One piece of code that a mapper runs. -/
inductive Part where
  | produce (factory : Factory)
  | read (source : SourceProperty)
  | write (target : TargetProperty)
  /-- Code of its own sets a property: it is given the reader, and decides when to use it. -/
  | set (pair : PropertyPair)
  | custom (stage : Stage)
  | contextual (stage : ContextualStage)

/-- How far a run has come: the target by now, and the value that was read last. -/
structure Progress where
  target : Value
  value : Value := .null

/-- What a mapping is given, apart from the target. -/
structure MappingInput where
  source : Value
  context : Value := .null

namespace Part

/-- The part writes to a target or is a custom stage, so that it answers a target. -/
def isStage : Part → Bool
  | .write _ | .set _ | .custom _ | .contextual _ => true
  | .produce _ | .read _ => false

section

variable (classes : ClassTable Code)

/-- The run of a part. Source and context are always those of the mapping. -/
def perform [Packages] (input : MappingInput) (progress : Progress) : Part → Run Value
  | .produce factory => factory
  | .read p => p.reader input.source
  | .write t => t.write classes progress.target input.source progress.value
  | .set pair => pair.setter classes progress.target input.source
  | .custom stage => stage progress.target input.source
  | .contextual stage => stage progress.target input.source input.context

/-- How far the run has come when a part has answered. -/
def resume (heap : Heap) (progress : Progress) (answer : Value) : Part → Except Fault Progress
  | .produce _ => .ok { target := answer }
  | .read _ => .ok { progress with value := answer }
  | .write _ | .set _ | .custom _ | .contextual _ =>
      (classes.heldTarget heap progress.target answer).map fun target => { target := target }

/-- Runs a part and goes on from its answer. -/
def advance [Packages] (input : MappingInput) (progress : Progress) (part : Part) :
    Run Progress := do
  let answer ← part.perform classes input progress
  ofExcept (part.resume classes (← get).heap progress answer)

/-- Runs parts one after another. -/
def performAll [Packages] (input : MappingInput) (parts : List Part) (progress : Progress) :
    Run Progress :=
  parts.foldlM (advance classes input) progress

end

/-- A stage answers what may take the place of the target. -/
theorem resume_of_isStage {part : Part} (classes : ClassTable Code) (heap : Heap)
    (progress : Progress) (answer : Value) (isStage : part.isStage = true) :
    part.resume classes heap progress answer =
      (classes.heldTarget heap progress.target answer).map fun target => { target := target } := by
  cases part with
  | produce | read => cases isStage
  | write | set | custom | contextual => rfl

/-- Going on from an answer only fails where it cannot be told whether it is a target. -/
theorem resume_eq_error {classes : ClassTable Code} {heap : Heap} {progress : Progress}
    {answer : Value} {fault : Fault} {part : Part}
    (untold : part.resume classes heap progress answer = .error fault) :
    part.isStage = true ∧ fault = .badOperand ∧
      classes.isUntold heap progress.target answer = true := by
  cases part with
  | produce | read => cases untold
  | write | set | custom | contextual =>
    rw [resume, ClassTable.heldTarget] at untold
    split at untold
    · next isUntold =>
      cases untold
      exact ⟨rfl, rfl, isUntold⟩
    · split at untold <;> cases untold

end Part

/-- One part that was run: what it was given, and what came of it. -/
structure Event where
  part : Part
  given : Progress
  before : World
  outcome : Except Fault Value
  after : World

/-- Of the answer of the event it cannot be told whether it is a target, with the fault
that comes of that. -/
def Event.Undecided (classes : ClassTable Code) (event : Event) (fault : Fault) : Prop :=
  event.part.isStage = true ∧ fault = .badOperand ∧ ∃ answer, event.outcome = .ok answer ∧
    classes.isUntold event.after.heap event.given.target answer = true

/-- The run ends with the event: its part has raised the fault, or answered what cannot
be told to be a target or not. -/
def Event.Stops (classes : ClassTable Code) (event : Event) (fault : Fault) : Prop :=
  event.outcome = .error fault ∨ event.Undecided classes fault

/-- The events of running parts in order, with the target in the end or the fault
that ended them, and the world that is left. -/
inductive Course [Packages] (classes : ClassTable Code) (input : MappingInput) :
    List Part → Progress → World → List Event → Except Fault Value → World → Prop where
  | finished {progress w} : Course classes input [] progress w [] (.ok progress.target) w
  | failed {part rest progress w fault w'}
      (ran : (part.perform classes input progress).run.run w = (.error fault, w')) :
      Course classes input (part :: rest) progress w
        [⟨part, progress, w, .error fault, w'⟩] (.error fault) w'
  /-- A part has answered, but of its answer it cannot be told whether it is a target. -/
  | undecided {part rest progress w answer fault w'}
      (ran : (part.perform classes input progress).run.run w = (.ok answer, w'))
      (untold : part.resume classes w'.heap progress answer = .error fault) :
      Course classes input (part :: rest) progress w
        [⟨part, progress, w, .ok answer, w'⟩] (.error fault) w'
  | went {part rest progress w answer next w' events result w''}
      (ran : (part.perform classes input progress).run.run w = (.ok answer, w'))
      (resumed : part.resume classes w'.heap progress answer = .ok next)
      (later : Course classes input rest next w' events result w'') :
      Course classes input (part :: rest) progress w
        (⟨part, progress, w, .ok answer, w'⟩ :: events) result w''

variable {classes : ClassTable Code} {input : MappingInput}

namespace Course

variable {parts : List Part} {progress : Progress} {w w' : World} {events : List Event}
  {result : Except Fault Value}

/-- Each event is what running its part came to. -/
theorem ran [Packages] (course : Course classes input parts progress w events result w') :
    ∀ event ∈ events,
      (event.part.perform classes input event.given).run.run event.before =
        (event.outcome, event.after) := by
  induction course with
  | finished => simp
  | failed ran | undecided ran => simpa using ran
  | went ran _ _ ih =>
    intro event mem
    rcases List.mem_cons.mp mem with rfl | mem
    · exact ran
    · exact ih event mem

/-- Parts run in the order in which they are listed, each once, and none is left out
before the last event. -/
theorem inOrder [Packages] (course : Course classes input parts progress w events result w') :
    events.map (·.part) <+: parts := by
  induction course with
  | finished => exact List.prefix_refl []
  | failed | undecided => exact (List.cons_prefix_cons).mpr ⟨rfl, List.nil_prefix⟩
  | went _ _ _ ih => exact (List.cons_prefix_cons).mpr ⟨rfl, ih⟩

/-- A run that ends with a target has run all parts. -/
theorem complete [Packages] (course : Course classes input parts progress w events result w')
    {target : Value} (ended : result = .ok target) : events.map (·.part) = parts := by
  induction course with
  | finished => rfl
  | failed | undecided => cases ended
  | went _ _ _ ih => exact congrArg _ (ih ended)

/-- A run that ends with a fault ends with the part that stopped it: all parts before
had answered, and the world is as that part left it. -/
theorem stopped [Packages] (course : Course classes input parts progress w events result w')
    {fault : Fault} (ended : result = .error fault) :
    ∃ earlier last, events = earlier ++ [last] ∧ last.Stops classes fault ∧
      last.after = w' ∧ ∀ event ∈ earlier, ∃ answer, event.outcome = .ok answer := by
  induction course with
  | finished => cases ended
  | failed => exact ⟨[], _, rfl, .inl ended, rfl, by simp⟩
  | undecided _ untold =>
    cases ended
    obtain ⟨isStage, rfl, isUntold⟩ := Part.resume_eq_error untold
    exact ⟨[], _, rfl, .inr ⟨isStage, rfl, _, rfl, isUntold⟩, rfl, by simp⟩
  | went _ _ _ ih =>
    obtain ⟨earlier, last, rfl, stops, left, answered⟩ := ih ended
    refine ⟨_ :: earlier, last, rfl, stops, left, ?_⟩
    intro event mem
    rcases List.mem_cons.mp mem with rfl | mem
    · exact ⟨_, rfl⟩
    · exact answered event mem

/-- Running parts has one course only. -/
theorem unique [Packages] {events' : List Event} {result' : Except Fault Value} {w'' : World}
    (course : Course classes input parts progress w events result w')
    (other : Course classes input parts progress w events' result' w'') :
    events = events' ∧ result = result' ∧ w' = w'' := by
  induction course generalizing events' with
  | finished =>
    cases other
    exact ⟨rfl, rfl, rfl⟩
  | failed ran =>
    cases other with
    | failed ran' =>
      cases ran.symm.trans ran'
      exact ⟨rfl, rfl, rfl⟩
    | undecided ran' | went ran' => cases ran.symm.trans ran'
  | undecided ran untold =>
    cases other with
    | failed ran' => cases ran.symm.trans ran'
    | undecided ran' untold' =>
      cases ran.symm.trans ran'
      cases untold.symm.trans untold'
      exact ⟨rfl, rfl, rfl⟩
    | went ran' resumed =>
      cases ran.symm.trans ran'
      cases untold.symm.trans resumed
  | went ran resumed _ ih =>
    cases other with
    | failed ran' => cases ran.symm.trans ran'
    | undecided ran' untold =>
      cases ran.symm.trans ran'
      cases resumed.symm.trans untold
    | went ran' resumed' later =>
      cases ran.symm.trans ran'
      cases resumed.symm.trans resumed'
      obtain ⟨rfl, rfl, rfl⟩ := ih later
      exact ⟨rfl, rfl, rfl⟩

end Course

namespace Part

@[simp] theorem performAll_nil [Packages] : performAll classes input [] = pure := rfl

@[simp] theorem performAll_cons [Packages] (part : Part) (rest : List Part) (progress : Progress) :
    performAll classes input (part :: rest) progress =
      part.advance classes input progress >>= performAll classes input rest := by
  simp only [performAll, List.foldlM_cons]
  rfl

theorem performAll_singleton [Packages] (part : Part) :
    performAll classes input [part] = fun progress => part.advance classes input progress :=
  funext fun progress => by rw [performAll_cons, performAll_nil, bind_pure]

theorem performAll_append [Packages] (parts others : List Part) (progress : Progress) :
    performAll classes input (parts ++ others) progress =
      performAll classes input parts progress >>= performAll classes input others := by
  simp only [performAll, List.foldlM_append]
  rfl

end Part

/-- Once a part has answered, the answer decides how the run goes on. -/
theorem Part.advance_run [Packages] {part : Part} {progress : Progress} {w w' : World}
    {answer : Value} (ran : (part.perform classes input progress).run.run w = (.ok answer, w')) :
    (part.advance classes input progress).run.run w =
      (part.resume classes w'.heap progress answer, w') := by
  have ofExcept_run (next : Except Fault Progress) :
      (ofExcept next : Run Progress).run.run w' = (next, w') := by
    cases next <;> rfl
  rw [advance, Run.Ends.run_bind ran]
  exact ofExcept_run _

/-- Running parts is their course. -/
theorem course_performAll [Packages] (classes : ClassTable Code) (input : MappingInput)
    (parts : List Part) (progress : Progress) (w : World) :
    ∃ events result w',
      ((·.target) <$> Part.performAll classes input parts progress).run.run w = (result, w') ∧
      Course classes input parts progress w events result w' := by
  induction parts generalizing progress w with
  | nil => exact ⟨[], _, w, rfl, .finished⟩
  | cons part rest ih =>
    rw [Part.performAll_cons, map_bind]
    cases ran : (part.perform classes input progress).run.run w with
    | mk outcome w₁ =>
      cases outcome with
      | error fault =>
        refine ⟨_, .error fault, w₁, ?_, .failed ran⟩
        rw [Part.advance, bind_assoc, ExceptT.run_bind, StateT.run_bind, ran]
        rfl
      | ok answer =>
        have advanced := Part.advance_run ran
        cases resumed : part.resume classes w₁.heap progress answer with
        | error fault =>
          rw [resumed] at advanced
          refine ⟨_, .error fault, w₁, ?_, .undecided ran resumed⟩
          rw [ExceptT.run_bind, StateT.run_bind, advanced]
          rfl
        | ok next =>
          rw [resumed] at advanced
          obtain ⟨events, result, w₂, later, course⟩ := ih next w₁
          exact ⟨_, result, w₂, (Run.Ends.run_bind advanced _).trans later,
            .went ran resumed course⟩

/-! ## Composed stages as parts -/

/-- Steps that each run some parts run all these parts when taken one after another.
What was read last before a step is of no use to it. -/
theorem foldlM_eq_performAll [Packages] {α : Type} {step : Value → α → Run Value}
    {partsOf : α → List Part}
    (performs : ∀ item target v, step target item =
      (·.target) <$> Part.performAll classes input (partsOf item) ⟨target, v⟩)
    (items : List α) (target v : Value) :
    items.foldlM step target =
      (·.target) <$> Part.performAll classes input (items.flatMap partsOf) ⟨target, v⟩ := by
  induction items generalizing target v with
  | nil => simp [Part.performAll]
  | cons item rest ih =>
    rw [List.foldlM_cons, performs item target v, List.flatMap_cons, Part.performAll_append,
      map_bind, bind_map_left]
    exact congrArg _ (funext fun progress => ih progress.target progress.value)

/-- A part whose answer may take the place of the target. -/
theorem map_target_advance [Packages] {part : Part} (isStage : part.isStage = true)
    (progress : Progress) :
    (·.target) <$> part.advance classes input progress =
      part.perform classes input progress >>= keepTarget classes progress.target := by
  rw [Part.advance, map_bind]
  refine congrArg _ (funext fun answer => funext fun w => ?_)
  refine Eq.trans ?_ (keepTarget_eq classes progress.target answer w).symm
  have decided (held : Except Fault Value) (next : Except Fault Progress)
      (same : next = held.map fun target => { target := target }) :
      StateT.run (ExceptT.run ((·.target) <$> (ofExcept next : Run Progress))) w = (held, w) := by
    subst same
    cases held <;> rfl
  exact decided _ _ (Part.resume_of_isStage classes w.heap progress answer isStage)

/-- What a factory makes is the target. -/
theorem advance_produce [Packages] (factory : Factory) (progress : Progress) :
    (Part.produce factory).advance classes input progress =
      factory >>= fun target => pure { target := target } := rfl

/-- Reading keeps the target. -/
theorem advance_read [Packages] (p : SourceProperty) (progress : Progress) :
    (Part.read p).advance classes input progress =
      p.reader input.source >>= fun v => pure { progress with value := v } := rfl

/-- The parts by which a matched property is set: its value is read and then written, or
code of its own does both. -/
def PropertyPair.parts (pair : PropertyPair) : List Part :=
  if pair.target.mode.takesReader then [.set pair] else [.read pair.source, .write pair.target]

/-- Setting a property runs its parts. -/
theorem setter_eq_performAll [Packages] (pair : PropertyPair) (target v : Value) :
    Stage.returningTarget classes (pair.setter classes) target input.source =
      (·.target) <$> Part.performAll classes input pair.parts ⟨target, v⟩ := by
  rw [PropertyPair.parts]
  split
  · rw [Part.performAll_singleton, map_target_advance rfl]
    rfl
  · next plain =>
    rw [Part.performAll_cons, Part.performAll_singleton, map_bind, advance_read, bind_assoc,
      Stage.returningTarget, ensuringTarget, PropertyPair.setter,
      TargetProperty.setter_eq_write (Bool.eq_false_of_not_eq_true plain), bind_assoc]
    refine congrArg _ (funext fun read => ?_)
    rw [pure_bind, map_target_advance rfl]
    rfl

/-- A custom stage is one part. -/
theorem custom_eq_performAll [Packages] (stage : Stage) (target v : Value) :
    Stage.returningTarget classes stage target input.source =
      (·.target) <$> Part.performAll classes input [.custom stage] ⟨target, v⟩ := by
  rw [Part.performAll_singleton, map_target_advance rfl]
  rfl

/-- A contextual stage is one part. -/
theorem contextual_eq_performAll [Packages] (stage : ContextualStage) (target v : Value) :
    ContextualStage.returningTarget classes stage target input.source input.context =
      (·.target) <$> Part.performAll classes input [.contextual stage] ⟨target, v⟩ := by
  rw [Part.performAll_singleton, map_target_advance rfl]
  rfl

/-! ## Mappers -/

/-- The parts of a specification: the matched properties are set in the order of their
names, and the custom stages follow. -/
def Specification.parts (s : Specification) : List Part :=
  (pairsByName s.targets s.sources).flatMap (·.parts) ++ s.customs.map .custom

/-- The parts of a contextual specification: contextual stages follow all others. -/
def ContextualSpecification.parts (c : ContextualSpecification) : List Part :=
  c.inner.parts ++ c.customs.map .contextual

/-- The composed setters and stages of a specification run its parts. -/
theorem Specification.compose_eq_performAll [Packages] (s : Specification)
    (classes : ClassTable Code)
    (input : MappingInput) (corresponding : Corresponding s.targets s.sources) (target v : Value) :
    compose classes
        (createSetters classes (pairsByName s.targets s.sources) ++ s.customs) target input.source =
      (·.target) <$> Part.performAll classes input s.parts ⟨target, v⟩ := by
  rw [compose, List.foldlM_append, corresponding.createSetters_pairsByName, List.foldlM_map,
    foldlM_eq_performAll setter_eq_performAll _ target v, Specification.parts,
    Part.performAll_append, map_bind, bind_map_left]
  refine congrArg _ (funext fun progress => ?_)
  rw [foldlM_eq_performAll custom_eq_performAll s.customs progress.target progress.value,
    List.map_eq_flatMap]

/-- The composed stages of a contextual specification run its parts. -/
theorem ContextualSpecification.composeContextual_eq_performAll [Packages]
    (c : ContextualSpecification) (classes : ClassTable Code) (input : MappingInput)
    (corresponding : Corresponding c.inner.targets c.inner.sources) (target v : Value) :
    composeContextual classes
        (createSetters classes (pairsByName c.inner.targets c.inner.sources) ++ c.inner.customs)
        c.customs target input.source input.context =
      (·.target) <$> Part.performAll classes input c.parts ⟨target, v⟩ := by
  rw [composeContextual, c.inner.compose_eq_performAll classes input corresponding target v,
    ContextualSpecification.parts, Part.performAll_append, map_bind, bind_map_left]
  refine congrArg _ (funext fun progress => ?_)
  rw [foldlM_eq_performAll contextual_eq_performAll c.customs progress.target progress.value,
    List.map_eq_flatMap]

/-- Making a target with a factory comes before all other parts. -/
theorem performAll_produce [Packages] (factory : Factory) (parts : List Part)
    (progress : Progress) :
    (·.target) <$> Part.performAll classes input (.produce factory :: parts) progress =
      factory >>= fun target =>
        (·.target) <$> Part.performAll classes input parts ⟨target, .null⟩ := by
  rw [Part.performAll_cons, map_bind, advance_produce, bind_assoc]
  simp only [pure_bind]

/-- The pairs of matched properties: strictly ascending by name, each with its
namesake, and all properties of both lists among them, each once. -/
structure PairedInOrder (targets : List TargetProperty) (sources : List SourceProperty) :
    Prop where
  ascending : ((pairsByName targets sources).map (·.target.name)).Pairwise (· < ·)
  sameName : ∀ pair ∈ pairsByName targets sources, pair.source.name = pair.target.name
  allTargets : ((pairsByName targets sources).map (·.target)).Perm targets
  allSources : ((pairsByName targets sources).map (·.source)).Perm sources

/-- Corresponding properties are paired in order. -/
theorem Corresponding.pairedInOrder {targets : List TargetProperty} {sources : List SourceProperty}
    (corresponding : Corresponding targets sources) : PairedInOrder targets sources where
  ascending := by
    have ascending := List.pairwise_map.mpr (byName_ascending TargetProperty.name targets)
    have distinct := nodup_names_byName TargetProperty.name corresponding.distinctTargets
    rw [corresponding.names_pairsByName]
    exact (ascending.and distinct).imp fun ⟨le, ne⟩ =>
      String.not_le.mp fun ge => ne (String.le_antisymm le ge)
  sameName := fun pair mem => (corresponding.of_mem_pairsByName mem).2.2.symm
  allTargets := by
    rw [corresponding.targets_pairsByName]
    exact byName_perm _ targets
  allSources := by
    have sameLength := congrArg List.length corresponding.names_byName_eq
    rw [List.length_map, List.length_map] at sameLength
    have paired : (pairsByName targets sources).map (·.source) = byName (·.name) sources := by
      rw [pairsByName, ← List.map_uncurry_zip_eq_zipWith, List.map_map]
      exact List.map_snd_zip sameLength.ge
    rw [paired]
    exact byName_perm _ sources

/-- A run is the course of some parts: they ran in order, all of them or all up to
the one that stopped it, and the fault of that one is the fault of the run. -/
structure Run.Unfolds [Packages] (run : Run Value) (classes : ClassTable Code)
    (input : MappingInput) (parts : List Part) (start : Progress) (w : World) (events : List Event)
    (result : Except Fault Value) (w' : World) : Prop where
  outcome : run.run.run w = (result, w')
  course : Course classes input parts start w events result w'
  inOrder : events.map (·.part) <+: parts
  complete : ∀ target, result = .ok target → events.map (·.part) = parts
  stopped : ∀ fault, result = .error fault →
    ∃ earlier last, events = earlier ++ [last] ∧ last.Stops classes fault ∧
      last.after = w' ∧ ∀ event ∈ earlier, ∃ answer, event.outcome = .ok answer
  /-- A plain store that failed has no effect, unless code of its own answered it. -/
  refused : Packages.RefusesCleanly → ∀ event ∈ events, ∀ t fault,
    event.part = .write t → t.mode = .assignment →
    event.outcome = .error fault →
    ¬ classes.AnswersStoring event.before event.given.target t.name →
    event.after = event.before

/-- A run that performs parts unfolds into them. -/
theorem Run.exists_unfolds [Packages] {run : Run Value} {parts : List Part} {start : Progress}
    (performs : run = (·.target) <$> Part.performAll classes input parts start) (w : World) :
    ∃ events result w', run.Unfolds classes input parts start w events result w' := by
  obtain ⟨events, result, w', ran, course⟩ := course_performAll classes input parts start w
  refine ⟨events, result, w', performs ▸ ran, course, course.inOrder, fun _ => course.complete,
    fun _ => course.stopped, ?_⟩
  intro lawful event mem t fault isWrite mode failed silent
  have stored := course.ran event mem
  rw [isWrite, failed] at stored
  simp only [Part.perform, TargetProperty.write, TargetProperty.setter, mode, pure_bind] at stored
  exact Run.FailsCleanly.bind_pure (ClassTable.writeAttribute_failsCleanly lawful silent) _ _ _
    stored

/-- What compiled mappers of both kinds run: they make a target or fill a given one,
by the parts that the specification names. -/
inductive CompiledRun [Packages] (classes : ClassTable Code) :
    Run Value → MappingInput → List Part → Progress → Prop where
  | map {s : Specification} {mapper factory}
      (created : (s.create classes).outcome.1 = .ok mapper)
      (chosen : s.chosenFactory classes = .ok factory) (source : Value) :
      CompiledRun classes (mapper.map source) ⟨source, .null⟩ (.produce factory :: s.parts)
        ⟨.null, .null⟩
  | mapInto {s : Specification} {mapper}
      (created : (s.create classes).outcome.1 = .ok mapper) (target source : Value) :
      CompiledRun classes (mapper.mapInto target source) ⟨source, .null⟩ s.parts ⟨target, .null⟩
  | mapInContext {c : ContextualSpecification} {mapper factory}
      (created : (c.create classes).outcome.1 = .ok mapper)
      (chosen : c.inner.chosenFactory classes = .ok factory) (source context : Value) :
      CompiledRun classes (mapper.map source context) ⟨source, context⟩
        (.produce factory :: c.parts) ⟨.null, .null⟩
  | mapIntoInContext {c : ContextualSpecification} {mapper}
      (created : (c.create classes).outcome.1 = .ok mapper) (target source context : Value) :
      CompiledRun classes (mapper.mapInto target source context) ⟨source, context⟩ c.parts
        ⟨target, .null⟩

/-- What compiled mappers run is the course of these parts. -/
theorem CompiledRun.exists_unfolds [Packages] {run : Run Value} {parts : List Part}
    {start : Progress} (compiled : CompiledRun classes run input parts start) (w : World) :
    ∃ events result w', run.Unfolds classes input parts start w events result w' := by
  apply Run.exists_unfolds
  cases compiled with
  | @map s _ _ created chosen source =>
    rw [s.create_outcome, s.compileWith_eq_ok_iff] at created
    obtain ⟨corresponding, _, chosen', rfl⟩ := created
    obtain rfl := Except.ok.inj (chosen'.symm.trans chosen)
    rw [performAll_produce]
    exact congrArg _ (funext fun target =>
      s.compose_eq_performAll classes ⟨source, .null⟩ corresponding target .null)
  | @mapInto s _ created target source =>
    rw [s.create_outcome, s.compileWith_eq_ok_iff] at created
    obtain ⟨corresponding, _, _, rfl⟩ := created
    exact s.compose_eq_performAll classes ⟨source, .null⟩ corresponding target .null
  | @mapInContext c _ _ created chosen source context =>
    rw [c.create_outcome, c.inner.compileWith_eq_ok_iff] at created
    obtain ⟨corresponding, _, chosen', rfl⟩ := created
    obtain rfl := Except.ok.inj (chosen'.symm.trans chosen)
    rw [performAll_produce]
    exact congrArg _ (funext fun target =>
      c.composeContextual_eq_performAll classes ⟨source, context⟩ corresponding target .null)
  | @mapIntoInContext c _ created target source context =>
    rw [c.create_outcome, c.inner.compileWith_eq_ok_iff] at created
    obtain ⟨corresponding, _, _, rfl⟩ := created
    exact c.composeContextual_eq_performAll classes ⟨source, context⟩ corresponding target .null

/-- Compiled mappers run the parts of their specification and nothing else. Making a
target runs the factory first; filling a given one does not. -/
theorem mappers_unfold [Packages] (classes : ClassTable Code) (s : Specification)
    (c : ContextualSpecification) :
    (∀ mapper, (s.create classes).outcome.1 = .ok mapper →
      PairedInOrder s.targets s.sources ∧
      ∃ factory, s.chosenFactory classes = .ok factory ∧ ∀ source w,
        (∃ events result w', (mapper.map source).Unfolds classes ⟨source, .null⟩
          (.produce factory :: s.parts) ⟨.null, .null⟩ w events result w') ∧
        ∀ target, ∃ events result w', (mapper.mapInto target source).Unfolds classes
          ⟨source, .null⟩ s.parts ⟨target, .null⟩ w events result w') ∧
    (∀ mapper, (c.create classes).outcome.1 = .ok mapper →
      PairedInOrder c.inner.targets c.inner.sources ∧
      ∃ factory, c.inner.chosenFactory classes = .ok factory ∧ ∀ source context w,
        (∃ events result w', (mapper.map source context).Unfolds classes ⟨source, context⟩
          (.produce factory :: c.parts) ⟨.null, .null⟩ w events result w') ∧
        ∀ target, ∃ events result w', (mapper.mapInto target source context).Unfolds classes
          ⟨source, context⟩ c.parts ⟨target, .null⟩ w events result w') := by
  constructor
  · intro mapper created
    obtain ⟨corresponding, factory, chosen, -⟩ :=
      (s.compileWith_eq_ok_iff classes _ _).mp (s.create_outcome classes ▸ created)
    refine ⟨corresponding.pairedInOrder, factory, chosen, fun source w => ⟨?_, fun target => ?_⟩⟩
    · exact (CompiledRun.map created chosen source).exists_unfolds w
    · exact (CompiledRun.mapInto created target source).exists_unfolds w
  · intro mapper created
    obtain ⟨corresponding, factory, chosen, -⟩ :=
      (c.inner.compileWith_eq_ok_iff classes _ _).mp (c.create_outcome classes ▸ created)
    refine ⟨corresponding.pairedInOrder, factory, chosen, fun source context w =>
      ⟨?_, fun target => ?_⟩⟩
    · exact (CompiledRun.mapInContext created chosen source context).exists_unfolds w
    · exact (CompiledRun.mapIntoInContext created target source context).exists_unfolds w

open scoped RuntimePackages

/-- One property is read and written, the custom stage fails, and the contextual stage
behind it is not run. -/
theorem mappers_unfold_of_failing_stage :
    let c : ContextualSpecification := {
      inner := {
        target := .any
        source := .any
        targets := [{
          identity := 0, owner := .any, name := "name", type := .standard .str
          mode := .assignment }]
        sources := [{
          identity := 0, owner := .any, name := "name", type := .standard .str
          reader := fun _ => pure (.text "Ada") }]
        customs := [fun _ _ => throw .badValue]
        factory? := some (Run.allocate (.record { classId := .declared 0 })) }
      context := .any
      customs := [fun target _ _ => pure target] }
    ∃ mapper factory, (c.create {}).outcome.1 = .ok mapper ∧
      ∃ events w', (mapper.map .null .null).Unfolds {} ⟨.null, .null⟩ (.produce factory :: c.parts)
        ⟨.null, .null⟩ {} events (.error .badValue) w' ∧ events.length = 4 := by
  intro c
  have corresponding : Corresponding c.inner.targets c.inner.sources :=
    ⟨by decide, by decide, by simp [c], by simp [c]; rfl⟩
  obtain ⟨mapper, created⟩ : ∃ mapper, (c.create {}).outcome.1 = .ok mapper :=
    ContextualSpecification.exists_mapper ⟨corresponding, .inl rfl⟩
  obtain ⟨-, factory, chosen, runs⟩ := (mappers_unfold {} c.inner c).2 mapper created
  obtain ⟨events, result, w', unfolds⟩ := (runs .null .null {}).1
  have parts : c.parts = [.read c.inner.sources[0], .write c.inner.targets[0],
      .custom fun _ _ => throw .badValue, .contextual fun target _ _ => pure target] := by
    simp [ContextualSpecification.parts, Specification.parts, PropertyPair.parts,
      TargetMode.takesReader, pairsByName, byName, c]
  have produced : factory = Run.allocate (.record { classId := .declared 0 }) :=
    (Except.ok.inj chosen).symm
  obtain ⟨rfl, rfl, -⟩ := unfolds.course.unique <| by
    rw [parts, produced]
    exact .went rfl rfl (.went rfl rfl (.went rfl rfl (.failed rfl)))
  exact ⟨mapper, factory, created, _, w', unfolds, rfl⟩

/-- An interface with a constructor of its own, so that it has instances. -/
def interfaceClasses : ClassTable Code where
  classes := #[{
    name := ⟨.declared 0, "shapes", "Shape", "Shape"⟩
    lineage := [.declared 0, .standard .interfaceBase, .standard .genericBase, .standard .object]
    bases := [.standard .interfaceBase]
    metaclass := .abstractMeta
    isInterface := true
    initializer? := some (.code [] fun _ => pure .null) }]

/-- Targets are made as instances of the interface. A custom stage is run for its effect,
and answers null. -/
def shapeSpecification : Specification where
  target := interfaceClasses.typeOf (.declared 0)
  source := .any
  targets := []
  sources := []
  customs := [fun _ _ => pure .null]
  factory? := some (interfaceClasses.callType {} (interfaceClasses.typeOf (.declared 0)))

/-- A run fails although none of its parts has: of the null value it cannot be told
whether it is an instance of the interface. -/
theorem not_stopped_by_raise :
    ¬ ∀ mapper, (shapeSpecification.create interfaceClasses).outcome.1 = .ok mapper →
      ∀ events fault w', (mapper.map .null).Unfolds interfaceClasses ⟨.null, .null⟩
        (.produce (interfaceClasses.callType {} shapeSpecification.target) ::
          shapeSpecification.parts) ⟨.null, .null⟩ {} events (.error fault) w' →
      ∃ event ∈ events, event.outcome = .error fault := by
  intro raised
  obtain ⟨mapper, created⟩ :
      ∃ mapper, (shapeSpecification.create interfaceClasses).outcome.1 = .ok mapper :=
    Specification.Compilable.exists_mapper ⟨corresponding_nil, .inl rfl⟩
  obtain ⟨events, result, w', unfolds⟩ :=
    (CompiledRun.map created (by rfl) .null).exists_unfolds {}
  have parts : shapeSpecification.parts = [.custom fun _ _ => pure .null] := by
    simp [Specification.parts, shapeSpecification, pairsByName, byName]
  obtain ⟨rfl, rfl, rfl⟩ := unfolds.course.unique <| by
    rw [parts]
    exact .went rfl rfl (.undecided rfl rfl)
  obtain ⟨event, mem, failed⟩ := raised mapper created _ _ _ unfolds
  simp only [List.mem_cons, List.not_mem_nil, or_false] at mem
  rcases mem with rfl | rfl <;> cases failed

end ObjectMapping
