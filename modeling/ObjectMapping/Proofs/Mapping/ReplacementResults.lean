import ObjectMapping.Proofs.Mapping.Answers
import ObjectMapping.Proofs.Mapping.Sparing

/-!
# What becomes of replacements

A property that is written by replacement has a replacer, which answers the target with
one value changed. Such a write is a stage among others, so its answer goes on if it is
an instance of the class of the target that the replacer was given. All other answers are
lost, without an error: `replacements_hand_on` says this of all runs of compiled mappers,
for properties that are matched and for those that are bound to a reader.

Nothing that a discovered replacer makes of a model is lost. Of a record it makes a new
instance by calling the class of the target, so that is not lost either, unless code of the
class has changed of which class one of the two is.
-/

namespace ObjectMapping

/-- Answers a target in which the property of a name has a value. -/
abbrev Replacer := Value → String → Value → Run Value

/-- The part writes the property of a name with a replacer: a matched property, or one
that was bound to a reader of the source or of source and context. -/
inductive Part.Replaces [Packages] : Part → Replacer → String → Prop where
  | matched {t : TargetProperty} {replacer} (mode : t.mode = .replacement replacer) :
      Replaces (.write t) replacer t.name
  | bound {building : ClassTable Code} {setter : Setter} {replacer} {reader : Reader} {stage}
      (mode : setter.target.mode = .replacement replacer)
      (isLast : (setter.fromReader building reader).customs =
        setter.specification.customs ++ [stage]) :
      Replaces (.custom stage) replacer setter.target.name
  | boundInContext {building : ClassTable Code} {setter : ContextualSetter} {replacer} {reader}
      {stage} (mode : setter.target.mode = .replacement replacer)
      (isLast : (setter.fromReader building reader).customs =
        setter.specification.customs ++ [stage]) :
      Replaces (.contextual stage) replacer setter.target.name

/-- The replacer of a property that the standard registry discovers. -/
def Replacer.IsDiscovered [Packages] (replacer : Replacer) (discovering : ClassTable Code) : Prop :=
  ∃ (type : TypeExpr) (discovered : List TargetProperty),
    (Registry.standard.targets discovering type).outcome.1 = .ok discovered ∧
    ∃ t ∈ discovered, t.mode = .replacement replacer

/-- The answer is an instance that was made by calling the class that the target was of when
the replacement began. -/
def Event.Remakes [Packages] (event : Event) (discovering : ClassTable Code) (began : World)
    (answer : Value) : Prop :=
  ∃ arguments w,
    (discovering.instantiate (discovering.classIn began.heap event.given.target) arguments).Ends w
      answer event.after

/-- What becomes of the answer of a replacer that began in a world. -/
structure Event.HandsOn [Packages] (classes : ClassTable Code) (event : Event) (replacer : Replacer)
    (began : World) (answer : Value) (next : Except Fault Value) : Prop where
  /-- It is taken up like the answer of any other stage. -/
  byTarget : next = classes.heldTarget event.after.heap event.given.target answer
  /-- It goes on exactly if it is told to be an instance of the class of the target. -/
  handedOn_iff : next = .ok answer ↔
    classes.isUntold event.after.heap event.given.target answer = false ∧
      classes.isInstanceIn event.after.heap answer
        (classes.classIn event.after.heap event.given.target) = true
  /-- In particular it goes on if it is of just the class of the target. -/
  ofSameClass : classes.classIn event.after.heap answer =
    classes.classIn event.after.heap event.given.target → next = .ok answer
  discovered : ∀ discovering, replacer.IsDiscovered discovering → Packages.CopiesModels →
    next = .ok answer ∨
      replacer = discovering.replaceField ∧ event.Remakes discovering began answer

/-- What becomes of all replacements of a run. -/
structure HandsOnReplacements [Packages] (classes : ClassTable Code) (parts : List Part)
    (events : List Event) (result : Except Fault Value) : Prop where
  performed : ∀ target, result = .ok target → ∀ part ∈ parts, ∀ replacer name,
    part.Replaces replacer name →
      ∃ event ∈ events, event.part = part ∧ ∃ answer, event.outcome = .ok answer
  handedOn : ∀ earlier event later answer replacer name, events = earlier ++ event :: later →
    event.part.Replaces replacer name → event.outcome = .ok answer →
    ∃ v began, (replacer event.given.target name v).Ends began answer event.after ∧
      event.HandsOn classes replacer began answer (nextTarget result later)

variable {classes : ClassTable Code} {input : MappingInput}

/-! ## One replacement -/

namespace ClassTable

variable {heap : Heap} {target answer : Value}

/-- An answer takes the place of the target if it is told to be an instance of its class. -/
theorem heldTarget_eq_answer_iff :
    classes.heldTarget heap target answer = .ok answer ↔
      classes.isUntold heap target answer = false ∧
        classes.isInstanceIn heap answer (classes.classIn heap target) = true := by
  rw [heldTarget]
  cases classes.isUntold heap target answer with
  | true => simp
  | false =>
    by_cases held : classes.isInstanceIn heap answer (classes.classIn heap target) = true
    · simp [held]
    · simp only [held, Bool.false_eq_true, if_false, and_false, iff_false, Except.ok.injEq]
      -- The target is an instance of its own class.
      rintro rfl
      exact held (classes.isInstanceIn_self heap target)

variable [Packages]

/-- A record is replaced by calling the class that it is of. -/
theorem exists_instantiate_of_replaceField {discovering : ClassTable Code} {earlier : Value}
    {name : String} {v : Value} {w w' : World}
    (ended : (discovering.replaceField earlier name v).Ends w answer w') :
    ∃ arguments w₁,
      (discovering.instantiate (discovering.classIn w.heap earlier) arguments).Ends
        w₁ answer w' := by
  rw [replaceField, Run.Ends, (discovering.classOf_eq earlier w).run_bind] at ended
  cases layout : discovering.recordLayout? (discovering.classIn w.heap earlier) with
  | none =>
    rw [layout] at ended
    cases ended
  | some layout' =>
    rw [layout] at ended
    obtain ⟨kept, w₁, -, called⟩ := Run.Ends.exists_of_bind ended
    cases isClass : discovering.classIn w.heap earlier with
    | declared index =>
      rw [isClass] at called
      exact ⟨_, w₁, called⟩
    | standard c =>
      rw [isClass, recordLayout?_standard] at layout
      cases layout

end ClassTable

section Replacements

variable [Packages]

namespace Part.Replaces

variable {part : Part} {replacer : Replacer} {name : String}

/-- A replacing part runs its replacer last. -/
theorem exists_ends (replaces : part.Replaces replacer name) {progress : Progress} {answer : Value}
    {w w' : World} (ran : (part.perform classes input progress).Ends w answer w') :
    ∃ v w₁, (replacer progress.target name v).Ends w₁ answer w' := by
  have written {t : TargetProperty} (mode : t.mode = .replacement replacer)
      {table : ClassTable Code} {reader : Reader} {source : Value} {w : World}
      (ended : (t.setter table reader progress.target source).Ends w answer w') :
      ∃ v w₁, (replacer progress.target t.name v).Ends w₁ answer w' := by
    rw [TargetProperty.setter, mode] at ended
    obtain ⟨v, w₁, -, later⟩ := Run.Ends.exists_of_bind ended
    exact ⟨v, w₁, later⟩
  cases replaces with
  | @matched t _ mode =>
    rw [perform, t.write_of_replacement mode] at ran
    exact ⟨progress.value, w, ran⟩
  | bound mode isLast =>
    obtain rfl := List.singleton_injective (List.append_cancel_left isLast)
    exact written mode ran
  | boundInContext mode isLast =>
    obtain rfl := List.singleton_injective (List.append_cancel_left isLast)
    obtain ⟨_, _, -, later⟩ := ran.exists_of_bind
    exact written mode later

theorem isStage (replaces : part.Replaces replacer name) : part.isStage = true := by
  cases replaces <;> rfl

end Part.Replaces

/-- A discovered replacer changes a copy of a model, or it calls the class of a record again. -/
theorem Replacer.IsDiscovered.eq_or_eq {replacer : Replacer} {discovering : ClassTable Code}
    (isDiscovered : replacer.IsDiscovered discovering) :
    replacer = discovering.copyWithUpdate ∨ replacer = discovering.replaceField := by
  obtain ⟨type, discovered, given, t, mem, mode⟩ := isDiscovered
  cases Registry.discoveredTargets_of_standard given with
  | inPlace each =>
    rw [each t mem] at mode
    cases mode
  | record _ _ _ each =>
    rw [(each t mem).1] at mode
    cases mode
    exact .inr rfl
  | model _ _ each =>
    obtain ⟨f, -, -, isMode⟩ := each t mem
    rw [isMode] at mode
    split at mode <;> cases mode
    exact .inl rfl

/-- A changed copy of a model is of the class of the model. -/
theorem ClassTable.classIn_copyWithUpdate (lawful : Packages.CopiesModels)
    {discovering : ClassTable Code} {earlier answer : Value} {name : String} {v : Value}
    {w w' : World} (ended : (discovering.copyWithUpdate earlier name v).Ends w answer w') :
    classes.classIn w'.heap answer = classes.classIn w'.heap earlier := by
  obtain ⟨address, r, rfl, found, copied⟩ := discovering.exists_of_copyWithUpdate ended
  obtain ⟨place, rfl, -, kept, made⟩ := lawful.copies found copied
  simp only [classIn, made, kept.found found]

/-! ## All replacements of a run -/

namespace Course

variable {parts : List Part} {progress : Progress} {w w' : World} {events : List Event}
  {result : Except Fault Value}

/-- In a run that ends with a target, all parts have answered. -/
theorem answered (course : Course classes input parts progress w events result w') {target : Value}
    (ended : result = .ok target) : ∀ event ∈ events, ∃ answer, event.outcome = .ok answer := by
  induction course with
  | finished => simp
  | failed | undecided => cases ended
  | went ran _ course ih => exact List.forall_mem_cons.mpr ⟨⟨_, rfl⟩, ih ended⟩

theorem handsOnReplacements (course : Course classes input parts progress w events result w') :
    HandsOnReplacements classes parts events result where
  performed := by
    intro target ended part mem replacer name _
    rw [← course.complete ended] at mem
    obtain ⟨event, isEvent, rfl⟩ := List.mem_map.mp mem
    exact ⟨event, isEvent, rfl, course.answered ended event isEvent⟩
  handedOn := by
    intro earlier event later answer replacer name split replaces answered
    have ran := course.ran event (by simp [split])
    rw [answered] at ran
    obtain ⟨v, began, replaced⟩ := replaces.exists_ends ran
    have byTarget := course.nextTarget_of_isStage split replaces.isStage answered
    have ofSameClass (same : classes.classIn event.after.heap answer =
        classes.classIn event.after.heap event.given.target) :
        nextTarget result later = .ok answer := by
      rw [byTarget, ClassTable.heldTarget_of_sameClass same]
    refine ⟨v, began, replaced, byTarget, ?_, ofSameClass, fun discovering discovered lawful => ?_⟩
    · rw [byTarget]
      exact ClassTable.heldTarget_eq_answer_iff
    · rcases discovered.eq_or_eq with rfl | rfl
      · exact .inl (ofSameClass (ClassTable.classIn_copyWithUpdate lawful replaced))
      · exact .inr ⟨rfl, ClassTable.exists_instantiate_of_replaceField replaced⟩

end Course

/-- The replacements of what a compiled mapper runs. -/
theorem CompiledRun.exists_handsOn {run : Run Value} {parts : List Part} {start : Progress}
    (compiled : CompiledRun classes run input parts start) (w : World) :
    ∃ events result w', run.Unfolds classes input parts start w events result w' ∧
      HandsOnReplacements classes parts events result := by
  obtain ⟨events, result, w', unfolds⟩ := compiled.exists_unfolds w
  exact ⟨events, result, w', unfolds, unfolds.course.handsOnReplacements⟩

omit [Packages] in
/-- Each matched property that is replaced is among the parts. -/
theorem Corresponding.write_mem_parts {s : Specification}
    (corresponding : Corresponding s.targets s.sources) {t : TargetProperty} (mem : t ∈ s.targets)
    {replacer : Replacer} (mode : t.mode = .replacement replacer) : .write t ∈ s.parts := by
  rw [← corresponding.pairedInOrder.allTargets.mem_iff] at mem
  obtain ⟨pair, isPair, rfl⟩ := List.mem_map.mp mem
  refine List.mem_append_left _ (List.mem_flatMap.mpr ⟨pair, isPair, ?_⟩)
  simp [PropertyPair.parts, TargetMode.takesReader, mode]

/-- In every run of a compiled mapper, each replacement that is matched or bound is
performed, and what its replacer answers is taken up by the class of the target that the
replacer was given: it goes on to the next stage or to the caller if it is an instance of
that class, and otherwise it is lost. What discovered replacers answer is not, as long as
code of the class leaves instances in the class that they were made of. -/
theorem replacements_hand_on (classes : ClassTable Code) (s : Specification)
    (c : ContextualSpecification) :
    (∀ mapper, (s.create classes).outcome.1 = .ok mapper →
      (∀ t ∈ s.targets, ∀ replacer, t.mode = .replacement replacer → .write t ∈ s.parts) ∧
      ∃ factory, s.chosenFactory classes = .ok factory ∧ ∀ source w,
        (∃ events result w', (mapper.map source).Unfolds classes ⟨source, .null⟩
            (.produce factory :: s.parts) ⟨.null, .null⟩ w events result w' ∧
          HandsOnReplacements classes (.produce factory :: s.parts) events result) ∧
        ∀ target, ∃ events result w', (mapper.mapInto target source).Unfolds classes
            ⟨source, .null⟩ s.parts ⟨target, .null⟩ w events result w' ∧
          HandsOnReplacements classes s.parts events result) ∧
    (∀ mapper, (c.create classes).outcome.1 = .ok mapper →
      (∀ t ∈ c.inner.targets, ∀ replacer, t.mode = .replacement replacer → .write t ∈ c.parts) ∧
      ∃ factory, c.inner.chosenFactory classes = .ok factory ∧ ∀ source context w,
        (∃ events result w', (mapper.map source context).Unfolds classes ⟨source, context⟩
            (.produce factory :: c.parts) ⟨.null, .null⟩ w events result w' ∧
          HandsOnReplacements classes (.produce factory :: c.parts) events result) ∧
        ∀ target, ∃ events result w', (mapper.mapInto target source context).Unfolds classes
            ⟨source, context⟩ c.parts ⟨target, .null⟩ w events result w' ∧
          HandsOnReplacements classes c.parts events result) := by
  constructor
  · intro mapper created
    obtain ⟨corresponding, factory, chosen, -⟩ :=
      (s.compileWith_eq_ok_iff classes _ _).mp (s.create_outcome classes ▸ created)
    refine ⟨fun t mem replacer => corresponding.write_mem_parts mem, factory, chosen, ?_⟩
    refine fun source w => ⟨?_, fun target => ?_⟩
    · exact (CompiledRun.map created chosen source).exists_handsOn w
    · exact (CompiledRun.mapInto created target source).exists_handsOn w
  · intro mapper created
    obtain ⟨corresponding, factory, chosen, -⟩ :=
      (c.inner.compileWith_eq_ok_iff classes _ _).mp (c.create_outcome classes ▸ created)
    refine ⟨fun t mem replacer mode =>
      List.mem_append_left _ (corresponding.write_mem_parts mem mode), factory, chosen, ?_⟩
    refine fun source context w => ⟨?_, fun target => ?_⟩
    · exact (CompiledRun.mapInContext created chosen source context).exists_handsOn w
    · exact (CompiledRun.mapIntoInContext created target source context).exists_handsOn w

end Replacements

/-! ## Replacers that answer an instance of another class -/

open scoped RuntimePackages

/-- A name that is written with a replacer. -/
def replacedName (replacer : Replacer) : TargetProperty where
  identity := 0
  owner := staffClasses.typeOf (.declared 0)
  name := "name"
  type := .standard .str
  mode := .replacement replacer

/-- A name that is always the same. -/
def fixedName : SourceProperty where
  identity := 0
  owner := .any
  name := "name"
  type := .standard .str
  reader := fun _ => pure (.text "Ada")

/-- Makes an instance of one of the two classes, of which the first is the target type, and
writes the one name with a replacer. -/
def nameReplacing (index : Nat) (replacer : Replacer) : Specification where
  target := staffClasses.typeOf (.declared 0)
  source := .any
  targets := [replacedName replacer]
  sources := [fixedName]
  factory? := some (newStaff index)

theorem exists_nameReplacer (index : Nat) (replacer : Replacer) :
    ∃ mapper, ((nameReplacing index replacer).create staffClasses).outcome.1 = .ok mapper :=
  Specification.Compilable.exists_mapper ⟨corresponding_singleton rfl rfl, .inl rfl⟩

theorem parts_nameReplacing (index : Nat) (replacer : Replacer) :
    (nameReplacing index replacer).parts = [.read fixedName, .write (replacedName replacer)] := by
  simp [Specification.parts, nameReplacing, pairsByName, byName, PropertyPair.parts,
    TargetMode.takesReader, replacedName]

/-- A replacer that answers an instance of the second class: its answer is the result. -/
theorem replacements_hand_on_staff :
    let s := nameReplacing 0 fun _ _ _ => newStaff 1
    ∃ mapper factory events w', (s.create staffClasses).outcome.1 = .ok mapper ∧
      (mapper.map .null).Unfolds staffClasses ⟨.null, .null⟩ (.produce factory :: s.parts)
        ⟨.null, .null⟩ {} events (.ok (.object 1)) w' ∧
      HandsOnReplacements staffClasses (.produce factory :: s.parts) events (.ok (.object 1)) := by
  intro s
  obtain ⟨mapper, created⟩ := exists_nameReplacer 0 fun _ _ _ => newStaff 1
  obtain ⟨-, factory, chosen, runs⟩ :=
    (replacements_hand_on staffClasses s (s.usingContext .any)).1 mapper created
  obtain ⟨⟨events, result, w', unfolds, handsOn⟩, -⟩ := runs .null {}
  obtain rfl : newStaff 0 = factory := Except.ok.inj chosen
  have course := unfolds.course
  rw [parts_nameReplacing] at course
  obtain ⟨-, rfl, -⟩ := course.unique (.went rfl rfl (.went rfl rfl (.went rfl rfl .finished)))
  exact ⟨mapper, newStaff 0, events, w', created, unfolds, handsOn⟩

/-- A replacement can be lost: the replacer answers an instance of the target type, but the
target is an instance of a subclass, and the caller receives that. -/
theorem not_handed_on_staff :
    let s := nameReplacing 1 fun _ _ _ => newStaff 0
    ¬ ∀ mapper, (s.create staffClasses).outcome.1 = .ok mapper →
      ∀ events target w', (mapper.map .null).Unfolds staffClasses ⟨.null, .null⟩
        (.produce (newStaff 1) :: s.parts) ⟨.null, .null⟩ {} events (.ok target) w' →
      ∀ earlier event later answer replacer name, events = earlier ++ event :: later →
        event.part.Replaces replacer name → event.outcome = .ok answer →
        nextTarget (.ok target) later = .ok answer := by
  intro s handedOn
  obtain ⟨mapper, created⟩ := exists_nameReplacer 1 fun _ _ _ => newStaff 0
  have chosen : s.chosenFactory staffClasses = .ok (newStaff 1) := rfl
  obtain ⟨events, result, w', unfolds⟩ := (CompiledRun.map created chosen .null).exists_unfolds {}
  have course := unfolds.course
  rw [parts_nameReplacing] at course
  obtain ⟨rfl, rfl, -⟩ :=
    course.unique (.went rfl rfl (.went rfl rfl (.went rfl rfl .finished)))
  have next := handedOn mapper created _ _ w' unfolds [_, _] _ [] _ _ _ rfl (.matched rfl) rfl
  cases next

end ObjectMapping
