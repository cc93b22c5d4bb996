import ObjectMapping.Package.Runtime
import ObjectMapping.Proofs.Declaration.ClosedLines
import ObjectMapping.Proofs.Mapping.Course

/-!
# Which answers become the target

A custom stage may answer a new target. As documented, an instance of the target
type takes the place of the target. What decides is another class, that of the
target at the time: `custom_answers` says what becomes of every answer in every
run of a compiled mapper, and for which answers that is the documented rule. The
two part where the target is an instance of a subclass and the answer is not.
-/

namespace ObjectMapping

/-- The target after an answer, by the documented rule: an instance of the target type
takes the place of the target. -/
def ClassTable.documentedTarget (classes : ClassTable Code) (c : ClassId) (heap : Heap)
    (target answer : Value) : Value :=
  if classes.isInstanceIn heap answer c then answer else target

variable {classes : ClassTable Code} {heap : Heap} {target answer : Value} {c : ClassId}

/-- The rule is the documented one unless it cannot be told, or the answer is an instance of
the target type but not of the class of the target. -/
theorem ClassTable.heldTarget_eq_documentedTarget_iff (closed : classes.LinesClosed)
    (typed : classes.isInstanceIn heap target c = true) :
    classes.heldTarget heap target answer = .ok (classes.documentedTarget c heap target answer) ↔
      classes.isUntold heap target answer = false ∧
        (classes.isInstanceIn heap answer c = true →
          classes.isInstanceIn heap answer (classes.classIn heap target) = true) := by
  have within (held : classes.isInstanceIn heap answer (classes.classIn heap target) = true) :
      classes.isInstanceIn heap answer c = true := closed.isSubclass_trans held typed
  rw [heldTarget, documentedTarget]
  cases untold : classes.isUntold heap target answer with
  | true => simp
  | false =>
    simp only [Bool.false_eq_true, if_false, true_and]
    by_cases held : classes.isInstanceIn heap answer (classes.classIn heap target) = true
    · simp [held, within held]
    · by_cases documented : classes.isInstanceIn heap answer c = true
      · simp only [held, documented, Bool.false_eq_true, if_false, if_true, forall_const, iff_false,
          Except.ok.injEq]
        -- The target itself is an instance of its class, so that the answer is another value.
        rintro rfl
        exact held (classes.isInstanceIn_self heap target)
      · simp [held, documented]

/-- The part is a custom stage, with or without context. -/
def Part.isCustom : Part → Bool
  | .custom _ | .contextual _ => true
  | .produce _ | .read _ | .write _ | .set _ => false

theorem Part.isStage_of_isCustom (part : Part) (custom : part.isCustom = true) :
    part.isStage = true := by
  cases part with
  | custom | contextual => rfl
  | produce | read | write | set => cases custom

/-- The target with which a run goes on: that of the next event, or else the result. -/
def nextTarget (result : Except Fault Value) : List Event → Except Fault Value
  | [] => result
  | next :: _ => .ok next.given.target

namespace Course

variable {input : MappingInput} {parts : List Part} {progress : Progress} {w w' : World}
  {events : List Event} {result : Except Fault Value}

/-- The first event is given the target with which the course starts. -/
theorem nextTarget_eq [Packages] (course : Course classes input parts progress w events result w') :
    nextTarget result events = .ok progress.target := by
  cases course <;> rfl

/-- After a part has answered, the run goes on with what the part makes of the answer. -/
theorem nextTarget_of_answer [Packages]
    (course : Course classes input parts progress w events result w')
    {earlier later : List Event} {event : Event} {answer : Value}
    (split : events = earlier ++ event :: later) (answered : event.outcome = .ok answer) :
    nextTarget result later =
      (event.part.resume classes event.after.heap event.given answer).map (·.target) := by
  induction course generalizing earlier with
  | finished => simp at split
  | failed ran =>
    cases earlier with
    | nil =>
      simp only [List.nil_append, List.cons.injEq] at split
      obtain ⟨rfl, -⟩ := split
      cases answered
    | cons first earlier => simp at split
  | undecided ran untold =>
    cases earlier with
    | nil =>
      simp only [List.nil_append, List.cons.injEq] at split
      obtain ⟨rfl, rfl⟩ := split
      cases answered
      rw [untold]
      rfl
    | cons first earlier => simp at split
  | went ran resumed course ih =>
    cases earlier with
    | nil =>
      simp only [List.nil_append, List.cons.injEq] at split
      obtain ⟨rfl, rfl⟩ := split
      cases answered
      rw [resumed]
      exact course.nextTarget_eq
    | cons first earlier =>
      simp only [List.cons_append, List.cons.injEq] at split
      exact ih split.2

/-- After a stage has answered, the run goes on with the answer or with the target that the
stage was given, if that can be told. -/
theorem nextTarget_of_isStage [Packages]
    (course : Course classes input parts progress w events result w')
    {earlier later : List Event} {event : Event} {answer : Value}
    (split : events = earlier ++ event :: later) (isStage : event.part.isStage = true)
    (answered : event.outcome = .ok answer) :
    nextTarget result later = classes.heldTarget event.after.heap event.given.target answer := by
  rw [course.nextTarget_of_answer split answered, Part.resume_of_isStage _ _ _ _ isStage]
  cases classes.heldTarget event.after.heap event.given.target answer <;> rfl

end Course

/-- What becomes of the answer of a custom stage, where the target type is a class. -/
structure Event.TakenUp (classes : ClassTable Code) (c : ClassId) (event : Event)
    (answer : Value) (next : Except Fault Value) : Prop where
  /-- The class of the target decides. -/
  byTarget : next = classes.heldTarget event.after.heap event.given.target answer
  /-- For a target of just the target type this is the documented rule, if it can be told. -/
  ofExactTarget : classes.classIn event.after.heap event.given.target = c →
    classes.isUntold event.after.heap event.given.target answer = false →
    next = .ok (classes.documentedTarget c event.after.heap event.given.target answer)
  /-- For any instance of it, it is as long as the answer is an instance of the class
  of the target, or not of the target type at all. -/
  documented_iff : classes.isInstanceIn event.after.heap event.given.target c = true →
    (next = .ok (classes.documentedTarget c event.after.heap event.given.target answer) ↔
      classes.isUntold event.after.heap event.given.target answer = false ∧
        (classes.isInstanceIn event.after.heap answer c = true →
          classes.isInstanceIn event.after.heap answer
            (classes.classIn event.after.heap event.given.target) = true))

/-- In every run of a compiled mapper, each answer of a custom stage is taken up by
the class of the target at the time: the answer goes on in place of the target if it is
an instance of that class, and otherwise the target does. Where that cannot be told, the
run fails. -/
theorem custom_answers [Packages] (closed : classes.LinesClosed) {run : Run Value}
    {input : MappingInput}
    {parts : List Part} {start : Progress} (compiled : CompiledRun classes run input parts start)
    (w : World) :
    ∃ events result w', run.Unfolds classes input parts start w events result w' ∧
      ∀ earlier event later answer, events = earlier ++ event :: later →
        event.part.isCustom = true → event.outcome = .ok answer →
        ∀ c, event.TakenUp classes c answer (nextTarget result later) := by
  obtain ⟨events, result, w', unfolds⟩ := compiled.exists_unfolds w
  refine ⟨events, result, w', unfolds, ?_⟩
  intro earlier event later answer split custom answered c
  have next := unfolds.course.nextTarget_of_isStage split (event.part.isStage_of_isCustom custom)
    answered
  refine ⟨next, ?_, ?_⟩
  · rintro rfl told
    rw [next, ClassTable.heldTarget, told]
    exact apply_ite Except.ok _ _ _ |>.symm
  · intro typed
    rw [next, ClassTable.heldTarget_eq_documentedTarget_iff closed typed]

/-! ## A target of a subclass -/

open scoped RuntimePackages

/-- Two classes, of which the second inherits from the first. -/
def staffDeclarations : List ClassDeclaration := [
  { name := ⟨.declared 0, "staff", "Person", "Person"⟩, kind := .plain },
  { name := ⟨.declared 1, "staff", "Employee", "Employee"⟩, kind := .plain
    bases := [.declared 0] }]

/-- The two classes once they are declared, whatever their code would be. -/
def staffTable (β : Type) : ClassTable β where
  classes := #[
    { name := ⟨.declared 0, "staff", "Person", "Person"⟩
      lineage := [.declared 0, .standard .object] },
    { name := ⟨.declared 1, "staff", "Employee", "Employee"⟩
      lineage := [.declared 1, .declared 0, .standard .object]
      bases := [.declared 0] }]

/-- The two classes in a program that runs. -/
def staffClasses : ClassTable Code :=
  staffTable Code

/-- Both classes are declared, and run without code of their own. -/
theorem staffClasses_declared :
    (Blueprint.declareAll staffDeclarations).Ends {} (staffTable Body) {} ∧
      Blueprint.runnable (staffTable Body) = staffClasses := by
  refine ⟨rfl, ?_⟩
  obtain ⟨f, isMap⟩ := Blueprint.exists_map_eq_runnable (staffTable Body)
  rw [isMap]
  simp [ClassTable.map, ClassInfo.map, staffTable, staffClasses]

/-- Makes an instance of one of the two classes. -/
def newStaff (index : Nat) : Factory :=
  Run.allocate (.record { classId := .declared index })

/-- The target type is the first class. Targets are made as instances of the second,
and a custom stage answers one of the first. -/
def staffSpecification : Specification where
  target := staffClasses.typeOf (.declared 0)
  source := .any
  targets := []
  sources := []
  customs := [fun _ _ => newStaff 0]
  factory? := some (newStaff 1)

/-- The second class comes behind the first, and its bases agree with the line of that one. -/
theorem basesAgree_staffTable : BasesAgree (staffTable Body).ancestries := by
  have ancestries : (staffTable Body).ancestries = #[
      ⟨.declared 0, [], [.declared 0, .standard .object]⟩,
      ⟨.declared 1, [.declared 0], [.declared 1, .declared 0, .standard .object]⟩] := by
    simp [ClassTable.ancestries, ClassInfo.ancestry, staffTable]
  rw [ancestries]
  refine ⟨fun index a found base mem => ?_, fun a mem => ?_⟩
  · rcases index with _ | _ | _
    · cases found
      cases mem
    · cases found
      obtain rfl := List.mem_singleton.mp mem
      exact Nat.zero_lt_one
    · cases found
  · refine ⟨[.declared 0, .standard .object], by decide, ?_⟩
    simp only [List.mem_toArray, List.mem_cons, List.not_mem_nil, or_false] at mem
    rcases mem with rfl | rfl <;> decide

theorem linesClosed_staffClasses : staffClasses.LinesClosed := by
  obtain ⟨declared, isRunnable⟩ := staffClasses_declared
  rw [← isRunnable]
  refine Blueprint.linesClosed_runnable (fun index d found => ?_) declared basesAgree_staffTable []
  rcases index with _ | _ | _
  · cases found
    rfl
  · cases found
    rfl
  · cases found

theorem exists_staffMapper :
    ∃ mapper, (staffSpecification.create staffClasses).outcome.1 = .ok mapper := by
  have corresponding : Corresponding staffSpecification.targets staffSpecification.sources :=
    ⟨List.nodup_nil, List.nodup_nil, fun _ => Iff.rfl, by intro t mem; cases mem⟩
  exact Specification.Compilable.exists_mapper ⟨corresponding, .inl rfl⟩

/-- The custom stage is given the instance of the second class and answers the other,
which is dropped. -/
theorem staff_course_ends {events : List Event} {result : Except Fault Value} {w' : World}
    (course : Course staffClasses ⟨.null, .null⟩ (.produce (newStaff 1) :: staffSpecification.parts)
      ⟨.null, .null⟩ {} events result w') :
    result = .ok (.object 0) ∧ ∃ earlier event, events = earlier ++ event :: [] ∧
      event.part.isCustom = true ∧ event.given.target = .object 0 ∧
      event.outcome = .ok (.object 1) ∧
      event.after.heap =
        ⟨#[.record { classId := .declared 1 }, .record { classId := .declared 0 }]⟩ := by
  have parts : staffSpecification.parts = [.custom fun _ _ => newStaff 0] := by
    simp [Specification.parts, staffSpecification, pairsByName, byName]
  rw [parts] at course
  obtain ⟨rfl, rfl, rfl⟩ := course.unique (.went rfl rfl (.went rfl rfl .finished))
  exact ⟨rfl, [_], _, rfl, rfl, rfl, rfl, rfl⟩

/-- The answer is dropped by the rule that `custom_answers` states. -/
theorem custom_answers_staff :
    ∃ mapper events w', (staffSpecification.create staffClasses).outcome.1 = .ok mapper ∧
      (mapper.map .null).Unfolds staffClasses ⟨.null, .null⟩
        (.produce (newStaff 1) :: staffSpecification.parts) ⟨.null, .null⟩ {} events
        (.ok (.object 0)) w' ∧
      ∃ event ∈ events, event.TakenUp staffClasses (.declared 0) (.object 1) (.ok (.object 0)) := by
  obtain ⟨mapper, created⟩ := exists_staffMapper
  obtain ⟨events, result, w', unfolds, taken⟩ := custom_answers linesClosed_staffClasses
    (CompiledRun.map created (by rfl) .null) {}
  obtain ⟨rfl, earlier, event, split, custom, -, answered, -⟩ := staff_course_ends unfolds.course
  refine ⟨mapper, events, w', created, unfolds, event, ?_, ?_⟩
  · simp [split]
  · exact taken earlier event [] _ split custom answered _

/-- The documented rule fails: the answer is an instance of the target type, and the
caller receives the target that the stage was given. -/
theorem not_documentedTarget_staff :
    ¬ ∀ mapper, (staffSpecification.create staffClasses).outcome.1 = .ok mapper →
      ∀ events result w', (mapper.map .null).Unfolds staffClasses ⟨.null, .null⟩
        (.produce (newStaff 1) :: staffSpecification.parts) ⟨.null, .null⟩ {} events result w' →
      ∀ earlier event later answer, events = earlier ++ event :: later →
        event.part.isCustom = true → event.outcome = .ok answer →
        staffClasses.isInstanceIn event.after.heap event.given.target (.declared 0) = true →
        nextTarget result later = .ok (staffClasses.documentedTarget (.declared 0)
          event.after.heap event.given.target answer) := by
  intro documented
  obtain ⟨mapper, created⟩ := exists_staffMapper
  obtain ⟨events, result, w', unfolds⟩ :=
    (CompiledRun.map created (by rfl) .null).exists_unfolds {}
  obtain ⟨rfl, earlier, event, split, custom, given, answered, left⟩ :=
    staff_course_ends unfolds.course
  have typed :
      staffClasses.isInstanceIn event.after.heap event.given.target (.declared 0) = true := by
    rw [left, given]
    decide
  have next := documented mapper created events _ w' unfolds earlier event [] _ split custom
    answered typed
  have takenUp : staffClasses.documentedTarget (.declared 0) event.after.heap event.given.target
      (.object 1) = .object 1 := by
    rw [left]
    rfl
  rw [takenUp] at next
  cases next

end ObjectMapping
