import ObjectMapping.Value.Run

/-!
# Effects of runs

`Run.Ends` says that a run ends with a value, and in which world, and
`Run.FailsCleanly` that it has no effect if it ends with a fault. What runs leave
alone is said by `World.Keeps`: all objects that there were, but for some that
are named, and all classes. Traces and makings are not spoken of.
-/

namespace ObjectMapping

/-- Started in a world, a run ends with a value and leaves another world. -/
def Run.Ends {α : Type} (run : Run α) (before : World) (result : α) (after : World) : Prop :=
  run.run.run before = (.ok result, after)

namespace Run

variable {α β : Type} {w w' w'' : World}

theorem ends_pure (a : α) (w : World) : Run.Ends (pure a) w a w := rfl

/-- A run goes on with what its first part ended with. -/
theorem Ends.run_bind {run : Run α} {a : α} (first : run.Ends w a w') (next : α → Run β) :
    (run >>= next).run.run w = (next a).run.run w' := by
  rw [ExceptT.run_bind, StateT.run_bind, first]
  rfl

theorem Ends.bind {run : Run α} {next : α → Run β} {a : α} {b : β}
    (first : run.Ends w a w') (second : (next a).Ends w' b w'') :
    Run.Ends (run >>= next) w b w'' :=
  (first.run_bind next).trans second

/-- A run ends in one way only. -/
theorem Ends.unique {run : Run α} {a b : α} (ended : run.Ends w a w') (other : run.Ends w b w'') :
    a = b ∧ w' = w'' := by
  have same : (Except.ok a, w') = (Except.ok b, w'') := ended.symm.trans other
  cases same
  exact ⟨rfl, rfl⟩

/-- A run in two parts ends where its second part does. -/
theorem Ends.exists_of_bind {run : Run α} {next : α → Run β} {b : β}
    (ended : Run.Ends (run >>= next) w b w'') :
    ∃ a w', run.Ends w a w' ∧ (next a).Ends w' b w'' := by
  rw [Run.Ends, ExceptT.run_bind, StateT.run_bind] at ended
  cases ran : run.run.run w with
  | mk outcome w' =>
    rw [ran] at ended
    cases outcome with
    | error fault => cases ended
    | ok a => exact ⟨a, w', ran, ended⟩

theorem ends_object? (address : Nat) (w : World) :
    (Run.object? address).Ends w (w.heap.get? address) w := rfl

theorem ends_allocate (object : Object) (w : World) :
    (Run.allocate object).Ends w (.object w.heap.next) {
      w with heap := w.heap.allocate object } := rfl

theorem ends_replace (address : Nat) (object : Object) (w : World) :
    (Run.replace address object).Ends w () { w with heap := w.heap.set address object } := rfl

end Run

/-- Started in the world, a run ends with a value. -/
def Run.Succeeds {α : Type} (run : Run α) (w : World) : Prop :=
  ∃ a w', run.Ends w a w'

namespace Run

variable {α β : Type} {run : Run α} {w w' : World}

theorem Ends.succeeds {a : α} (ended : run.Ends w a w') : run.Succeeds w :=
  ⟨a, w', ended⟩

theorem not_succeeds_of_error {fault : Fault} (failed : run.run.run w = (.error fault, w')) :
    ¬ run.Succeeds w := by
  rintro ⟨a, u, ended⟩
  rw [Ends, failed] at ended
  cases ended

theorem not_succeeds_throw (fault : Fault) (w : World) : ¬ (throw fault : Run α).Succeeds w :=
  not_succeeds_of_error rfl

theorem succeeds_unless_iff (refused : Bool) (fault : Fault) (run : Run α) (w : World) :
    Run.Succeeds (if refused then throw fault else run) w ↔ refused = false ∧ run.Succeeds w := by
  cases refused with
  | true => simpa using not_succeeds_throw fault w
  | false => simp

theorem succeeds_congr {run' : Run α} (same : run.run.run w = run'.run.run w') :
    run.Succeeds w ↔ run'.Succeeds w' := by
  simp only [Succeeds, Ends, same]

/-- Behind a part that ends, it depends on the rest. -/
theorem Ends.succeeds_bind_iff {a : α} (first : run.Ends w a w') (next : α → Run β) :
    (run >>= next).Succeeds w ↔ (next a).Succeeds w' :=
  succeeds_congr (first.run_bind next)

theorem Succeeds.of_bind {next : α → Run β} (succeeds : (run >>= next).Succeeds w) :
    run.Succeeds w := by
  obtain ⟨b, u, ended⟩ := succeeds
  obtain ⟨a, w', first, -⟩ := ended.exists_of_bind
  exact ⟨a, w', first⟩

/-- What is answered instead of the result is of no account. -/
theorem succeeds_bind_pure_iff (run : Run α) (f : α → β) (w : World) :
    Run.Succeeds (run >>= fun a => pure (f a)) w ↔ run.Succeeds w :=
  ⟨.of_bind, fun ⟨a, _, ended⟩ => ⟨f a, _, ended.bind (ends_pure _ _)⟩⟩

end Run

/-- Run in the world, a run changes nothing. -/
def Run.LeavesBe {α : Type} (run : Run α) (w : World) : Prop :=
  (run.run.run w).2 = w

/-- If the run fails in the world, it has not changed it. -/
def Run.FailsCleanly {α : Type} (run : Run α) (w : World) : Prop :=
  ∀ fault w', run.run.run w = (.error fault, w') → w' = w

namespace Run

variable {α β : Type} {w w' : World}

theorem LeavesBe.bind {run : Run α} {next : α → Run β} (first : run.LeavesBe w)
    (second : ∀ a, (next a).LeavesBe w) : Run.LeavesBe (run >>= next) w := by
  have unchanged : run.run.run w = ((run.run.run w).1, w) := Prod.ext rfl first
  rw [Run.LeavesBe, ExceptT.run_bind, StateT.run_bind, unchanged]
  cases (run.run.run w).1 with
  | error fault => rfl
  | ok a => exact second a

/-- A loop whose steps change nothing changes nothing. -/
theorem LeavesBe.of_forIn {step : α → PUnit → Run (ForInStep PUnit)}
    (looks : ∀ item, (step item PUnit.unit).LeavesBe w) (items : List α) :
    (forIn items PUnit.unit step).LeavesBe w := by
  induction items with
  | nil => rfl
  | cons item rest ih =>
    rw [List.forIn_cons]
    refine (looks item).bind fun next => ?_
    cases next with
    | done => rfl
    | yield => exact ih

namespace FailsCleanly

theorem of_ends {run : Run α} {a : α} (ends : run.Ends w a w') : run.FailsCleanly w := by
  intro fault left failed
  rw [ends] at failed
  cases failed

theorem of_leavesBe {run : Run α} (unchanged : run.LeavesBe w) : run.FailsCleanly w := by
  intro fault left failed
  rw [LeavesBe, failed] at unchanged
  exact unchanged

theorem of_throw (fault : Fault) : (throw fault : Run α).FailsCleanly w :=
  of_leavesBe rfl

/-- A first part that ends without a change is of no account. -/
theorem bind {run : Run α} {next : α → Run β} {a : α} (first : run.Ends w a w)
    (second : (next a).FailsCleanly w) : Run.FailsCleanly (run >>= next) w := by
  intro fault left failed
  rw [first.run_bind] at failed
  exact second fault left failed

/-- What is answered instead of the result is of no account. -/
theorem bind_pure {run : Run α} (clean : run.FailsCleanly w) (b : β) :
    Run.FailsCleanly (run >>= fun _ => pure b) w := by
  intro fault left failed
  rw [ExceptT.run_bind, StateT.run_bind] at failed
  cases ran : run.run.run w with
  | mk outcome after =>
    rw [ran] at failed
    cases outcome with
    | ok a => cases failed
    | error _ =>
      cases failed
      exact clean _ _ ran

/-- A first part that changes nothing may fail itself. -/
theorem bind_of_leavesBe {run : Run α} {next : α → Run β} (first : run.LeavesBe w)
    (second : ∀ a, (next a).FailsCleanly w) : Run.FailsCleanly (run >>= next) w := by
  cases ran : run.run.run w with
  | mk outcome after =>
    rw [LeavesBe, ran] at first
    cases first
    cases outcome with
    | ok a => exact bind ran (second a)
    | error fault =>
      intro _ left failed
      rw [ExceptT.run_bind, StateT.run_bind, ran] at failed
      cases failed
      rfl

end FailsCleanly

end Run

/-- Since one world, another one has come about in which no class has changed, and
no object that there was, but for those at some addresses. -/
structure World.Keeps (touched : List Nat) (before after : World) : Prop where
  changes : after.changes = before.changes
  growing : before.heap.next ≤ after.heap.next
  others : ∀ address < before.heap.next, address ∉ touched →
    after.heap.get? address = before.heap.get? address

namespace World.Keeps

variable {touched : List Nat} {w w' w'' : World}

theorem refl (touched : List Nat) (w : World) : w.Keeps touched w :=
  ⟨rfl, Nat.le_refl _, fun _ _ _ => rfl⟩

theorem trans (first : w.Keeps touched w') (second : w'.Keeps touched w'') :
    w.Keeps touched w'' := by
  refine ⟨second.changes.trans first.changes, Nat.le_trans first.growing second.growing, ?_⟩
  intro address old untouched
  rw [second.others address (Nat.lt_of_lt_of_le old first.growing) untouched]
  exact first.others address old untouched

/-- What is written since an object was made, and only to that object, changes none that
there was before. -/
theorem trans_new (first : w.Keeps [] w') {own : Nat} (isNew : w.heap.next ≤ own)
    (second : w'.Keeps [own] w'') : w.Keeps [] w'' := by
  refine ⟨second.changes.trans first.changes, Nat.le_trans first.growing second.growing, ?_⟩
  intro address old _
  have apart : address ∉ [own] := by
    simp only [List.mem_singleton]
    omega
  rw [second.others address (Nat.lt_of_lt_of_le old first.growing) apart]
  exact first.others address old List.not_mem_nil

/-- What keeps all objects keeps all but some. -/
theorem of_all (kept : w.Keeps [] w') (touched : List Nat) : w.Keeps touched w' :=
  ⟨kept.changes, kept.growing, fun address old _ => kept.others address old (List.not_mem_nil)⟩

/-- An object that is found stays what it is. -/
theorem found (kept : w.Keeps [] w') {address : Nat} {object : Object}
    (found : w.heap.get? address = some object) : w'.heap.get? address = some object := by
  rw [kept.others address (w.heap.lt_next_of_get?_eq_some found) List.not_mem_nil, found]

/-- A new object changes none that there was. -/
theorem allocated (w : World) (object : Object) :
    w.Keeps [] { w with heap := w.heap.allocate object } :=
  ⟨rfl, by simp, fun _ old _ => Heap.get?_allocate_of_lt object old⟩

/-- Replacing an object touches at most that object, and none that there was before
it was allocated. -/
theorem replaced (kept : w.Keeps touched w') {address : Nat} (object : Object)
    (own : address ∈ touched ∨ w.heap.next ≤ address) :
    w.Keeps touched { w' with heap := w'.heap.set address object } := by
  refine ⟨kept.changes, by simpa using kept.growing, ?_⟩
  intro other old untouched
  have apart : address ≠ other := by
    rintro rfl
    rcases own with mem | new
    · exact untouched mem
    · omega
  rw [Heap.get?_set_ne object apart]
  exact kept.others other old untouched

/-- Writing an object changes no other one. -/
theorem written (w : World) (own : Nat) (object : Object) :
    w.Keeps [own] { w with heap := w.heap.set own object } :=
  (refl [own] w).replaced object (.inl List.mem_cons_self)

end World.Keeps

end ObjectMapping
