import ObjectMapping.Proofs.Value.Effect

/-!
# Conditions that runs keep

`Run.Preserves` says that a condition on worlds still holds when a run has ended,
with a value or with a fault. It is proved of a run from its parts, so a function
needs no more than the lemmas of the functions that it calls.

What the basic operations keep depends on the condition. `World.LeavesFree` is what
a condition has to satisfy for objects to be made, and for those at some addresses
to be written. `World.ConcernsAttributes` is what it has to satisfy for all that
runs do beyond storing attributes.
-/

namespace ObjectMapping

/-- A run keeps a condition on worlds, however it ends. -/
def Run.Preserves {α : Type} (kept : World → Prop) (run : Run α) : Prop :=
  ∀ w, kept w → kept (run.run.run w).2

/-- Where a run ends under a condition, its result is an object at a free address. -/
def Run.YieldsFree (kept : World → Prop) (free : Nat → Prop) (run : Run Value) : Prop :=
  ∀ w v w', kept w → run.Ends w v w' → ∃ address, v = .object address ∧ free address

/-- A condition leaves some addresses free: objects can be made, the addresses that
they get are free, and records at free addresses can get other contents. What was made
since the condition held before can be filled with anything. -/
structure World.LeavesFree (kept : World → Prop) (free : Nat → Prop) : Prop where
  allocated : ∀ w object, kept w → kept { w with heap := w.heap.allocate object }
  next : ∀ w, kept w → free w.heap.next
  filled : ∀ w w' object, kept w → kept w' →
    kept { w' with heap := w'.heap.set w.heap.next object }
  rewritten : ∀ w address r r', free address → w.heap.get? address = some (.record r) → kept w →
    kept { w with heap := w.heap.set address (.record r') }
  made : ∀ w makings, kept w → kept { w with makings := makings }

/-- Of objects at other addresses, a condition concerns nothing but the attributes. It
survives changes of classes, and whatever is stored apart from attributes. -/
structure World.ConcernsAttributes (kept : World → Prop) (free : Nat → Prop) : Prop
    extends World.LeavesFree kept free where
  changed : ∀ w changes, kept w → kept { w with changes := changes }
  storedApart : ∀ w address r apart, w.heap.get? address = some (.record r) → kept w →
    kept { w with heap := w.heap.set address (.record { r with apart := apart }) }

namespace Run

variable {kept : World → Prop} {free : Nat → Prop} {α β : Type}

/-- A fault is handled in the world that it left. -/
theorem run_tryCatch {run : Run α} (handle : Fault → Run α) {w w' : World}
    {outcome : Except Fault α} (ran : run.run.run w = (outcome, w')) :
    (tryCatch run handle).run.run w =
      match outcome with
      | .ok a => (.ok a, w')
      | .error fault => (handle fault).run.run w' := by
  have ran' : StateT.run run w = (outcome, w') := ran
  rw [show tryCatch run handle = ExceptT.tryCatch run handle from rfl, ExceptT.tryCatch,
    ExceptT.run, ExceptT.mk, StateT.run_bind, ran']
  cases outcome <;> rfl

namespace Preserves

theorem pure (a : α) : Preserves kept (Pure.pure a : Run α) :=
  fun _ holds => holds

theorem throw (fault : Fault) : Preserves kept (MonadExcept.throw fault : Run α) :=
  fun _ holds => holds

theorem bind {run : Run α} {next : α → Run β} (first : run.Preserves kept)
    (second : ∀ a, (next a).Preserves kept) : Preserves kept (run >>= next) := by
  intro w holds
  have middle := first w holds
  rw [ExceptT.run_bind, StateT.run_bind]
  cases ran : run.run.run w with
  | mk outcome after =>
    rw [ran] at middle
    cases outcome with
    | error fault => exact middle
    | ok a => exact second a after middle

theorem map {run : Run α} (f : α → β) (preserved : run.Preserves kept) :
    Preserves kept (f <$> run) := by
  rw [map_eq_pure_bind]
  exact preserved.bind fun a => .pure (f a)

theorem discard {run : Run α} (preserved : run.Preserves kept) :
    Preserves kept (Functor.discard run) :=
  preserved.map _

theorem tryCatch {run : Run α} {handle : Fault → Run α} (tried : run.Preserves kept)
    (handled : ∀ fault, (handle fault).Preserves kept) :
    Preserves kept (MonadExcept.tryCatch run handle) := by
  intro w holds
  have middle := tried w holds
  cases ran : run.run.run w with
  | mk outcome after =>
    rw [ran] at middle
    have caught := run_tryCatch handle ran
    cases outcome with
    | error fault =>
      rw [caught]
      exact handled fault after middle
    | ok a =>
      rw [caught]
      exact middle

/-- What is known of the world at some point may be used behind it. -/
theorem get_bind {next : World → Run β} (second : ∀ w, kept w → (next w).Preserves kept) :
    Preserves kept ((get : Run World) >>= next) :=
  fun w holds => second w holds w holds

theorem ite {condition : Prop} [Decidable condition] {first second : Run α}
    (positive : condition → first.Preserves kept) (negative : ¬ condition → second.Preserves kept) :
    Preserves kept (if condition then first else second) := by
  split
  · exact positive ‹_›
  · exact negative ‹_›

theorem mapM {step : α → Run β} (each : ∀ a, (step a).Preserves kept) (items : List α) :
    Preserves kept (items.mapM step) := by
  induction items with
  | nil => exact .pure []
  | cons item rest ih =>
    rw [List.mapM_cons]
    exact (each item).bind fun _ => ih.bind fun _ => .pure _

theorem foldlM_of_mem {step : β → α → Run β} {items : List α}
    (each : ∀ a ∈ items, ∀ b, (step b a).Preserves kept) (start : β) :
    Preserves kept (items.foldlM step start) := by
  induction items generalizing start with
  | nil => exact .pure start
  | cons item rest ih =>
    rw [List.foldlM_cons]
    exact (each item List.mem_cons_self start).bind fun next =>
      ih (fun a mem => each a (List.mem_cons_of_mem item mem)) next

theorem foldlM {step : β → α → Run β} (each : ∀ b a, (step b a).Preserves kept)
    (items : List α) (start : β) : Preserves kept (items.foldlM step start) :=
  foldlM_of_mem (fun a _ b => each b a) start

theorem allM {step : α → Run Bool} (each : ∀ a, (step a).Preserves kept) (items : List α) :
    Preserves kept (items.allM step) := by
  induction items with
  | nil => exact .pure true
  | cons item rest ih =>
    rw [List.allM]
    refine (each item).bind fun found => ?_
    cases found
    · exact .pure false
    · exact ih

theorem forIn {step : α → PUnit → Run (ForInStep PUnit)}
    (each : ∀ a, (step a PUnit.unit).Preserves kept) (items : List α) :
    Preserves kept (ForIn.forIn items PUnit.unit step) := by
  induction items with
  | nil => exact .pure _
  | cons item rest ih =>
    rw [List.forIn_cons]
    refine (each item).bind fun next => ?_
    cases next with
    | done => exact .pure _
    | yield => exact ih

theorem forM {step : α → Run PUnit} (each : ∀ a, (step a).Preserves kept) (items : List α) :
    Preserves kept (items.forM step) := by
  induction items with
  | nil => exact .pure _
  | cons item rest ih => exact (each item).bind fun _ => ih

theorem object? (address : Nat) : Preserves kept (Run.object? address) :=
  fun _ holds => holds

end Preserves

/-- A run that ends has kept the condition. -/
theorem Preserves.of_ends {run : Run α} {a : α} {w w' : World} (preserved : run.Preserves kept)
    (ended : run.Ends w a w') (holds : kept w) : kept w' := by
  have after := preserved w holds
  rw [ended] at after
  exact after

/-- Of two runs in a row, the second makes the result. -/
theorem Preserves.bind_yields {run : Run α} {next : α → Run Value}
    (first : run.Preserves kept) (second : ∀ a, (next a).YieldsFree kept free) :
    YieldsFree kept free (run >>= next) := by
  intro w v w' holds ended
  obtain ⟨a, w₁, ran, later⟩ := ended.exists_of_bind
  exact second a w₁ v w' (first.of_ends ran holds) later

/-- What makes an object at a free address may be followed by what needs one. -/
theorem Preserves.bind_free {run : Run Value} {next : Value → Run α}
    (first : run.Preserves kept) (yields : run.YieldsFree kept free)
    (second : ∀ address, free address → (next (.object address)).Preserves kept) :
    Preserves kept (run >>= next) := by
  intro w holds
  have middle := first w holds
  rw [ExceptT.run_bind, StateT.run_bind]
  cases ran : run.run.run w with
  | mk outcome after =>
    rw [ran] at middle
    cases outcome with
    | error fault => exact middle
    | ok v =>
      obtain ⟨address, rfl, isFree⟩ := yields w v after holds ran
      exact second address isFree after middle

namespace YieldsFree

theorem throw (fault : Fault) : YieldsFree kept free (MonadExcept.throw fault) := by
  intro w v w' _ ended
  cases ended

/-- What is known of the world at some point may be used behind it. -/
theorem get_bind {next : World → Run Value} (second : ∀ w, (next w).YieldsFree kept free) :
    YieldsFree kept free ((get : Run World) >>= next) :=
  fun w v w' holds ended => second w w v w' holds ended

/-- The result is known, whatever is run before it. -/
theorem bind_pure {run : Run α} {address : Nat} (isFree : free address) :
    YieldsFree kept free (run >>= fun _ => Pure.pure (.object address)) := by
  intro w v w' _ ended
  obtain ⟨_, _, -, rfl, -⟩ := ended.exists_of_bind
  exact ⟨address, rfl, isFree⟩

end YieldsFree

variable (leaves : World.LeavesFree kept free)

include leaves

theorem preserves_make (value : Making → Value) : Preserves kept (Run.make value) :=
  fun w holds => leaves.made w _ holds

theorem preserves_allocate (object : Object) : Preserves kept (Run.allocate object) :=
  fun w holds => leaves.allocated w object holds

/-- The address of a new object is free. -/
theorem preserves_allocate_bind (object : Object) {next : Value → Run β}
    (second : ∀ address, free address → (next (.object address)).Preserves kept) :
    Preserves kept (Run.allocate object >>= next) := by
  intro w holds
  rw [(ends_allocate object w).run_bind]
  exact second w.heap.next (leaves.next w holds) _ (leaves.allocated w object holds)

/-- An object that is made and then worked on is at a free address. -/
theorem yields_allocate_bind (object : Object) {next : Value → Run Value}
    (second : ∀ address, free address → (next (.object address)).YieldsFree kept free) :
    YieldsFree kept free (Run.allocate object >>= next) := by
  intro w v w' holds ended
  rw [Ends, (ends_allocate object w).run_bind] at ended
  exact second w.heap.next (leaves.next w holds) _ v w' (leaves.allocated w object holds) ended

/-- What was made since a world may be filled. -/
theorem preserves_fill {w : World} (holds : kept w) (object : Object) :
    Preserves kept (Run.replace w.heap.next object) :=
  fun w' holds' => leaves.filled w w' object holds holds'

end Run

end ObjectMapping
