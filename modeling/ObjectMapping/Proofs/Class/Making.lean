import ObjectMapping.Class.Conversion
import ObjectMapping.Proofs.Value.Preservation

/-!
# Making values

Looking at values changes nothing, and making them, be it as copies, as defaults or
as arguments, only adds objects. So all of this keeps every condition that has to
do with older objects only.
-/

namespace ObjectMapping

variable {kept : World → Prop} {free : Nat → Prop}

namespace ClassTable

/-! ## Looking at values -/

section Looking

variable {β : Type} [Inhabited β] (classes : ClassTable β)

/-- The class of a value, where objects are what a heap says. -/
def classIn (heap : Heap) : Value → ClassId
  | .null => .standard .noneType
  | .bool _ => .standard .bool
  | .int _ _ => .standard .int
  | .float _ _ => .standard .float
  | .bytes _ _ => .standard .bytes
  | .str _ _ => .standard .str
  | .tuple _ _ => .standard .tuple
  | .type t _ => .standard (classes.classOfType t)
  | .standard c _ _ => .standard c
  | .member kind _ _ => .standard kind
  | .object address =>
      match heap.get? address with
      | some (.list _) => .standard .list
      | some (.dict _) => .standard .dict
      | some (.set _) => .standard .set
      | some (.record r) => r.classId
      | none => .standard .object

theorem classOf_eq (v : Value) (w : World) :
    (classes.classOf v).Ends w (classes.classIn w.heap v) w := by
  cases v with
  | object address =>
    rw [classOf, Run.Ends, (Run.ends_object? address w).run_bind, classIn]
    cases w.heap.get? address with
    | none => rfl
    | some object => cases object <;> rfl
  | _ => rfl

theorem classOf_ends {w : World} {address : Nat} {r : Instance}
    (found : w.heap.get? address = some (.record r)) :
    (classes.classOf (.object address)).Ends w r.classId w := by
  have isClass := classes.classOf_eq (.object address) w
  rwa [classIn, found] at isClass

/-- A copy of an instance is made of what it holds, unless it is a model that its
constructor never prepared. -/
theorem shallowCopy_run {address : Nat} {w : World} {r : Instance}
    (found : w.heap.get? address = some (.record r)) :
    (classes.shallowCopy (.object address)).run.run w =
      if (classes.isModel r.classId && !r.isPrepared) = true then (.error (.noAttribute ""), w)
      else (.ok (.object w.heap.next), { w with heap := w.heap.allocate (.record r) }) := by
  rw [shallowCopy, (Run.ends_object? address w).run_bind, found]
  dsimp only
  split <;> rfl

/-- Only records have classes that are not standard. -/
theorem exists_record_or_standard (heap : Heap) (v : Value) :
    (∃ address r, v = .object address ∧ heap.get? address = some (.record r) ∧
      classes.classIn heap v = r.classId) ∨ ∃ c, classes.classIn heap v = .standard c := by
  cases v with
  | object address =>
    cases found : heap.get? address with
    | none => exact .inr ⟨.object, by rw [classIn, found]⟩
    | some object =>
      cases object with
      | record r => exact .inl ⟨address, r, rfl, found, by rw [classIn, found]⟩
      | list => exact .inr ⟨.list, by rw [classIn, found]⟩
      | dict => exact .inr ⟨.dict, by rw [classIn, found]⟩
      | set => exact .inr ⟨.set, by rw [classIn, found]⟩
  | _ => exact .inr ⟨_, rfl⟩

theorem preserves_classOf (v : Value) : (classes.classOf v).Preserves kept := by
  intro w holds
  rw [classes.classOf_eq v w]
  exact holds

theorem preserves_isInstance (v : Value) (c : ClassId) :
    (classes.isInstance v c).Preserves kept :=
  (classes.preserves_classOf v).bind fun _ => .ite (fun _ => .pure _) fun _ =>
    .ite (fun _ => (Run.Preserves.throw _).bind fun _ => .pure _) fun _ => .pure _

omit [Inhabited β] in
/-- The table of the moment is the table after some changes. -/
theorem preserves_now_bind {α : Type} {next : ClassTable β → Run α}
    (second : ∀ changes, (next (classes.changed changes)).Preserves kept) :
    Run.Preserves kept (classes.now >>= next) :=
  fun w holds => second w.changes w holds

theorem preserves_isKeyTo (depth : Nat) (v : Value) :
    (classes.isKeyTo depth v).Preserves kept := by
  induction depth generalizing v with
  | zero => exact .pure _
  | succ depth ih =>
    have all (values : List Value) :
        (isKeyTo.allKeys values (classes.isKeyTo depth)).Preserves kept :=
      .foldlM (fun _ v => .ite (fun _ => ih v) fun _ => .pure _) values true
    cases v with
    | tuple items | standard c items => exact all items
    | object address =>
      refine .bind (.object? address) fun found => ?_
      split
      · exact .pure _
      · exact .pure _
      · exact .pure _
      · split
        · exact .pure _
        · exact .pure _
        · exact all _
      · exact .pure _
    | _ => exact .pure _

theorem preserves_isKey (v : Value) : (classes.isKey v).Preserves kept :=
  classes.preserves_now_bind fun _ => .get_bind fun _ _ => preserves_isKeyTo _ _ v

end Looking

theorem preserves_elements (v : Value) : (elements v).Preserves kept := by
  unfold elements
  split
  case h_6 address =>
    refine .bind (.object? address) fun found => ?_
    split
    · exact .pure _
    · exact .pure _
    · exact .pure _
    · exact .throw _
  case h_5 =>
    split
    · exact .pure _
    · exact .throw _
  case h_7 => exact .throw _
  all_goals exact .pure _

end ClassTable

/-! ## Copies -/

section Copies

/-- A run that keeps account of copies keeps a condition, whatever was copied before. -/
def PreservesWithCopies {α : Type} (kept : World → Prop) (run : StateT Copies Run α) : Prop :=
  ∀ copies, (run.run copies).Preserves kept

namespace PreservesWithCopies

variable {α β : Type}

theorem pure (a : α) : PreservesWithCopies kept (Pure.pure a) :=
  fun _ => .pure _

theorem lift {run : Run α} (preserved : run.Preserves kept) :
    PreservesWithCopies kept (StateT.lift run) :=
  fun _ => preserved.bind fun _ => .pure _

theorem bind {run : StateT Copies Run α} {next : α → StateT Copies Run β}
    (first : PreservesWithCopies kept run) (second : ∀ a, PreservesWithCopies kept (next a)) :
    PreservesWithCopies kept (run >>= next) :=
  fun copies => (first copies).bind fun entry => second entry.1 entry.2

/-- What is known of the world at some point may be used behind it. -/
theorem world_bind {next : World → StateT Copies Run β}
    (second : ∀ w, kept w → PreservesWithCopies kept (next w)) :
    PreservesWithCopies kept (getThe World >>= next) :=
  fun copies => .get_bind fun w holds => second w holds copies

theorem mapM {step : α → StateT Copies Run β} (each : ∀ a, PreservesWithCopies kept (step a))
    (items : List α) : PreservesWithCopies kept (items.mapM step) := by
  induction items with
  | nil => exact .pure []
  | cons item rest ih =>
    rw [List.mapM_cons]
    exact (each item).bind fun _ => ih.bind fun _ => .pure _

end PreservesWithCopies

variable (leaves : World.LeavesFree kept free)

include leaves

/-- Making a deep copy fills new objects only, whatever was copied before. -/
theorem preserves_deepCopyTo (depth : Nat) (v : Value) :
    PreservesWithCopies kept (deepCopyTo depth v) := by
  induction depth generalizing v with
  | zero => exact .pure v
  | succ depth ih =>
    have entries {κ : Type} (entries : Entries κ Value) :
        PreservesWithCopies kept (copyEntries (deepCopyTo depth) entries) := by
      rw [copyEntries]
      exact .mapM (fun entry => (ih entry.2).bind fun _ => .pure _) entries
    cases v with
    | tuple items =>
      refine (PreservesWithCopies.mapM ih items).bind fun copies => ?_
      split
      · exact .pure _
      · exact .lift (Run.preserves_make leaves _)
    | object address =>
      refine .bind (fun _ => .pure _) fun known => ?_
      cases known.lookup address with
      | some copy => exact .pure _
      | none =>
        refine .bind (.lift (.object? address)) fun found => ?_
        cases found with
        | none => exact .pure _
        | some object =>
          refine .world_bind fun w holds => ?_
          refine .bind (.lift (Run.preserves_allocate leaves object)) fun made => ?_
          refine .bind (fun _ => .pure _) fun _ => ?_
          -- Whatever the copy is filled with, it is the new object that is filled.
          have fill (filled : Object) : PreservesWithCopies kept
              (liftM (Run.replace w.heap.next filled) >>= fun _ => Pure.pure made) :=
            .bind (.lift (Run.preserves_fill leaves holds filled)) fun _ => .pure made
          cases object with
          | list items | set items =>
            exact (PreservesWithCopies.mapM ih items).bind fun _ => .bind (.pure _) fill
          | dict items =>
            have both (entry : Value × Value) : PreservesWithCopies kept (do
                return (← deepCopyTo depth entry.1, ← deepCopyTo depth entry.2)) :=
              (ih entry.1).bind fun _ => (ih entry.2).bind fun _ => .pure _
            exact (PreservesWithCopies.mapM both items).bind fun _ => .bind (.pure _) fill
          | record r =>
            exact (entries r.attributes).bind fun _ => (entries r.apart).bind fun _ =>
              .bind (.pure _) fill
    | _ => exact .pure _

theorem preserves_deepCopy (v : Value) : (deepCopy v).Preserves kept :=
  .get_bind fun _ _ => (preserves_deepCopyTo leaves _ v []).bind fun _ => .pure _

variable {β : Type} [Inhabited β] (classes : ClassTable β)

theorem Default.preserves_create (d : Default) : (d.create classes).Preserves kept := by
  cases d with
  | shared v => exact .pure v
  | copied v => exact preserves_deepCopy leaves v
  | keyOrCopied v =>
    refine (classes.preserves_isKey v).bind fun found => .ite (fun _ => .pure v) fun _ => ?_
    exact preserves_deepCopy leaves v

theorem ClassTable.preserves_bindAll (parameters : List Parameter) (arguments : Arguments) :
    (classes.bindAll parameters arguments).Preserves kept := by
  rw [bindAll]
  split
  · refine .mapM (fun binding => ?_) _
    cases binding with
    | value v => exact .pure v
    | default d => exact d.preserves_create leaves classes
    | collected values => exact Run.preserves_make leaves _
    | collectedByName values => exact Run.preserves_allocate leaves _
  · exact .throw _

end Copies

end ObjectMapping
