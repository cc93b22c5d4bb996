import ObjectMapping.Class.Instantiation
import ObjectMapping.Proofs.Class.ClassCode
import ObjectMapping.Proofs.Class.Fitting

/-!
# Calling classes

Calling a class makes a new instance and runs code on that instance. So it keeps
whatever the code of classes keeps (`ClassTable.CodeKeeps.instantiate`), and in a
changed copy it is the copy that changes.
-/

namespace ObjectMapping

variable {kept : World → Prop} {free : Nat → Prop}

namespace ClassTable

/-- Standard classes are no records. -/
theorem recordLayout?_standard {β : Type} [Inhabited β] (classes : ClassTable β)
    (c : StandardClass) : classes.recordLayout? (.standard c) = none := by
  rw [recordLayout?, List.findSome?_eq_none_iff]
  intro ancestor mem
  obtain ⟨c', inLine, rfl⟩ := List.mem_map.mp mem
  obtain ⟨s, -, rfl⟩ := List.mem_map.mp inLine
  rfl

/-! ## Making instances -/

/-- Where instances are filled by code, the code keeps a condition when it is run on an
instance at a free address. -/
def FillingKeeps (kept : World → Prop) (free : Nat → Prop)
    (filling? : Option (ClassInfo Code × Initializer Code)) : Prop :=
  ∀ ancestor parameters body, filling? = some (ancestor, .code parameters body) →
    ∀ address vs, free address → (body (.object address :: vs)).Preserves kept

variable [Packages] {classes : ClassTable Code}

theorem CodeKeeps.declaring (keeps : classes.CodeKeeps kept free) {c : ClassInfo Code}
    (own : c.CodeKeeps kept free) {initializer : Initializer Code}
    (declared : c.initializer? = some initializer) :
    FillingKeeps kept free (classes.declaring? c initializer) := by
  intro ancestor parameters body found
  cases initializer with
  | like ancestor? =>
    cases ancestor? with
    | none => cases found
    | some inherited =>
      obtain ⟨initializer, declared', equal⟩ := Option.map_eq_some_iff.mp found
      cases equal
      exact (keeps.code inherited).constructors parameters body declared'
  | code =>
    cases found
    exact own.constructors parameters body declared
  | _ => cases found

theorem CodeKeeps.initializer (keeps : classes.CodeKeeps kept free) (c : ClassId) :
    FillingKeeps kept free (classes.initializer? c) := by
  intro ancestor parameters body found
  obtain ⟨⟨declaring, initializer⟩, first, declared⟩ := Option.bind_eq_some_iff.mp found
  obtain ⟨candidate, mem, isFirst⟩ := List.exists_of_findSome?_eq_some first
  obtain ⟨c', -, rfl⟩ := List.mem_map.mp mem
  obtain ⟨initializer', own, equal⟩ := Option.map_eq_some_iff.mp isFirst
  cases equal
  exact keeps.declaring (keeps.code c') own ancestor parameters body declared

theorem CodeKeeps.actualInitializer (keeps : classes.CodeKeeps kept free) (c : ClassId) :
    FillingKeeps kept free (classes.actualInitializer? c) := by
  intro ancestor parameters body found
  obtain ⟨⟨declaring, initializer⟩, first, declared⟩ := Option.bind_eq_some_iff.mp found
  obtain ⟨candidate, mem, isFirst⟩ := List.exists_of_findSome?_eq_some first
  obtain ⟨c', -, rfl⟩ := List.mem_map.mp mem
  have own : (classes.info c').initializer? = some initializer ∧ classes.info c' = declaring := by
    split at isFirst
    · cases isFirst
    · cases isFirst
    · next own => cases isFirst; exact ⟨own, rfl⟩
  obtain ⟨own, rfl⟩ := own
  exact keeps.declaring (keeps.code c') own ancestor parameters body declared

/-- The instance that calling a declared class makes is at a free address. -/
theorem instantiate_yields (leaves : World.LeavesFree kept free) (classes : ClassTable Code)
    (c : ClassId) (arguments : Arguments) :
    (classes.instantiate c arguments).YieldsFree kept free := by
  refine (Run.Preserves.get_bind fun _ _ => .pure _).bind_yields fun now => ?_
  refine .get_bind fun w => ?_
  unfold instantiateWith
  split
  · exact .throw _
  · refine .get_bind fun w => Run.yields_allocate_bind leaves _ fun address isFree => ?_
    rw [← bind_assoc]
    exact .bind_pure isFree

section Making

variable (keeps : classes.CodeKeeps kept free)

include keeps

theorem CodeKeeps.runAfterInit (c : ClassId) {address : Nat} (isFree : free address) :
    (classes.runAfterInit c (.object address)).Preserves kept := by
  rw [ClassTable.runAfterInit]
  split
  · next code found =>
    obtain ⟨candidate, mem, own⟩ := List.exists_of_findSome?_eq_some found
    obtain ⟨c', -, rfl⟩ := List.mem_map.mp mem
    exact ((keeps.code c').afterInit code own address isFree).discard
  · exact .pure _

variable (concerns : World.ConcernsAttributes kept free)

include concerns

theorem CodeKeeps.fillingOf_bind {α : Type} (c : ClassId)
    {next : Option (ClassInfo Code × Initializer Code) → Run α}
    (second : ∀ filling?, FillingKeeps kept free filling? → (next filling?).Preserves kept) :
    Run.Preserves kept (classes.fillingOf c >>= next) := by
  intro w holds
  rw [fillingOf]
  split
  · exact second _ (keeps.actualInitializer c) _ (concerns.changed w _ holds)
  · exact second _ (keeps.initializer c) w holds

section Filling

variable {address : Nat} (isFree : free address)

include isFree

theorem CodeKeeps.fillRecord (layout : RecordLayout) (given : Entries String Value)
    (fields : List RecordField) :
    (classes.fillRecord layout (.object address) given fields).Preserves kept := by
  induction fields with
  | nil => exact .pure _
  | cons f rest ih =>
    have store (v : Value) : Run.Preserves kept (if layout.isFrozen then
        classes.storeUnguarded (.object address) f.name v
        else classes.writeAttribute (.object address) f.name v) :=
      .ite (fun _ => keeps.storeUnguarded concerns.toLeavesFree isFree f.name v) fun _ =>
        keeps.writeAttribute concerns.toLeavesFree isFree f.name v
    rw [ClassTable.fillRecord]
    dsimp only
    refine .ite (fun _ => .ite (fun _ => (store _).bind fun _ => ih) fun _ => ?_) fun _ => ih
    split
    · next d _ =>
      exact (d.preserves_create concerns.toLeavesFree classes).bind fun v =>
        (store v).bind fun _ => ih
    · exact ih

end Filling

variable {make : Maker} (makes : ∀ c given, (make c given).Preserves kept)

include makes

/-- Filling keeps what code keeps, where the instance has been made since the condition
held. -/
theorem CodeKeeps.fill (isInner : Bool) (c : ClassId) {base : World} (held : kept base)
    (arguments : Arguments) {filling? : Option (ClassInfo Code × Initializer Code)}
    (filling : FillingKeeps kept free filling?) :
    (classes.fill make isInner c base.heap.next arguments filling?).Preserves kept := by
  have isFree : free base.heap.next := concerns.next base held
  have bindAll (parameters : List Parameter) :=
    classes.preserves_bindAll concerns.toLeavesFree parameters arguments
  unfold ClassTable.fill
  split
  · exact .ite (fun _ => .pure _) fun _ => .throw _
  · exact .ite (fun _ => .pure _) fun _ => .throw _
  · next parameters body =>
    exact (bindAll parameters).bind fun vs =>
      (filling _ parameters body rfl _ vs isFree).discard
  · split
    · refine (bindAll _).bind fun vs => ?_
      refine (keeps.fillRecord concerns isFree _ _ _).bind fun _ => ?_
      exact .ite (fun _ => keeps.runAfterInit c isFree) fun _ => .pure _
    · exact .throw _
  · split
    · refine (bindAll _).bind fun vs => keeps.packages.fillSlotted classes _ vs fun name v => ?_
      exact keeps.storeUnguarded concerns.toLeavesFree isFree name v
    · exact .throw _
  · exact keeps.packages.fillModel classes isInner c arguments makes held
  · refine .ite (fun _ => .throw _) fun _ => ?_
    exact keeps.packages.fillEntity classes c _ fun name v =>
      keeps.writeAttribute concerns.toLeavesFree isFree name v
  · exact .throw _

theorem CodeKeeps.instantiateWith (isInner : Bool) (c : ClassId) (arguments : Arguments) :
    (classes.instantiateWith make isInner c arguments).Preserves kept := by
  refine .ite (fun _ => .throw _) fun _ => .get_bind fun w holds => ?_
  refine (Run.preserves_allocate concerns.toLeavesFree _).bind fun made => ?_
  refine keeps.fillingOf_bind concerns c fun filling? filling => ?_
  exact (keeps.fill concerns makes isInner c holds arguments filling).bind fun _ => .pure _

omit makes in
theorem CodeKeeps.madeFrom (depth : Nat) (c : ClassId) (given : Entries String Value) :
    (classes.madeFrom depth c given).Preserves kept := by
  induction depth generalizing c given with
  | zero => exact .throw _
  | succ depth ih =>
    rw [ClassTable.madeFrom]
    split
    · exact keeps.packages.makeRecord classes _ c given ih fun address isFree =>
        keeps.runAfterInit c isFree
    · exact keeps.instantiateWith concerns ih true c _

omit makes in
/-- Calling a declared class keeps what the code of classes keeps. -/
theorem CodeKeeps.instantiate (c : ClassId) (arguments : Arguments) :
    (classes.instantiate c arguments).Preserves kept := by
  refine preserves_now_bind _ fun changes => .get_bind fun w _ => ?_
  have later := keeps.changed changes
  exact later.instantiateWith concerns (later.madeFrom concerns _) false c arguments

/-! ## Changed copies -/

omit makes in
theorem CodeKeeps.keptArguments (earlier : Value) (name : String) (fields : List RecordField) :
    (classes.keptArguments earlier name fields).Preserves kept := by
  induction fields with
  | nil => exact .pure _
  | cons f rest ih =>
    have read := keeps.readAttribute concerns earlier f.name
    have one := read.bind fun v => ih.bind fun others =>
      Run.Preserves.pure ((f.name, v) :: others)
    rw [ClassTable.keptArguments]
    refine .ite (fun _ => ih) fun _ => .ite (fun _ => ?_) fun _ => ?_
    · exact .ite (fun _ => .bind (.throw _) fun _ => ih) fun _ => ih
    · exact .ite (fun _ => ih) fun _ => .ite (fun _ => .bind (.throw _) fun _ => one) fun _ => one

omit makes in
theorem CodeKeeps.replaceField (earlier : Value) (name : String) (v : Value) :
    (classes.replaceField earlier name v).Preserves kept := by
  refine (classes.preserves_classOf earlier).bind fun c => ?_
  split
  · next layout found =>
    refine (keeps.keptArguments concerns earlier name layout.fields).bind fun others => ?_
    cases c with
    | declared index => exact keeps.instantiate concerns (.declared index) _
    | standard c => rw [recordLayout?_standard] at found; cases found
  · exact .throw _

omit makes in
/-- A record that replaces another one is at a free address. -/
theorem CodeKeeps.replaceField_yields (earlier : Value) (name : String) (v : Value) :
    (classes.replaceField earlier name v).YieldsFree kept free := by
  refine (classes.preserves_classOf earlier).bind_yields fun c => ?_
  split
  · next layout found =>
    refine (keeps.keptArguments concerns earlier name layout.fields).bind_yields fun others => ?_
    cases c with
    | declared index => exact instantiate_yields concerns.toLeavesFree classes (.declared index) _
    | standard c => rw [recordLayout?_standard] at found; cases found
  · exact .throw _

end Making

/-- A changed copy is made of a model, by its package. -/
theorem exists_of_copyWithUpdate (classes : ClassTable Code) {earlier made : Value}
    {name : String} {v : Value} {w w' : World}
    (ended : (classes.copyWithUpdate earlier name v).Ends w made w') :
    ∃ address r, earlier = .object address ∧ w.heap.get? address = some (.record r) ∧
      (Packages.copyModel classes address name v).Ends w made w' := by
  rw [copyWithUpdate, Run.Ends, (classes.classOf_eq earlier w).run_bind] at ended
  rcases classes.exists_record_or_standard w.heap earlier with
    ⟨address, r, rfl, found, -⟩ | ⟨c, isStandard⟩
  · refine ⟨address, r, rfl, found, ?_⟩
    cases layout : classes.modelLayout? (classes.classIn w.heap (.object address)) with
    | none =>
      rw [layout] at ended
      cases ended
    | some layout' =>
      rw [layout] at ended
      exact ended
  · have none : classes.modelLayout? (classes.classIn w.heap earlier) = none := by
      rw [isStandard]
      rfl
    rw [none] at ended
    split at ended
    · next isSome => cases isSome
    · cases ended
    · cases ended

/-- A changed copy keeps what packages keep. -/
theorem preserves_copyWithUpdate (packages : Packages.Keep kept free)
    (classes : ClassTable Code) (earlier : Value) (name : String) (v : Value) :
    (classes.copyWithUpdate earlier name v).Preserves kept := by
  refine (classes.preserves_classOf earlier).bind fun c => ?_
  split
  · exact packages.copyModel classes _ name v
  · exact .throw _
  · exact .throw _

theorem copyWithUpdate_yields (packages : Packages.Keep kept free)
    (classes : ClassTable Code) (earlier : Value) (name : String) (v : Value) :
    (classes.copyWithUpdate earlier name v).YieldsFree kept free := by
  refine (classes.preserves_classOf earlier).bind_yields fun c => ?_
  split
  · exact packages.copyModel_yields classes _ name v
  · exact .throw _
  · exact .throw _

end ClassTable

end ObjectMapping
