import ObjectMapping.Package.Runtime
import ObjectMapping.Proofs.Class.Fitting
import ObjectMapping.Proofs.Class.Refusal
import ObjectMapping.Proofs.Class.ClassCode

/-!
# The packages of a program are lawful

The packages with which programs run satisfy every law of packages. So whatever is
shown from laws holds of programs.
-/

namespace ObjectMapping

variable {kept : World → Prop} {free : Nat → Prop}

namespace ClassTable

variable {classes : ClassTable Code} {r : Instance} {address : Nat} {name : String} {v : Value}
  {w : World}

/-! ## Refusing -/

theorem putApart_failsCleanly : (putApart address name v).FailsCleanly w := by
  refine .bind (Run.ends_object? address w) ?_
  split
  · exact .of_ends (Run.ends_replace _ _ w)
  · exact .of_throw _

theorem classOf_leavesBe (v : Value) : (classes.classOf v).LeavesBe w := by
  cases v with
  | object address =>
    rw [classOf, Run.LeavesBe, (Run.ends_object? address w).run_bind]
    split <;> rfl
  | _ => rfl

theorem putMappedList_failsCleanly (found : w.heap.get? address = some (.record r)) :
    (classes.putMappedList address name v).FailsCleanly w := by
  cases v with
  | object source =>
    refine .bind (Run.ends_object? source w) ?_
    cases w.heap.get? source with
    | none => exact .of_throw _
    | some object =>
      cases object with
      | list items =>
        refine .bind_of_leavesBe (.of_forIn (fun item => ?_) items) fun _ => ?_
        · refine (classOf_leavesBe item).bind fun c => ?_
          split <;> rfl
        · -- The instance is still there when the copy of the list is stored in it.
          have still := (World.Keeps.allocated w (.list items)).found found
          exact .of_ends ((Run.ends_allocate (.list items) w).bind (putAttribute_ends name _ still))
      | _ => exact .of_throw _
  | _ => exact .of_throw _

theorem storeModel_failsCleanly {ordinary : Run Unit} (layout : ModelLayout)
    (found : w.heap.get? address = some (.record r)) (prepared : r.isPrepared = true)
    (clean : ordinary.FailsCleanly w) :
    (classes.storeModel layout r address name v ordinary).FailsCleanly w := by
  rw [storeModel]
  split
  · exact .of_throw _
  split
  · split
    · exact putApart_failsCleanly
    · exact clean
  split
  · exact .of_throw _
  dsimp only
  split
  · exact clean
  split
  · rw [prepared]
    exact .of_ends ((putAttribute_ends name v found).bind (Run.ends_pure () _))
  · exact .of_throw _

/-! ## Storing in models -/

/-- A field is put under its name if the model refuses no change of it. -/
theorem storeModel_ends {layout : ModelLayout} (ordinary : Run Unit) (v : Value)
    (found : w.heap.get? address = some (.record r)) (prepared : r.isPrepared = true)
    (ownName : layout.classLevel.contains name = false) (isPublic : name.startsWith "_" = false)
    (unfrozen : layout.isFrozen = false)
    (unfrozenField : layout.fields.any (fun f => f.name == name && f.isFrozen) = false)
    (isField : layout.fields.any (·.name == name) = true)
    (noProperty : (classes.member? r.classId name).bind Member.property? = none) :
    (classes.storeModel layout r address name v ordinary).Ends w () {
      w with
      heap := w.heap.set address (.record {
        r with attributes := Entries.put r.attributes name v }) } := by
  have put := putAttribute_ends name v found
  rw [storeModel]
  simp only [ownName, isPublic, unfrozen, unfrozenField, noProperty, isField, Bool.false_eq_true,
    if_false, if_true, Bool.or_false, Option.isSome_none]
  exact put.bind (by rw [prepared]; exact Run.ends_pure _ _)

/-! ## Copying models -/

/-- A model can be copied unless its constructor has not prepared it. -/
theorem copyModel_succeeds_iff (found : w.heap.get? address = some (.record r)) :
    (classes.copyModel address name v).Succeeds w ↔
      (classes.isModel r.classId && !r.isPrepared) = false := by
  have copied := classes.shallowCopy_run found
  rw [copyModel]
  cases unready : classes.isModel r.classId && !r.isPrepared with
  | true =>
    rw [unready, if_pos rfl] at copied
    refine iff_of_false (fun succeeds => ?_) (by simp)
    exact Run.not_succeeds_of_error copied succeeds.of_bind
  | false =>
    rw [unready, if_neg Bool.false_ne_true] at copied
    have put := putAttribute_ends (w := { w with heap := w.heap.allocate (.record r) })
      name v (Heap.get?_allocate_next w.heap (.record r))
    refine iff_of_true ((Run.Ends.succeeds_bind_iff copied _).mpr ?_) rfl
    exact (put.bind (Run.ends_pure (Value.object w.heap.next) _)).succeeds

/-- The copy is the next object. -/
theorem copyModel_ends (found : w.heap.get? address = some (.record r))
    (succeeds : (classes.copyModel address name v).Succeeds w) :
    (classes.copyModel address name v).Ends w (.object w.heap.next) {
      w with
      heap := (w.heap.allocate (.record r)).set w.heap.next
        (.record { r with attributes := Entries.put r.attributes name v }) } := by
  have copied := classes.shallowCopy_run found
  rw [(copyModel_succeeds_iff found).mp succeeds, if_neg Bool.false_ne_true] at copied
  have put := putAttribute_ends (w := { w with heap := w.heap.allocate (.record r) })
    name v (Heap.get?_allocate_next w.heap (.record r))
  exact Run.Ends.bind copied (put.bind (Run.ends_pure _ _))

/-! ## Filling models -/

/-- A model that is filled has a value for each of its fields. -/
theorem isGiven_of_modelAttributes_succeeds {fit : TypeExpr → Value → Run Fit}
    {named : Entries String Value} {fields : List ModelField}
    (succeeds : (classes.modelAttributes fit named fields).Succeeds w) :
    ∀ f ∈ fields, f.default? = none → Entries.contains named f.name = true := by
  induction fields generalizing w with
  | nil => simp
  | cons f rest ih =>
    obtain ⟨attributes, w₂, ended⟩ := succeeds
    rw [modelAttributes, List.mapM_cons] at ended
    obtain ⟨made, w₁, first, ended⟩ := ended.exists_of_bind
    obtain ⟨others, w₃, later, -⟩ := ended.exists_of_bind
    obtain ⟨v, w₄, value, -⟩ := first.exists_of_bind
    refine List.forall_mem_cons.mpr ⟨fun noDefault => ?_, ih later.succeeds⟩
    cases given : Entries.get? named f.name with
    | some v => simp [Entries.contains, given]
    | none =>
      rw [given, noDefault] at value
      cases value

/-- The parameters for fields require what the fields require. -/
theorem requiredNames_parameters (layout : ModelLayout) :
    requiredNames layout.parameters = layout.requiredNames := by
  have same : (fun f : ModelField => Parameter.isRequired
      { name := f.name, kind := .nameOnly, default? := f.default? }) =
        fun f => f.default?.isNone :=
    funext fun f => Bool.and_true _
  rw [requiredNames, ModelLayout.requiredNames, ModelLayout.parameters, List.filter_map,
    List.map_map]
  exact congrArg (fun test => (layout.fields.filter test).map (·.name)) same

/-- The layout by which a model is filled is its own, up to the types of the fields. -/
theorem exists_of_usableLayout {isInner : Bool} {c : ClassId} {usable : ModelLayout} {w' : World}
    (ended : (classes.usableLayout isInner c).Ends w usable w') :
    ∃ layout, classes.modelLayout? c = some layout ∧
      usable.requiredNames = layout.requiredNames := by
  rw [usableLayout] at ended
  cases isLayout : classes.modelLayout? c with
  | none =>
    rw [isLayout] at ended
    cases ended
  | some layout =>
    refine ⟨layout, rfl, ?_⟩
    rw [isLayout] at ended
    dsimp only at ended
    split at ended
    · cases ended
      rfl
    · split at ended
      · cases ended
      · split at ended <;> cases ended <;> exact layout.requiredNames_completed

/-! ## Keeping conditions -/

theorem preserves_readModelFact (leaves : World.LeavesFree kept free) (r : Instance)
    (name : String) : (readModelFact r name).Preserves kept :=
  .ite (fun _ => .throw _) fun _ => .ite (fun _ => .pure _) fun _ =>
    Run.preserves_allocate leaves _

/-- Reading a mapped list may store an empty one, apart from the attributes. -/
theorem readMappedList_keeps (concerns : World.ConcernsAttributes kept free) (name : String)
    (found : w.heap.get? address = some (.record r)) (holds : kept w) :
    kept ((readMappedList address r name).run.run w).2 := by
  rw [readMappedList]
  cases (Entries.get? r.attributes name).or (Entries.get? r.apart name) with
  | some v => exact holds
  | none =>
    have still := (World.Keeps.allocated w (.list [])).found found
    exact concerns.storedApart _ address r _ still (concerns.allocated w (.list []) holds)

theorem preserves_putApart (leaves : World.LeavesFree kept free) (isFree : free address)
    (name : String) (v : Value) : (putApart address name v).Preserves kept := by
  intro w holds
  rw [putApart, (Run.ends_object? address w).run_bind]
  split
  · next r found => exact leaves.rewritten w address r _ isFree found holds
  · exact holds

theorem preserves_putMappedList (leaves : World.LeavesFree kept free) (isFree : free address)
    (classes : ClassTable Code) (name : String) (v : Value) :
    (classes.putMappedList address name v).Preserves kept := by
  cases v with
  | object source =>
    refine .bind (.object? source) fun found => ?_
    split
    · refine .bind (.forIn (fun item => ?_) _) fun _ => ?_
      · exact (classes.preserves_classOf item).bind fun _ =>
          .ite (fun _ => .bind (.throw _) fun _ => .pure _) fun _ => .pure _
      · exact (Run.preserves_allocate leaves _).bind fun made =>
          preserves_putAttribute leaves isFree name made
    · exact .throw _
  | _ => exact .throw _

theorem preserves_storeModel (leaves : World.LeavesFree kept free) (isFree : free address)
    (classes : ClassTable Code) (layout : ModelLayout) (r : Instance) (name : String) (v : Value)
    {ordinary : Run Unit} (store : ordinary.Preserves kept) :
    (classes.storeModel layout r address name v ordinary).Preserves kept := by
  have put := preserves_putAttribute leaves isFree name v
  refine .ite (fun _ => .throw _) fun _ => .ite (fun _ => ?_) fun _ => ?_
  · exact .ite (fun _ => preserves_putApart leaves isFree name v) fun _ => store
  · refine .ite (fun _ => .throw _) fun _ => .ite (fun _ => store) fun _ => ?_
    refine .ite (fun _ => ?_) fun _ => .throw _
    exact put.bind fun _ => .ite (fun _ => .throw _) fun _ => .pure _

theorem preserves_fillMapped (classes : ClassTable Code) (c : ClassId)
    {store : String → Value → Run Unit} (stores : ∀ name v, (store name v).Preserves kept)
    (given : Entries String Value) : (classes.fillMapped c store given).Preserves kept := by
  induction given with
  | nil => exact .pure _
  | cons entry rest ih =>
    exact .ite (fun _ => .throw _) fun _ => (stores entry.1 entry.2).bind fun _ => ih

theorem preserves_fillFields
    (leaves : World.LeavesFree kept free) (classes : ClassTable Code)
    {store : String → Value → Run Unit} (stores : ∀ name v, (store name v).Preserves kept)
    (given : Entries String Value) (fields : List SlottedField) :
    (SlottedLayout.fillFields classes store given fields).Preserves kept := by
  induction fields with
  | nil => exact .pure _
  | cons f rest ih =>
    rw [SlottedLayout.fillFields]
    split
    · exact (stores f.name _).bind fun _ => ih
    · next d _ _ =>
      exact (d.preserves_create leaves classes).bind fun v =>
        (stores f.name v).bind fun _ => ih
    · exact ih

section Models

variable (concerns : World.ConcernsAttributes kept free) (classes : ClassTable Code)

include concerns

theorem preserves_usableLayout (isInner : Bool) (c : ClassId) :
    (classes.usableLayout isInner c).Preserves kept := by
  have change : (Run.change c .completed).Preserves kept :=
    fun w holds => concerns.changed w _ holds
  unfold usableLayout
  split
  · refine .ite (fun _ => .pure _) fun _ => .ite (fun _ => .throw _) fun _ => ?_
    exact .ite (fun _ => change.bind fun _ => .pure _) fun _ => .pure _
  · exact .throw _

theorem preserves_fieldValue {fit : TypeExpr → Value → Run Fit}
    (fits : ∀ t v, (fit t v).Preserves kept) (type : TypeExpr) (given? : Option Value)
    (default? : Option Default) :
    (classes.fieldValue fit type given? default?).Preserves kept := by
  unfold fieldValue
  split
  · exact (fits _ _).bind fun _ => .pure _
  · exact Default.preserves_create concerns.toLeavesFree classes _
  · exact preserves_refused

variable {make : Maker} (makes : ∀ c given, (make c given).Preserves kept)

include makes

/-- A model is filled where it has been made since the condition held. -/
theorem preserves_fillModel (isInner : Bool) (c : ClassId) {base : World} (held : kept base)
    (arguments : Arguments) :
    (classes.fillModel make isInner c base.heap.next arguments).Preserves kept := by
  have fits := (classes.preserves_fit concerns.toLeavesFree makes).1
  refine .ite (fun _ => .throw _) fun _ => ?_
  refine (preserves_usableLayout concerns classes isInner c).bind fun layout => ?_
  refine .bind (.mapM (fun f => ?_) _) fun fields => .bind (.mapM (fun entry => ?_) _)
    fun concealed => ?_
  · exact (preserves_fieldValue concerns classes fits _ _ _).bind fun _ => .pure _
  · exact (entry.2.preserves_create concerns.toLeavesFree classes).bind fun _ => .pure _
  · exact fun w holds => concerns.filled base w _ held holds

theorem preserves_recordFrom (layout : RecordLayout) (c : ClassId) (given : Entries String Value)
    {finish : Value → Run Unit}
    (finishes : ∀ address, free address → (finish (.object address)).Preserves kept) :
    (classes.recordFrom make layout c given finish).Preserves kept := by
  have fits := (classes.preserves_fit concerns.toLeavesFree makes).1
  refine .bind (.mapM (fun f => ?_) _) fun stored => ?_
  · exact (preserves_fieldValue concerns classes fits _ _ _).bind fun _ => .pure _
  · refine Run.preserves_allocate_bind concerns.toLeavesFree _ fun address isFree => ?_
    exact (finishes address isFree).bind fun _ => .pure _

end Models

/-- A copy of an object that is there is a new object, in which the value is put. -/
theorem copyModel_run (classes : ClassTable Code) (address : Nat) (name : String) (v : Value)
    (w : World) :
    (∃ fault, (classes.copyModel address name v).run.run w = (.error fault, w)) ∨
      ∃ object, (classes.copyModel address name v).run.run w =
        (do
          let copy ← Run.allocate object
          if let .object place := copy then putAttribute place name v
          return copy : Run Value).run.run w := by
  have looked := Run.ends_object? address w
  simp only [copyModel, shallowCopy, bind_assoc]
  rw [looked.run_bind]
  cases found : w.heap.get? address with
  | none =>
    left
    refine ⟨.notWritable name, ?_⟩
    simp only [pure_bind, putAttribute, bind_assoc]
    rw [looked.run_bind, found]
    rfl
  | some object =>
    cases object with
    | record r =>
      dsimp only
      split
      · exact .inl ⟨_, rfl⟩
      · exact .inr ⟨_, rfl⟩
    | _ => exact .inr ⟨_, rfl⟩

section Copies

variable (leaves : World.LeavesFree kept free)

include leaves

theorem preserves_copyModel (classes : ClassTable Code) (address : Nat) (name : String)
    (v : Value) : (classes.copyModel address name v).Preserves kept := by
  intro w holds
  rcases classes.copyModel_run address name v w with ⟨fault, failed⟩ | ⟨object, copied⟩
  · rw [failed]
    exact holds
  · rw [copied]
    refine Run.preserves_allocate_bind leaves object (fun place isFree => ?_) w holds
    exact (preserves_putAttribute leaves isFree name v).bind fun _ => .pure _

theorem copyModel_yields (classes : ClassTable Code) (address : Nat) (name : String) (v : Value) :
    (classes.copyModel address name v).YieldsFree kept free := by
  intro w made w' holds ended
  rcases classes.copyModel_run address name v w with ⟨fault, failed⟩ | ⟨object, copied⟩
  · rw [Run.Ends, failed] at ended
    cases ended
  · rw [Run.Ends, copied] at ended
    exact Run.yields_allocate_bind leaves object (fun place isFree => .bind_pure isFree)
      w made w' holds ended

end Copies

end ClassTable

namespace RuntimePackages

open ClassTable

/-! ## The laws -/

theorem mapsPlainly : Packages.MapsPlainly where
  readColumn _ _ := rfl
  storeColumn _ _ _ := rfl

theorem refusesCleanly : Packages.RefusesCleanly where
  column _ := putAttribute_failsCleanly
  collection found := putMappedList_failsCleanly found
  model found prepared clean := storeModel_failsCleanly _ found prepared clean
  frozen := .of_throw _

theorem copiesModels : Packages.CopiesModels where
  copies := by
    intro classes address r name v made w w' found ended
    obtain ⟨rfl, rfl⟩ := (copyModel_ends found ended.succeeds).unique ended
    refine ⟨w.heap.next, rfl, Nat.le_refl _, ?_, Heap.get?_set_self _ (by simp)⟩
    exact (World.Keeps.allocated w (.record r)).replaced _ (.inr (Nat.le_refl _))
  prepared := by
    intro classes address r name v w found prepared
    exact (copyModel_succeeds_iff found).mpr (by simp [prepared])
  alike := by
    intro classes address address' r r' name v v' w w' found found' sameClass samePreparation
      succeeds
    refine (copyModel_succeeds_iff found').mpr ?_
    rw [← sameClass, ← samePreparation]
    exact (copyModel_succeeds_iff found).mp succeeds

theorem requiresFields : Packages.RequiresFields where
  given := by
    intro classes make isInner c address arguments w succeeds
    have filled : (classes.fillModel make isInner c address arguments).Succeeds w := succeeds
    rw [fillModel] at filled
    cases positional : arguments.positional with
    | cons v rest =>
      rw [positional] at filled
      exact absurd filled (Run.not_succeeds_throw _ w)
    | nil =>
      rw [positional] at filled
      obtain ⟨_, _, ended⟩ := filled
      obtain ⟨usable, w₁, isUsable, ended⟩ := ended.exists_of_bind
      obtain ⟨fields, w₂, isMade, -⟩ := ended.exists_of_bind
      obtain ⟨layout, isLayout, same⟩ := exists_of_usableLayout isUsable
      refine ⟨layout, isLayout, positional, ?_⟩
      rw [← same]
      intro name mem
      obtain ⟨f, selected, rfl⟩ := List.mem_map.mp mem
      obtain ⟨isField, noDefault⟩ := List.mem_filter.mp selected
      exact isGiven_of_modelAttributes_succeeds isMade.succeeds f isField
        (Option.isNone_iff_eq_none.mp noDefault)

/-- Fields are stored in a model if their names are public, and none belongs to the class
itself. -/
theorem setsFields {classes : ClassTable Code} {c : ClassId}
    (ownNames : ∀ layout, classes.modelLayout? c = some layout → ∀ f ∈ layout.fields,
      f.name.startsWith "_" = false ∧ layout.classLevel.contains f.name = false) :
    Packages.SetsFields classes c := by
  intro layout f r address v ordinary w found sameClass prepared isLayout unfrozen isField
    unfrozenField noProperty
  subst sameClass
  obtain ⟨isPublic, ownName⟩ := ownNames layout isLayout f isField
  refine (storeModel_ends ordinary v found prepared ownName isPublic unfrozen ?_ ?_ ?_).succeeds
  · refine List.any_eq_false.mpr fun g isField' => ?_
    by_cases same : g.name = f.name
    · simp [unfrozenField g isField' same]
    · simp [same]
  · exact List.any_eq_true.mpr ⟨f, isField, beq_self_eq_true _⟩
  · cases member : classes.member? r.classId f.name with
    | none => rfl
    | some m =>
      cases m with
      | property p => exact absurd member (noProperty p)
      | _ => rfl

/-- A complete model shows its own fields, unless a constructor is written for it. -/
theorem showsFields {classes : ClassTable Code} {c : ClassId}
    (isFirst : (classes.info c).lineage.head? = some c) (named : (classes.info c).name.id = c)
    (noneWritten : classes.ownParameters? c = none) : Packages.ShowsFields classes c := by
  intro layout isLayout isComplete
  obtain ⟨rest, isLine⟩ := List.head?_eq_some_iff.mp isFirst
  have complete : classes.completeModel? c = some (c, layout) := by
    have own : (classes.info c).model? = some layout := isLayout
    rw [completeModel?, line, isLine, List.map_cons, List.findSome?_cons, own]
    simp [isComplete, named]
  have shown : Packages.modelParameters classes c = layout.parameters := by
    show classes.modelParameters c = layout.parameters
    rw [ClassTable.modelParameters, complete]
    dsimp only
    rw [noneWritten]
  rw [shown]
  exact requiredNames_parameters layout

theorem keep (concerns : World.ConcernsAttributes kept free) : Packages.Keep kept free where
  readFact := preserves_readModelFact concerns.toLeavesFree
  readColumn _ _ := .pure _
  readCollection name _ found holds := readMappedList_keeps concerns name found holds
  readAgain _ read := .ite (fun _ => read) fun _ => .throw _
  storeColumn name v isFree := preserves_putAttribute concerns.toLeavesFree isFree name v
  storeCollection classes _ name v isFree :=
    preserves_putMappedList concerns.toLeavesFree isFree classes name v
  storeModel classes layout r _ name v _ isFree store :=
    preserves_storeModel concerns.toLeavesFree isFree classes layout r name v store
  storeFrozen _ _ _ _ _ := .throw _
  copyModel := preserves_copyModel concerns.toLeavesFree
  copyModel_yields := copyModel_yields concerns.toLeavesFree
  fillModel classes _ isInner c _ arguments makes held :=
    preserves_fillModel concerns classes makes isInner c held arguments
  fillSlotted classes _ _ _ stores := preserves_fillFields concerns.toLeavesFree classes stores _ _
  fillEntity classes c given _ stores := preserves_fillMapped classes c stores given
  makeRecord classes _ layout c given _ makes finishes :=
    preserves_recordFrom concerns classes makes layout c given finishes

end RuntimePackages

end ObjectMapping
