import ObjectMapping.Proofs.Class.Remaking
import ObjectMapping.Proofs.Class.Taking

/-!
# When instances can be made again

A changed copy can be made of a model if its package makes a copy. A record is
called again with all that it shows; so everything that it keeps must be readable, and
every field that the constructor sets must take a value (`ClassTable.CanBeRemade`). Replacing
a value succeeds exactly then (`replaceField_succeeds_iff`), provided that the code which
is written for the class does not raise.
-/

namespace ObjectMapping

/-- There is an instance of the class at the address. -/
def World.HasInstance (w : World) (address : Nat) (c : ClassId) : Prop :=
  ∃ r, w.heap.get? address = some (.record r) ∧ r.classId = c

theorem World.HasInstance.later {w w' : World} {address : Nat} {c : ClassId}
    (there : w.HasInstance address c) (kept : w.Keeps [] w') : w'.HasInstance address c := by
  obtain ⟨r, found, isInstance⟩ := there
  exact ⟨r, kept.found found, isInstance⟩

namespace ClassTable

variable [Packages] {classes table : ClassTable Code} {base w w' : World} {c : ClassId}
  {r : Instance} {own : Nat} {name : String} {v : Value} {layout : RecordLayout}

/-- A changed copy can be made of every instance of a model of which its package makes a
copy. -/
theorem copyWithUpdate_succeeds_iff (found : w.heap.get? own = some (.record r)) :
    (classes.copyWithUpdate (.object own) name v).Succeeds w ↔
      (classes.modelLayout? r.classId).isSome = true ∧
        (Packages.copyModel classes own name v).Succeeds w := by
  rw [copyWithUpdate, (classes.classOf_ends found).succeeds_bind_iff]
  cases classes.modelLayout? r.classId with
  | none => simpa using Run.not_succeeds_throw _ w
  | some layout => simp

/-- The copy is a new object, in which the one value is changed. -/
theorem copyWithUpdate_ends_new (lawful : Packages.CopiesModels)
    (found : w.heap.get? own = some (.record r)) {made : Value}
    (ended : (classes.copyWithUpdate (.object own) name v).Ends w made w') :
    ∃ place, made = .object place ∧ w.heap.next ≤ place ∧ w.Keeps [] w' ∧
      w'.heap.get? place =
        some (.record { r with attributes := Entries.put r.attributes name v }) := by
  obtain ⟨address, r', same, found', copied⟩ := classes.exists_of_copyWithUpdate ended
  cases same
  cases found.symm.trans found'
  exact lawful.copies found copied

/-! ## Code of the class -/

/-- The code that is written for a class of records does not raise on instances of the class.
Getters change nothing that there was, and setters nothing but the instance; a constructor
takes the values of all parameters by name. -/
structure RunsThrough (classes : ClassTable Code) (c : ClassId) (layout : RecordLayout) :
    Prop where
  getters {name : String} {p : Property Code} {getter : Getter Code} :
    classes.member? c name = some (.property p) → p.getter? = some getter →
    ∀ {w : World} {own : Nat}, w.HasInstance own c →
      ∃ v w', (getter.body [.object own]).Ends w v w' ∧ w.Keeps [] w'
  setters {name : String} {p : Property Code} {setter : Code} :
    classes.member? c name = some (.property p) → p.setter? = some setter →
    ∀ {w : World} {own : Nat} (v : Value), w.HasInstance own c →
      ∃ u w', (setter [.object own, v]).Ends w u w' ∧ w.Keeps [own] w' ∧ w'.HasInstance own c
  constructors {ancestor : ClassInfo Code} {parameters : List Parameter} {body : Code} :
    classes.initializer? c = some (ancestor, .code parameters body) →
    ∀ {w : World} {own : Nat} {named : Entries String Value}, w.HasInstance own c →
      layout.IsGivenAll named →
      (do discard (body (.object own :: (← classes.bindAll parameters { named := named }))) :
        Run Unit).Succeeds w
  afterInit {w : World} {own : Nat} : w.HasInstance own c →
    (classes.runAfterInit c (.object own)).Succeeds w

/-- Under the name, members of the class are what records have: properties, and what instances
store a value in front of, but nothing that they have without declaring it. -/
structure HasRecordMember (classes : ClassTable Code) (c : ClassId) (name : String) : Prop where
  uncommon : name ∉ commonAttributes
  ofRecord : ∀ owner m, classes.owned? c name = some (owner, m) → owner ≠ .standard .modelBase
  passive : ∀ m, classes.member? c name = some m → (∀ p, m ≠ .property p) → m.IsPassive

/-! ## Reading what is kept -/

/-- The instance shows something under the name, or a getter does. -/
def Shows (classes : ClassTable Code) (r : Instance) (name : String) : Prop :=
  match classes.member? r.classId name with
  | some (.property p) => p.getter?.isSome = true
  | _ => ∃ v, classes.shown r name = .ok v

theorem HasRecordMember.readsPlainly (ordinary : classes.HasRecordMember c name)
    (noProperty : ∀ p, classes.member? c name ≠ some (.property p)) :
    classes.ReadsPlainly c name where
  uncommon := ordinary.uncommon
  passive owner m owned := by
    have member : classes.member? c name = some m := by rw [member?, owned]; rfl
    refine ⟨ordinary.ofRecord owner m owned, ordinary.passive m member fun p isProperty => ?_⟩
    exact noProperty p (isProperty ▸ member)

omit [Packages] in
theorem shows_iff_of_noProperty
    (noProperty : ∀ p, classes.member? r.classId name ≠ some (.property p)) :
    classes.Shows r name ↔ ∃ v, classes.shown r name = .ok v := by
  rw [Shows]
  cases member : classes.member? r.classId name with
  | none => rfl
  | some m =>
    cases m with
    | property p => exact absurd member (noProperty p)
    | _ => rfl

section Reading

variable (found : w.heap.get? own = some (.record r))
  (ordinary : (classes.changed w.changes).HasRecordMember r.classId name)

include found ordinary

/-- What a property shows is what its getter ends with. -/
theorem readAttribute_eq_readProperty {p : Property Code}
    (isProperty : (classes.changed w.changes).member? r.classId name = some (.property p)) :
    (classes.readAttribute (.object own) name).run.run w =
      ((classes.changed w.changes).readProperty r (.object own) name p).run.run w := by
  obtain ⟨⟨owner, m⟩, owned, rfl⟩ := Option.map_eq_some_iff.mp isProperty
  have notModel := ordinary.ofRecord owner _ owned
  rw [readAttribute, (classes.now_ends w).run_bind, (Run.ends_object? own w).run_bind, found]
  simp only [readInstance, owned]

/-- Reading what an instance shows changes nothing that there was. -/
theorem Shows.readAttribute_ends (shows : (classes.changed w.changes).Shows r name)
    (through : (classes.changed w.changes).RunsThrough r.classId layout) :
    ∃ v w', (classes.readAttribute (.object own) name).Ends w v w' ∧ w.Keeps [] w' := by
  by_cases property : ∃ p, (classes.changed w.changes).member? r.classId name = some (.property p)
  · obtain ⟨p, isProperty⟩ := property
    rw [Shows, isProperty] at shows
    obtain ⟨getter, isGetter⟩ := Option.isSome_iff_exists.mp shows
    obtain ⟨v, w', ended, kept⟩ := through.getters isProperty isGetter ⟨r, found, rfl⟩
    refine ⟨v, w', ?_, kept⟩
    rw [Run.Ends, readAttribute_eq_readProperty found ordinary isProperty, readProperty, isGetter]
    exact Run.run_tryCatch _ ended
  · rw [not_exists] at property
    obtain ⟨v, isShown⟩ := (shows_iff_of_noProperty property).mp shows
    refine ⟨v, w, ?_, .refl [] w⟩
    rw [Run.Ends, readAttribute_run (ordinary.readsPlainly property) found, isShown]

theorem Shows.of_succeeds (succeeds : (classes.readAttribute (.object own) name).Succeeds w) :
    (classes.changed w.changes).Shows r name := by
  by_cases property : ∃ p, (classes.changed w.changes).member? r.classId name = some (.property p)
  · obtain ⟨p, isProperty⟩ := property
    rw [Run.succeeds_congr (readAttribute_eq_readProperty found ordinary isProperty),
      readProperty] at succeeds
    rw [Shows, isProperty]
    cases isGetter : p.getter? with
    | none =>
      rw [isGetter] at succeeds
      exact absurd succeeds (Run.not_succeeds_throw _ _)
    | some getter => exact Option.isSome_of_eq_some isGetter
  · rw [not_exists] at property
    obtain ⟨v, w', ended⟩ := succeeds
    rw [Run.Ends, readAttribute_run (ordinary.readsPlainly property) found] at ended
    exact (shows_iff_of_noProperty property).mpr ⟨v, (Prod.mk.inj ended).1⟩

end Reading

/-- The field is a parameter that keeps its value while others change. -/
def isKept (changed : List String) (f : RecordField) : Bool :=
  f.isParameter && !changed.contains f.name

/-- The field stays out of the changes, or it can be changed by calling the class again. -/
def mayChange (changed : List String) (f : RecordField) : Bool :=
  f.isParameter || f.kind == .classLevel || !changed.contains f.name

theorem keptArgumentsOf_cons_eq {f : RecordField} (notInitOnly : f.kind ≠ .initOnly)
    (earlier : Value) (changed : List String) (rest : List RecordField) :
    classes.keptArgumentsOf earlier changed (f :: rest) =
      if isKept changed f then do
        let v ← classes.readAttribute earlier f.name
        return (f.name, v) :: (← classes.keptArgumentsOf earlier changed rest)
      else if mayChange changed f then classes.keptArgumentsOf earlier changed rest
      else throw (.missingInitOnly f.name) := by
  rw [keptArgumentsOf_cons _ notInitOnly]
  simp [isKept, mayChange, or_assoc]

section Kept

variable {changed : List String} {fields : List RecordField}
  (found : w.heap.get? own = some (.record r))
  (current : classes.changed w.changes = table) (through : table.RunsThrough r.classId layout)
  (noInitOnly : ∀ f ∈ fields, f.kind ≠ .initOnly)
  (ordinary : ∀ f ∈ fields, table.HasRecordMember r.classId f.name)

include found current through noInitOnly ordinary

/-- What a record shows can be kept. -/
theorem keptArgumentsOf_ends (may : ∀ f ∈ fields, mayChange changed f = true)
    (shows : ∀ f ∈ fields, isKept changed f = true → table.Shows r f.name) :
    ∃ kept w', (classes.keptArgumentsOf (.object own) changed fields).Ends w kept w' ∧
      w.Keeps [] w' ∧ Entries.keys kept = (fields.filter (isKept changed)).map (·.name) := by
  induction fields generalizing w with
  | nil => exact ⟨[], w, rfl, .refl [] w, rfl⟩
  | cons f rest ih =>
    obtain ⟨notInitOnly, noInitOnlyRest⟩ := List.forall_mem_cons.mp noInitOnly
    obtain ⟨ordinaryFirst, ordinaryRest⟩ := List.forall_mem_cons.mp ordinary
    obtain ⟨mayFirst, mayRest⟩ := List.forall_mem_cons.mp may
    obtain ⟨showsFirst, showsRest⟩ := List.forall_mem_cons.mp shows
    rw [keptArgumentsOf_cons_eq notInitOnly, List.filter_cons]
    cases kept : isKept changed f with
    | true =>
      subst current
      obtain ⟨v, w₁, read, keeps₁⟩ :=
        (showsFirst kept).readAttribute_ends found ordinaryFirst through
      obtain ⟨others, w₂, ended, keeps₂, keys⟩ := ih (keeps₁.found found)
        (classes.changed_eq_of_keeps keeps₁) noInitOnlyRest ordinaryRest mayRest showsRest
      refine ⟨(f.name, v) :: others, w₂, read.bind (ended.bind rfl), keeps₁.trans keeps₂, ?_⟩
      exact congrArg (f.name :: ·) keys
    | false =>
      rw [if_neg Bool.false_ne_true, if_pos mayFirst, if_neg Bool.false_ne_true]
      exact ih found current noInitOnlyRest ordinaryRest mayRest showsRest

/-- What can be kept is shown. -/
theorem shows_of_keptArgumentsOf
    (succeeds : (classes.keptArgumentsOf (.object own) changed fields).Succeeds w) :
    ∀ f ∈ fields, mayChange changed f = true ∧
      (isKept changed f = true → table.Shows r f.name) := by
  induction fields generalizing w with
  | nil => simp
  | cons f rest ih =>
    obtain ⟨notInitOnly, noInitOnlyRest⟩ := List.forall_mem_cons.mp noInitOnly
    obtain ⟨ordinaryFirst, ordinaryRest⟩ := List.forall_mem_cons.mp ordinary
    rw [keptArgumentsOf_cons_eq notInitOnly] at succeeds
    refine List.forall_mem_cons.mpr ?_
    cases kept : isKept changed f with
    | true =>
      subst current
      rw [kept, if_pos rfl] at succeeds
      have shows := Shows.of_succeeds found ordinaryFirst succeeds.of_bind
      obtain ⟨v, w₁, read, keeps₁⟩ := shows.readAttribute_ends found ordinaryFirst through
      have later := ih (keeps₁.found found) (classes.changed_eq_of_keeps keeps₁) noInitOnlyRest
        ordinaryRest ((read.succeeds_bind_iff _).mp succeeds).of_bind
      refine ⟨⟨?_, fun _ => shows⟩, later⟩
      simp_all [isKept, mayChange]
    | false =>
      rw [kept, if_neg Bool.false_ne_true] at succeeds
      cases may : mayChange changed f with
      | false =>
        rw [may, if_neg Bool.false_ne_true] at succeeds
        exact absurd succeeds (Run.not_succeeds_throw _ _)
      | true =>
        rw [may, if_pos rfl] at succeeds
        exact ⟨⟨rfl, fun impossible => by cases impossible⟩,
          ih found current noInitOnlyRest ordinaryRest succeeds⟩

end Kept

/-! ## Setting fields -/

/-- Behind the guards, instances of the class take values under the name. -/
def CanBeSet (classes : ClassTable Code) (c : ClassId) (name : String) : Prop :=
  match classes.member? c name with
  | some (.property p) => p.setter?.isSome = true
  | _ => classes.hasPlace c name = true

/-- The constructor sets the field. -/
def IsSet (layout : RecordLayout) (f : RecordField) : Prop :=
  f.kind = .stored ∧ (f.accepted = true ∨ (storedDefault? layout f).isSome = true)

/-- Setting the name on instances of the class runs through: what instances store is not stored
by code, and a setter of that name does not raise and changes nothing that there was but the
instance. -/
structure SetsThrough (classes : ClassTable Code) (c : ClassId) (name : String) : Prop where
  notClass : name ≠ classAttribute
  passive : ∀ m, classes.member? c name = some m → (∀ p, m ≠ .property p) → m.IsPassive
  setters {p : Property Code} {setter : Code} :
    classes.member? c name = some (.property p) → p.setter? = some setter →
    ∀ {w : World} {own : Nat} (v : Value), w.HasInstance own c →
      ∃ u w', (setter [.object own, v]).Ends w u w' ∧ w.Keeps [own] w' ∧ w'.HasInstance own c

theorem RunsThrough.setsThrough (through : classes.RunsThrough c layout)
    (ordinary : classes.HasRecordMember c name) : classes.SetsThrough c name :=
  ⟨ne_classAttribute_of_uncommon ordinary.uncommon, ordinary.passive, through.setters⟩

/-- Where no property is in the way, there is no code to run. -/
theorem ReadsPlainly.setsThrough (plain : classes.ReadsPlainly c name) :
    classes.SetsThrough c name := by
  have passive : ∀ m, classes.member? c name = some m → m.IsPassive := plain.isPassive []
  refine ⟨ne_classAttribute_of_uncommon plain.uncommon, fun m member _ => passive m member, ?_⟩
  intro p setter isProperty
  exact (passive _ isProperty).elim

/-- Where there is no property, storing asks no code when changes are taken up again. -/
theorem SetsThrough.passive_again {c : ClassId}
    (through : (classes.changed base.changes).SetsThrough c name)
    (sameChanges : w.changes = base.changes)
    (noProperty : ∀ p, (classes.changed base.changes).member? c name ≠ some (.property p)) :
    ∀ m, ((classes.changed base.changes).changed w.changes).member? c name = some m →
      m.IsPassive := by
  intro m member
  rw [sameChanges, member?_changed_again] at member
  refine through.passive m member fun p isProperty => ?_
  exact noProperty p (isProperty ▸ member)

section Setting

variable (sameChanges : w.changes = base.changes)
  (through : (classes.changed base.changes).SetsThrough c name) (there : w.HasInstance own c)

include sameChanges through there

/-- A field that can be set is set, and nothing else. -/
theorem CanBeSet.storeUnguarded_ends (can : (classes.changed base.changes).CanBeSet c name)
    (v : Value) :
    ∃ w', ((classes.changed base.changes).storeUnguarded (.object own) name v).Ends w () w' ∧
      w.Keeps [own] w' ∧ w'.HasInstance own c := by
  obtain ⟨r, found, rfl⟩ := there
  by_cases property :
      ∃ p, (classes.changed base.changes).member? r.classId name = some (.property p)
  · obtain ⟨p, isProperty⟩ := property
    rw [CanBeSet, isProperty] at can
    obtain ⟨setter, isSetter⟩ := Option.isSome_iff_exists.mp can
    obtain ⟨u, w', ended, kept, still⟩ := through.setters isProperty isSetter v ⟨r, found, rfl⟩
    refine ⟨w', ?_, kept, still⟩
    rw [Run.Ends, storeUnguarded, (now_ends _ w).run_bind, (Run.ends_object? own w).run_bind, found]
    simp only [sameChanges, member?_changed_again, isProperty, isSetter]
    exact ended.bind rfl
  · rw [not_exists] at property
    have run := storeUnguarded_run v through.notClass found
      (through.passive_again sameChanges property)
    have place : ((classes.changed base.changes).changed w.changes).hasPlace r.classId name =
        true := by
      rw [sameChanges, hasPlace_changed_again]
      rw [CanBeSet] at can
      split at can
      · next p isProperty => exact absurd isProperty (property p)
      · exact can
    rw [place, if_pos rfl] at run
    have inHeap := Heap.lt_next_of_get?_eq_some found
    exact ⟨_, run, .written w own _, _, Heap.get?_set_self _ inHeap, rfl⟩

theorem storeUnguarded_succeeds_iff_canBeSet :
    ((classes.changed base.changes).storeUnguarded (.object own) name v).Succeeds w ↔
      (classes.changed base.changes).CanBeSet c name := by
  refine ⟨fun succeeds => ?_, fun can => ?_⟩
  · obtain ⟨r, found, rfl⟩ := there
    by_cases property :
        ∃ p, (classes.changed base.changes).member? r.classId name = some (.property p)
    · obtain ⟨p, isProperty⟩ := property
      rw [storeUnguarded, (now_ends _ w).succeeds_bind_iff,
        (Run.ends_object? own w).succeeds_bind_iff, found] at succeeds
      simp only [sameChanges, member?_changed_again, isProperty] at succeeds
      rw [CanBeSet, isProperty]
      cases isSetter : p.setter? with
      | none =>
        rw [isSetter] at succeeds
        exact absurd succeeds (Run.not_succeeds_throw _ _)
      | some setter => exact Option.isSome_of_eq_some isSetter
    · rw [not_exists] at property
      have place := (storeUnguarded_succeeds_iff_hasPlace through.notClass found
        (through.passive_again sameChanges property)).mp succeeds
      rw [sameChanges, hasPlace_changed_again] at place
      rw [CanBeSet]
      split
      · next p isProperty => exact absurd isProperty (property p)
      · exact place
  · obtain ⟨w', stored, -⟩ := can.storeUnguarded_ends sameChanges through there v
    exact stored.succeeds

end Setting

omit [Packages] in
/-- What the constructor sets a field to can be made. -/
theorem exists_valueSource (closed : base.heap.Closed) {f : RecordField}
    (default : ∀ d, f.default? = some d → d.value.Within base.heap.next)
    (kept : base.Keeps [] w) (given : Entries String Value) :
    (¬ IsSet layout f ∧ table.valueSource? layout given f = none) ∨
      IsSet layout f ∧ ∃ run v u, table.valueSource? layout given f = some run ∧
        run.Ends w v u ∧ w.Keeps [] u := by
  by_cases isStored : f.kind = .stored
  · cases accepted : f.accepted with
    | true =>
      refine .inr ⟨⟨isStored, .inl accepted⟩, pure ((Entries.get? given f.name).getD .null), _, w,
        ?_, Run.ends_pure _ w, .refl [] w⟩
      rw [valueSource?, if_pos isStored, if_pos accepted]
    | false =>
      cases stored : storedDefault? layout f with
      | none =>
        exact .inl ⟨by simp [IsSet, accepted, stored], by simp [valueSource?, accepted, stored]⟩
      | some d =>
        obtain ⟨v, u, made, keeps, -⟩ :=
          d.create_ends table closed (default d (default?_of_storedDefault? stored)) kept
        refine .inr ⟨⟨isStored, .inr (by simp [stored])⟩, d.create table, v, u, ?_, made, keeps⟩
        simp [valueSource?, isStored, accepted, stored]
  · exact .inl ⟨fun isSet => isStored isSet.1, by simp [valueSource?, isStored]⟩

section Filling

variable {fields : List RecordField} {given : Entries String Value}
  (closed : base.heap.Closed) (isFrozen : layout.isFrozen = true)
  (defaults : ∀ f ∈ fields, ∀ d, f.default? = some d → d.value.Within base.heap.next)
  (through : ∀ f ∈ fields, IsSet layout f → (classes.changed base.changes).SetsThrough c f.name)
  (isNew : base.heap.next ≤ own) (kept : base.Keeps [] w) (there : w.HasInstance own c)

include closed isFrozen defaults through isNew kept there

/-- If all fields can be set that the constructor sets, it sets them. -/
theorem fillRecord_ends (can : ∀ f ∈ fields, IsSet layout f →
      (classes.changed base.changes).CanBeSet c f.name) :
    ∃ w', ((classes.changed base.changes).fillRecord layout (.object own) given fields).Ends
        w () w' ∧ base.Keeps [] w' ∧ w'.HasInstance own c := by
  induction fields generalizing w with
  | nil => exact ⟨w, rfl, kept, there⟩
  | cons f rest ih =>
    obtain ⟨defaultsFirst, defaultsRest⟩ := List.forall_mem_cons.mp defaults
    obtain ⟨throughFirst, throughRest⟩ := List.forall_mem_cons.mp through
    obtain ⟨canFirst, canRest⟩ := List.forall_mem_cons.mp can
    rw [fillRecord_cons _ isFrozen]
    rcases exists_valueSource closed defaultsFirst kept given with
      ⟨-, isSource⟩ | ⟨isSet, run, v, u, isSource, made, keeps⟩
    · rw [isSource]
      exact ih defaultsRest throughRest kept there canRest
    · rw [isSource]
      have kept := kept.trans keeps
      obtain ⟨u', stored, keeps', still⟩ := (canFirst isSet).storeUnguarded_ends kept.changes
        (throughFirst isSet) (there.later keeps) v
      obtain ⟨w', ended, after⟩ :=
        ih defaultsRest throughRest (kept.trans_new isNew keeps') still canRest
      exact ⟨w', made.bind (stored.bind ended), after⟩

/-- What the constructor has set could be set. -/
theorem canBeSet_of_fillRecord (succeeds : ((classes.changed base.changes).fillRecord layout
      (.object own) given fields).Succeeds w) :
    ∀ f ∈ fields, IsSet layout f → (classes.changed base.changes).CanBeSet c f.name := by
  induction fields generalizing w with
  | nil => simp
  | cons f rest ih =>
    obtain ⟨defaultsFirst, defaultsRest⟩ := List.forall_mem_cons.mp defaults
    obtain ⟨throughFirst, throughRest⟩ := List.forall_mem_cons.mp through
    rw [fillRecord_cons _ isFrozen] at succeeds
    refine List.forall_mem_cons.mpr ?_
    rcases exists_valueSource closed defaultsFirst kept given with
      ⟨notSet, isSource⟩ | ⟨isSet, run, v, u, isSource, made, keeps⟩
    · rw [isSource] at succeeds
      exact ⟨fun isSet => absurd isSet notSet,
        ih defaultsRest throughRest kept there succeeds⟩
    · rw [isSource, made.succeeds_bind_iff] at succeeds
      have kept := kept.trans keeps
      have can := (storeUnguarded_succeeds_iff_canBeSet kept.changes (throughFirst isSet)
        (there.later keeps)).mp succeeds.of_bind
      obtain ⟨u', stored, keeps', still⟩ :=
        can.storeUnguarded_ends kept.changes (throughFirst isSet) (there.later keeps) v
      rw [stored.succeeds_bind_iff] at succeeds
      exact ⟨fun _ => can,
        ih defaultsRest throughRest (kept.trans_new isNew keeps') still succeeds⟩

/-- A generated constructor succeeds if it gets what it takes and can set what it sets, provided
that the code behind it does not raise. -/
theorem construct_succeeds_iff (isAll : fields = layout.fields)
    (afterInit : layout.hasAfterInit = true → ∀ {w : World}, w.HasInstance own c →
      ((classes.changed base.changes).runAfterInit c (.object own)).Succeeds w)
    {named : Entries String Value}
    (each : ∀ f ∈ fields, f.isParameter = true → ∃ v, Entries.get? named f.name = some v) :
    ((classes.changed base.changes).construct layout c own named).Succeeds w ↔
      (∀ entry ∈ named, ∃ f ∈ fields, f.isParameter = true ∧ f.name = entry.1) ∧
        ∀ f ∈ fields, IsSet layout f → (classes.changed base.changes).CanBeSet c f.name := by
  subst isAll
  rw [construct]
  constructor
  · intro succeeds
    obtain ⟨values, u, bound⟩ := succeeds.of_bind
    have only : ∀ entry ∈ named, ∃ f ∈ layout.fields, f.isParameter = true ∧ f.name = entry.1 := by
      intro entry mem
      cases bindings : bindArguments? layout.parameters { named := named } with
      | none =>
        rw [bindAll, bindings] at bound
        cases bound
      | some _ => exact RecordLayout.exists_parameter_of_bindArguments? bindings mem
    have all : layout.IsGivenAll named := ⟨each, only⟩
    rw [(all.bindAll_ends _ w).succeeds_bind_iff] at succeeds
    exact ⟨only, canBeSet_of_fillRecord closed isFrozen defaults through isNew kept there
      succeeds.of_bind⟩
  · rintro ⟨only, can⟩
    have all : layout.IsGivenAll named := ⟨each, only⟩
    rw [(all.bindAll_ends _ w).succeeds_bind_iff]
    obtain ⟨w', filled, -, still⟩ := fillRecord_ends closed isFrozen defaults through isNew kept
      there can
    rw [filled.succeeds_bind_iff]
    split
    · next hasAfterInit => exact afterInit hasAfterInit still
    · exact (Run.ends_pure () w').succeeds

end Filling

/-! ## Calling the class -/

/-- A class that has instances is called by filling a new one. -/
theorem instantiate_succeeds_iff {ancestor : ClassInfo Code} {initializer : Initializer Code}
    (isInitializer : (classes.changed w.changes).initializer? c = some (ancestor, initializer))
    (notPlaceholder : initializer ≠ .placeholder)
    (concrete : (((classes.changed w.changes).info c).isInterface ||
      (classes.changed w.changes).isAbstract c) = false) (arguments : Arguments) :
    (classes.instantiate c arguments).Succeeds w ↔
      ((classes.changed w.changes).fill ((classes.changed w.changes).madeFrom (depthOf w.heap))
        false c w.heap.next arguments (some (ancestor, initializer))).Succeeds
          { w with heap := w.heap.allocate (.record { classId := c }) } := by
  have world : (get : Run World).Ends w w w := rfl
  have filling : (classes.changed w.changes).fillingOf c = pure (some (ancestor, initializer)) := by
    rw [fillingOf, isInitializer]
    cases initializer with
    | placeholder => exact absurd rfl notPlaceholder
    | _ => rfl
  have accepts : (classes.changed w.changes).refusesInstances c = false := by
    obtain ⟨notInterface, notAbstract⟩ := Bool.or_eq_false_iff.mp concrete
    rw [refusesInstances, notAbstract, notInterface, Bool.false_and, Bool.false_or]
  rw [instantiate, (classes.now_ends w).succeeds_bind_iff, world.succeeds_bind_iff, instantiateWith,
    accepts, if_neg Bool.false_ne_true, world.succeeds_bind_iff,
    (Run.ends_allocate _ w).succeeds_bind_iff, filling, pure_bind]
  exact Run.succeeds_bind_pure_iff _ _ _

/-- Instances of the class are frozen records, and they are made by a constructor that is
generated for their fields, or written for the class and asked for a parameter. -/
structure IsCalled (classes : ClassTable Code) (c : ClassId) (layout : RecordLayout)
    (name : String) : Prop where
  isFrozen : layout.isFrozen = true
  noInitOnly : ∀ f ∈ layout.fields, f.kind ≠ .initOnly
  ordinary : ∀ f ∈ layout.fields, classes.HasRecordMember c f.name
  concrete : ((classes.info c).isInterface || classes.isAbstract c) = false
  constructor : ∃ ancestor,
    (classes.initializer? c = some (ancestor, .record) ∧ ancestor.record? = some layout) ∨
      (∃ parameters body, classes.initializer? c = some (ancestor, .code parameters body)) ∧
        ∃ f ∈ layout.fields, f.isParameter = true ∧ f.name = name

/-- The constructor of the class is generated. -/
def IsGenerated (classes : ClassTable Code) (c : ClassId) : Prop :=
  ∃ ancestor, classes.initializer? c = some (ancestor, .record)

/-- What a generated constructor asks for so that it can give a field another value: the
field is a parameter, and everything can be set that is set. -/
structure Reconstructs (classes : ClassTable Code) (layout : RecordLayout) (c : ClassId)
    (name : String) : Prop where
  isParameter : ∃ f ∈ layout.fields, f.isParameter = true ∧ f.name = name
  canBeSet : ∀ f ∈ layout.fields, IsSet layout f → classes.CanBeSet c f.name

/-- The record can be made again with another value under the name: what it keeps is shown,
nothing but a parameter changes, and its constructor goes along with that. -/
structure CanBeRemade (classes : ClassTable Code) (layout : RecordLayout) (r : Instance)
    (name : String) : Prop where
  mayChange : ∀ f ∈ layout.fields, mayChange [name] f = true
  shows : ∀ f ∈ layout.fields, isKept [name] f = true → classes.Shows r f.name
  reconstructs : classes.IsGenerated r.classId → classes.Reconstructs layout r.classId name

section Again

variable (closed : base.heap.Closed) (defaults : DefaultsWithin layout base.heap.next)
  (called : (classes.changed base.changes).IsCalled c layout name)
  (through : (classes.changed base.changes).RunsThrough c layout)

include closed defaults called through

/-- With what is kept, the class can be called if its constructor goes along. -/
theorem instantiate_kept_succeeds_iff (kept : base.Keeps [] w) {arguments : Entries String Value}
    (keys : Entries.keys arguments = (layout.fields.filter (isKept [name])).map (·.name)) :
    (classes.instantiate c { named := (name, v) :: arguments }).Succeeds w ↔
      ((classes.changed base.changes).IsGenerated c →
        (classes.changed base.changes).Reconstructs layout c name) := by
  have current := classes.changed_eq_of_keeps kept
  have concrete := called.concrete
  have allocated := World.Keeps.allocated w (.record { classId := c })
  have there : World.HasInstance { w with heap := w.heap.allocate (.record { classId := c }) }
      w.heap.next c := ⟨_, w.heap.get?_allocate_next _, rfl⟩
  have each (f : RecordField) (isField : f ∈ layout.fields) (isParameter : f.isParameter = true) :
      ∃ u, Entries.get? ((name, v) :: arguments) f.name = some u := by
    refine Option.isSome_iff_exists.mp ((Entries.contains_iff_mem_keys _ _).mpr ?_)
    rw [Entries.keys, List.map_cons, ← Entries.keys, keys]
    by_cases same : f.name = name
    · exact same ▸ List.mem_cons_self
    · refine List.mem_cons_of_mem _ (List.mem_map.mpr ⟨f, ?_, rfl⟩)
      simp [List.mem_filter, isField, isKept, isParameter, same]
  have only (isParameter : ∃ f ∈ layout.fields, f.isParameter = true ∧ f.name = name) :
      ∀ entry ∈ (name, v) :: arguments,
        ∃ f ∈ layout.fields, f.isParameter = true ∧ f.name = entry.1 := by
    refine List.forall_mem_cons.mpr ⟨isParameter, fun entry mem => ?_⟩
    have listed : entry.1 ∈ Entries.keys arguments := List.mem_map.mpr ⟨entry, mem, rfl⟩
    rw [keys] at listed
    obtain ⟨f, isField, sameName⟩ := List.mem_map.mp listed
    obtain ⟨isField, isKept⟩ := List.mem_filter.mp isField
    exact ⟨f, isField, (Bool.and_eq_true_iff.mp isKept).1, sameName⟩
  obtain ⟨ancestor, ⟨isInitializer, isLayout⟩ | ⟨⟨parameters, body, isInitializer⟩, isParameter⟩⟩ :=
    called.constructor
  · have generated : (classes.changed base.changes).IsGenerated c := ⟨ancestor, isInitializer⟩
    rw [← current] at isInitializer concrete
    rw [instantiate_succeeds_iff isInitializer (by simp) concrete, current, fill, isLayout]
    have constructs := construct_succeeds_iff closed called.isFrozen defaults
      (fun f isField _ => through.setsThrough (called.ordinary f isField)) kept.growing
      (kept.trans allocated) there rfl (fun _ => through.afterInit) each
    refine constructs.trans ⟨?_, fun reconstructs => ?_⟩
    · rintro ⟨given, can⟩ -
      exact ⟨given _ List.mem_cons_self, can⟩
    · obtain ⟨isParameter, can⟩ := reconstructs generated
      exact ⟨only isParameter, can⟩
  · have written : ¬ (classes.changed base.changes).IsGenerated c := by
      rintro ⟨other, isOther⟩
      rw [isInitializer] at isOther
      cases isOther
    refine iff_of_true ?_ fun generated => absurd generated written
    have takesAll := through.constructors isInitializer there ⟨each, only isParameter⟩
    rw [← current] at isInitializer concrete
    rw [instantiate_succeeds_iff isInitializer (by simp) concrete, current]
    exact takesAll

end Again

/-- Replacing a value of a record succeeds exactly if the record can be made again with
another value under the name. -/
theorem replaceField_succeeds_iff (closed : w.heap.Closed)
    (defaults : DefaultsWithin layout w.heap.next)
    (called : (classes.changed w.changes).IsCalled r.classId layout name)
    (through : (classes.changed w.changes).RunsThrough r.classId layout)
    (isRecord : classes.recordLayout? r.classId = some layout)
    (found : w.heap.get? own = some (.record r)) :
    (classes.replaceField (.object own) name v).Succeeds w ↔
      (classes.changed w.changes).CanBeRemade layout r name := by
  rw [replaceField_eq, Run.succeeds_congr (classes.replaceFields_run found isRecord _)]
  constructor
  · intro succeeds
    have each := shows_of_keptArgumentsOf found rfl through called.noInitOnly called.ordinary
      succeeds.of_bind
    have may := fun f isField => (each f isField).1
    have shows := fun f isField => (each f isField).2
    obtain ⟨kept, w', ended, keeps, keys⟩ := keptArgumentsOf_ends found rfl through
      called.noInitOnly called.ordinary may shows
    rw [ended.succeeds_bind_iff] at succeeds
    exact ⟨may, shows,
      (instantiate_kept_succeeds_iff closed defaults called through keeps keys).mp succeeds⟩
  · rintro ⟨may, shows, reconstructs⟩
    obtain ⟨kept, w', ended, keeps, keys⟩ := keptArgumentsOf_ends found rfl through
      called.noInitOnly called.ordinary may shows
    refine (ended.succeeds_bind_iff _).mpr ?_
    exact (instantiate_kept_succeeds_iff closed defaults called through keeps keys).mpr reconstructs

end ClassTable

end ObjectMapping
