import Mathlib
import ObjectMapping.Proofs.Class.CallingAgain
import ObjectMapping.Proofs.Discovery.Declared
import ObjectMapping.Proofs.Discovery.Modes
import ObjectMapping.Proofs.Mapping.Creation
import ObjectMapping.Proofs.Package.Runtime

/-!
# Writing what is discovered

A property that is discovered can be written in one of three ways, and each of them can
fail for reasons that discovery does not look at. `TargetProperty.IsWritable` says when
an instance goes along, and `discovered_written_iff` that a setter stage succeeds exactly
then, if the code does that is written for the class. What discovery does look at is said
by `Provider.Ensures`: a plain class lists no property without setter, a model nothing but
fields, and a frozen record nothing but parameters of its constructor. Where packages store
and copy as they promise, models and mapped attributes go along with every value
(`IsLeftToPackage`). What discovery does not look at can make writing fail for every value
(`not_written_levels`).
-/

namespace ObjectMapping

/-- What discovery makes sure of for the class of the type itself. -/
def Provider.Ensures [Packages] (classes : ClassTable Code) (provider : Provider) (c : ClassId)
    (t : TargetProperty) : Prop :=
  match provider with
  | .model => ∃ layout, classes.modelLayout? c = some layout ∧
      ∃ f ∈ layout.fields, f.name = t.name ∧ t.mode =
        if layout.isFrozen || f.isFrozen then .replacement classes.copyWithUpdate
        else .assignment
  | .record => ∃ layout, classes.recordLayout? c = some layout ∧
      t.mode = (if layout.isFrozen then .replacement classes.replaceField else .assignment) ∧
      (layout.isFrozen = true → ∃ f ∈ layout.fields, f.name = t.name ∧ f.isParameter = true)
  | .plain => t.mode = .assignment ∧
      ∀ p, classes.member? c t.name = some (.property p) → p.isWritable = true
  | _ => t.mode = .assignment

/-- An instance goes along with another value of a property. -/
inductive TargetProperty.IsWritable [Packages] (classes : ClassTable Code) (w : World)
    (t : TargetProperty) (address : Nat) (r : Instance) (v : Value) : Prop
  /-- What is written in place is taken by the instance. -/
  | inPlace (mode : t.mode = .assignment)
      (takes : (classes.changed w.changes).Takes w address r t.name v)
  /-- What is written to a copy asks for a model, of which the package makes that copy. -/
  | copied (mode : t.mode = .replacement classes.copyWithUpdate)
      (isModel : (classes.modelLayout? r.classId).isSome = true)
      (copies : (Packages.copyModel classes address t.name v).Succeeds w)
  /-- What is written by calling the class asks for a record that can be made again. -/
  | remade {layout : RecordLayout} (mode : t.mode = .replacement classes.replaceField)
      (isRecord : classes.recordLayout? r.classId = some layout)
      (canBeRemade : (classes.changed w.changes).CanBeRemade layout r t.name)

/-- The attribute of an instance is left to a package that goes along with every value. -/
inductive ClassTable.IsLeftToPackage [Packages] (classes : ClassTable Code) (r : Instance)
    (name : String) : Provider → Prop
  /-- A prepared model of a class that does not validate what is assigned, and by which no
  property stands in the place of the field. -/
  | model (prepared : r.isPrepared = true)
      (guarded : (classes.line r.classId).head?.bind (·.guard?) = some .model)
      (noProperty : ∀ p, classes.member? r.classId name ≠ some (.property p))
      (copies : Packages.CopiesModels) (sets : Packages.SetsFields classes r.classId) :
      IsLeftToPackage classes r name .model
  /-- A mapped attribute, which no class of the line guards. -/
  | entity (isColumn : classes.member? r.classId name = some .column)
      (unguarded : ∀ ancestor ∈ classes.line r.classId, ancestor.guard? = none)
      (maps : Packages.MapsPlainly) : IsLeftToPackage classes r name .entity

/-- Records of the class are made again by code that does not raise, from defaults that
have been made. -/
structure ClassTable.MakesAgain [Packages] (classes : ClassTable Code) (w : World) (c : ClassId)
    (layout : RecordLayout) (name : String) : Prop where
  closed : w.heap.Closed
  defaults : DefaultsWithin layout w.heap.next
  called : (classes.changed w.changes).IsCalled c layout name
  through : (classes.changed w.changes).RunsThrough c layout

section

variable {classes : ClassTable Code} {type : TypeExpr} {c : ClassId} {provider : Provider}

/-! ## What discovery makes sure of -/

/-- What is first found, and counts, is also the first that counts. -/
theorem findSome?_bind {α β γ : Type} {f : α → Option β} {g : β → Option γ} {list : List α}
    {b : β} {c : γ} (found : list.findSome? f = some b) (counts : g b = some c) :
    (list.findSome? fun a => (f a).bind g) = some c := by
  induction list with
  | nil => cases found
  | cons a rest ih =>
    rw [List.findSome?_cons] at found ⊢
    cases first : f a with
    | none =>
      rw [first] at found
      exact ih found
    | some b' =>
      rw [first] at found
      cases found
      simp [counts]

/-- Annotations that describe each instance have public names. -/
theorem ClassTable.isPublic_of_instanceAnnotations {annotations : Entries String TypeExpr}
    (given : (classes.instanceAnnotations c).value = .ok annotations) {name : String}
    {type : TypeExpr} (found : Entries.get? annotations name = some type) :
    isPublic name = true := by
  obtain ⟨all, isAll, rfl⟩ := Logged.exists_of_value_bind_pure given
  rw [get?_instanceEntries (nodup_keys_classAnnotations isAll)] at found
  have condition := (Option.filter_eq_some_iff.mp found).2
  exact (Bool.and_eq_true_iff.mp condition).1

/-- A plain class lists no property that it cannot write. -/
theorem ClassTable.isWritable_of_plainTargets (apart : classes.NamesApart)
    {types : Entries String TypeExpr} (given : (classes.plainTargets c).value = .ok types)
    {name : String} {type : TypeExpr} (listed : Entries.get? types name = some type)
    {p : Property Code} (isProperty : classes.member? c name = some (.property p)) :
    p.isWritable = true := by
  obtain ⟨-, annotations, isAnnotations, types_get?⟩ := exists_of_plainTargets given
  have properties := get?_publicProperties apart c name
  rw [types_get?] at listed
  cases shown : isPublic name with
  | true =>
    rw [member?_eq, ← line] at isProperty
    have counts := findSome?_bind (g := Member.property?) isProperty rfl
    simp only [shown, if_true, counts] at properties
    rw [properties] at listed
    exact (Option.ite_none_right_eq_some.mp listed).1
  | false =>
    have nothing : Entries.get? (classes.publicProperties c) name = none := by
      simp [properties, shown]
    rw [nothing] at listed
    cases shown.symm.trans (isPublic_of_instanceAnnotations isAnnotations listed)

variable [Packages] {t : TargetProperty}

/-- What is discovered of a class is what discovery makes sure of. -/
theorem Provider.ensures (apart : classes.NamesApart) (isClass : type.classId? = some c)
    (resolved : Registry.standard.resolve classes type = some provider)
    {discovered : List TargetProperty}
    (given : (Registry.standard.targets classes type).outcome.1 = .ok discovered)
    (mem : t ∈ discovered) : provider.Ensures classes c t := by
  obtain ⟨-, accepts⟩ := Registry.isFor_of_resolve classes resolved
  obtain ⟨entries, isWritable, fromEntries⟩ :=
    exists_writable (Registry.gives_of_resolve resolved given)
  obtain ⟨entry, memEntries, sameName, mode⟩ := fromEntries t mem
  cases provider with
  | model =>
    obtain ⟨layout, isModel, f, isField, name, written⟩ :=
      of_mem_writable_model isClass isWritable memEntries
    exact ⟨layout, isModel, f, isField, name.trans sameName.symm, mode.trans written⟩
  | entity =>
    simp only [writable, isClass] at isWritable
    split at isWritable
    · obtain ⟨types, -, rfl⟩ := isWritable.exists_of_bind_pure
      exact mode.trans (mode_of_mem_assigned memEntries)
    · obtain rfl := Logged.eq_of_gives_pure isWritable
      cases memEntries
  | record =>
    simp only [isFor, isClass, Option.isSome_iff_exists] at accepts
    obtain ⟨layout, isRecord⟩ := accepts
    simp only [writable, isClass, isRecord] at isWritable
    obtain ⟨written, replaced⟩ := ClassTable.of_mem_recordTargets isWritable memEntries
    refine ⟨layout, isRecord, mode.trans written, fun isFrozen => ?_⟩
    obtain ⟨f, isField, name, isStored, accepted⟩ := replaced isFrozen
    refine ⟨f, isField, name.trans sameName.symm, ?_⟩
    simp [RecordField.isParameter, isStored, accepted]
  | interface =>
    simp only [writable, isClass] at isWritable
    obtain ⟨types, -, rfl⟩ := isWritable.exists_of_bind_pure
    exact mode.trans (mode_of_mem_assigned memEntries)
  | plain =>
    simp only [writable, isClass] at isWritable
    obtain ⟨types, isTypes, rfl⟩ := isWritable.exists_of_bind_pure
    refine ⟨mode.trans (mode_of_mem_assigned memEntries), fun p isProperty => ?_⟩
    obtain ⟨typed, memTypes, rfl⟩ := List.mem_map.mp memEntries
    obtain ⟨records, ended⟩ := isTypes
    have isTypes := (ClassTable.isSteady_plainTargets classes c records).symm.trans ended
    have distinct := (ClassTable.exists_of_plainTargets isTypes).1
    have listed := (Entries.mem_iff_get? distinct typed.1 typed.2).mp memTypes
    rw [sameName] at isProperty
    exact ClassTable.isWritable_of_plainTargets apart isTypes listed isProperty
  | fixed declared name only? =>
    simp only [writable] at isWritable
    obtain rfl := Logged.eq_of_gives_pure isWritable
    obtain rfl := List.mem_singleton.mp memEntries
    exact mode

/-- What discovery makes sure of is written in one of three ways. -/
theorem Provider.Ensures.mode (ensures : provider.Ensures classes c t) :
    t.mode = .assignment ∨ t.mode = .replacement classes.copyWithUpdate ∨
      t.mode = .replacement classes.replaceField := by
  cases provider with
  | model =>
    obtain ⟨layout, -, f, -, -, mode⟩ := ensures
    split at mode
    · exact .inr (.inl mode)
    · exact .inl mode
  | record =>
    obtain ⟨layout, -, mode, -⟩ := ensures
    split at mode
    · exact .inr (.inr mode)
    · exact .inl mode
  | plain => exact .inl ensures.1
  | _ => exact .inl ensures

/-! ## What an instance goes along with -/

variable {w : World} {address : Nat} {r : Instance} {v : Value}

namespace TargetProperty

theorem write_inPlace_succeeds_iff (mode : t.mode = .assignment)
    (found : w.heap.get? address = some (.record r))
    (setters : classes.SetterSucceeds w address r t.name v) (source : Value) :
    (t.write classes (.object address) source v).Succeeds w ↔
      (classes.changed w.changes).Takes w address r t.name v := by
  rw [t.write_of_assignment mode]
  exact (Run.succeeds_bind_pure_iff _ _ w).trans
    (ClassTable.writeAttribute_succeeds_iff found setters)

theorem write_copied_succeeds_iff (mode : t.mode = .replacement classes.copyWithUpdate)
    (found : w.heap.get? address = some (.record r)) (source : Value) :
    (t.write classes (.object address) source v).Succeeds w ↔
      (classes.modelLayout? r.classId).isSome = true ∧
        (Packages.copyModel classes address t.name v).Succeeds w := by
  rw [t.write_of_replacement mode]
  exact ClassTable.copyWithUpdate_succeeds_iff found

theorem write_remade_succeeds_iff (mode : t.mode = .replacement classes.replaceField)
    (found : w.heap.get? address = some (.record r))
    (makesAgain : ∀ layout, classes.recordLayout? r.classId = some layout →
      classes.MakesAgain w r.classId layout t.name) (source : Value) :
    (t.write classes (.object address) source v).Succeeds w ↔
      ∃ layout, classes.recordLayout? r.classId = some layout ∧
        (classes.changed w.changes).CanBeRemade layout r t.name := by
  rw [t.write_of_replacement mode]
  cases isRecord : classes.recordLayout? r.classId with
  | none =>
    refine iff_of_false ?_ (by simp)
    rw [ClassTable.replaceField, (classes.classOf_ends found).succeeds_bind_iff, isRecord]
    exact Run.not_succeeds_throw _ w
  | some layout =>
    obtain ⟨closed, defaults, called, through⟩ := makesAgain layout isRecord
    rw [ClassTable.replaceField_succeeds_iff closed defaults called through isRecord found]
    simp

end TargetProperty

/-! ## What is left to packages -/

/-- What of a model decides whether fields of it may be stored: whether it is frozen, and
whether each field is. -/
def ClassInfo.frozenFields? {β : Type} (c : ClassInfo β) : Option (Bool × List (String × Bool)) :=
  c.model?.map fun layout => (layout.isFrozen, layout.fields.map fun f => (f.name, f.isFrozen))

omit [Packages] in
/-- Changes of classes leave the field of a model as frozen as it was. -/
theorem ClassTable.exists_changed_field {layout : ModelLayout}
    (isModel : classes.modelLayout? c = some layout) {f : ModelField}
    (isField : f ∈ layout.fields) (changes : List (ClassId × ClassChange)) :
    ∃ later, (classes.changed changes).modelLayout? c = some later ∧
      later.isFrozen = layout.isFrozen ∧
      ∃ g ∈ later.fields, g.name = f.name ∧ g.isFrozen = f.isFrozen := by
  have left (c : ClassInfo Code) (change : ClassChange) :
      (c.changed change).frozenFields? = c.frozenFields? := by
    cases change with
    | completed =>
      simp [ClassInfo.changed, ClassInfo.frozenFields?, ModelLayout.completed,
        ModelLayout.isFrozen, Function.comp_def]
    | _ => rfl
  have same := part_changed_of_left left classes changes c
  have now : (classes.info c).frozenFields? = some _ := congrArg (Option.map _) isModel
  rw [now] at same
  obtain ⟨later, isLater, equal⟩ := Option.map_eq_some_iff.mp same
  obtain ⟨sameFrozen, sameFields⟩ := Prod.mk.inj equal
  have mem : (f.name, f.isFrozen) ∈ later.fields.map fun g => (g.name, g.isFrozen) :=
    sameFields ▸ List.mem_map_of_mem isField
  obtain ⟨g, isField', pair⟩ := List.mem_map.mp mem
  exact ⟨later, isLater, sameFrozen, g, isField', (Prod.mk.inj pair).1, (Prod.mk.inj pair).2⟩

/-- Where the first class of a line is a model, its package is asked at once. -/
theorem ClassTable.takes_of_storeModel {layout : ModelLayout}
    (guarded : (classes.line r.classId).head?.bind (·.guard?) = some .model)
    (isModel : classes.modelLayout? r.classId = some layout) {name : String}
    (stores : (Packages.storeModel classes layout r address name v
      (classes.storeUnguarded (.object address) name v)).Succeeds w) :
    classes.Takes w address r name v := by
  obtain ⟨first, isFirst, guard⟩ := Option.bind_eq_some_iff.mp guarded
  obtain ⟨rest, isLine⟩ := List.head?_eq_some_iff.mp isFirst
  have isLeft : first.isLeftToPackage = true := by simp [ClassInfo.isLeftToPackage, guard]
  refine ⟨?_, ?_⟩
  · simp [asked, isLine, isLeft]
  · have last : packageGuard? (classes.line r.classId) = some .model := by
      simp [packageGuard?, isLine, isLeft, guard]
    rw [TakesLast, last, isModel]
    exact stores

/-- Without guards, what stands under the name takes the value. -/
theorem ClassTable.takes_of_unguarded
    (unguarded : ∀ ancestor ∈ classes.line r.classId, ancestor.guard? = none) {name : String}
    (takes : classes.TakesBehind w address r name v) : classes.Takes w address r name v := by
  have none_left : ∀ ancestor ∈ classes.line r.classId, ancestor.isLeftToPackage = false := by
    intro ancestor mem
    simp [ClassInfo.isLeftToPackage, unguarded ancestor mem]
  refine ⟨fun ancestor mem guard isGuard => ?_, ?_⟩
  · rw [unguarded ancestor ((List.takeWhile_sublist _).subset mem)] at isGuard
    cases isGuard
  · have last : packageGuard? (classes.line r.classId) = none := by
      rw [packageGuard?,
        List.find?_eq_none.mpr fun ancestor mem => by simp [none_left ancestor mem]]
      rfl
    rw [TakesLast, last]
    exact takes

/-- What is left to a package that goes along with every value can be written. -/
theorem ClassTable.IsLeftToPackage.isWritable (apart : classes.NamesApart)
    (ensures : provider.Ensures classes c t) (found : w.heap.get? address = some (.record r))
    (sameClass : r.classId = c)
    (isLeft : (classes.changed w.changes).IsLeftToPackage r t.name provider) (v : Value) :
    t.IsWritable classes w address r v := by
  subst sameClass
  cases isLeft with
  | model prepared guarded noProperty copies sets =>
    obtain ⟨layout, isModel, f, isField, sameName, mode⟩ := ensures
    split at mode
    · exact .copied mode (by rw [isModel]; rfl) (copies.prepared t.name v found prepared)
    · next unfrozen =>
      obtain ⟨unfrozenModel, unfrozenField⟩ :=
        Bool.or_eq_false_iff.mp (Bool.not_eq_true _ ▸ unfrozen)
      obtain ⟨later, isLater, sameFrozen, g, isField', sameName', sameFrozen'⟩ :=
        exists_changed_field isModel isField w.changes
      have distinct := ((apart.changed w.changes) r.classId).modelFields later isLater
      have isName : g.name = t.name := sameName'.trans sameName
      refine .inPlace mode (takes_of_storeModel guarded isLater ?_)
      rw [← isName] at noProperty ⊢
      refine sets v _ found rfl prepared isLater (sameFrozen.trans unfrozenModel) isField' ?_
        noProperty
      intro other isOther same
      rw [List.inj_on_of_nodup_map distinct isOther isField' same]
      exact sameFrozen'.trans unfrozenField
  | entity isColumn unguarded maps =>
    refine .inPlace ensures (takes_of_unguarded unguarded ?_)
    have again : ((classes.changed w.changes).changed w.changes).member? r.classId t.name =
        some .column := by rw [member?_changed_again, isColumn]
    rw [TakesBehind, again, maps.storeColumn]
    exact (putAttribute_ends t.name v found).succeeds

end

/-! ## Levels -/

open scoped RuntimePackages

/-- The layout of a record of one number, which is 0 by default. -/
def levelLayout (isFrozen : Bool) : RecordLayout where
  fields := [{
    name := "level", kind := .stored, declared := .standard .int
    default? := some (.shared (.number 0)), accepted := true, nameOnly := false }]
  isFrozen := isFrozen
  isSlotted := false
  hasAfterInit := false

/-- A frozen record of a level and one that can be changed; a class that extends the latter
by a constructor of its own, and by a level that can only be read; a slotted class that is
frozen; and a model that is not. -/
def gauges : ClassTable Code where
  classes := #[
    { name := ⟨.declared 0, "models", "Gauge", "Gauge"⟩
      lineage := [.declared 0, .standard .object]
      annotations := [("level", .standard .int)]
      members := [("level", .constant (.number 0))]
      initializer? := some .record
      guard? := some (.frozenRecord ["level"] false)
      record? := some (levelLayout true) },
    { name := ⟨.declared 1, "models", "Meter", "Meter"⟩
      lineage := [.declared 1, .standard .object]
      annotations := [("level", .standard .int)]
      members := [("level", .constant (.number 0))]
      initializer? := some .record
      record? := some (levelLayout false) },
    { name := ⟨.declared 2, "models", "Sensor", "Sensor"⟩
      lineage := [.declared 2, .declared 1, .standard .object]
      members := [("level", .property {
        getter? := some {
          label := "Sensor.level", result? := some (.standard .int)
          body := fun _ => return .number 0 }
        setter? := none })]
      initializer? := some (.code [] fun _ => return .null) },
    { name := ⟨.declared 3, "models", "Probe", "Probe"⟩
      lineage := [.declared 3, .standard .object]
      annotations := [("level", .standard .int)]
      members := [("level", .slot)]
      initializer? := some .slotted
      guard? := some .frozenSlotted
      isOpen := false
      slotted? := some {
        fields := [{ name := "level", default? := some (.shared (.number 0)) }] } },
    { name := ⟨.declared 4, "models", "Dial", "Dial"⟩
      lineage := [.declared 4, .standard .modelBase, .standard .object]
      annotations := [("level", .standard .int)]
      initializer? := some .model
      guard? := some .model
      model? := some {
        fields := [{
          name := "level", type := .standard .int, default? := some (.shared (.number 0))
          isFrozen := false }]
        isFrozen? := none, computed := [], concealed := [], classLevel := [] } }]

/-- The type of one of these classes. -/
def gaugeType (index : Nat) : TypeExpr :=
  gauges.typeOf (.declared index)

/-- The level of one of these classes, as a property that is written in the given way. -/
def levelOf (index : Nat) (mode : TargetMode) : TargetProperty where
  identity := 0
  owner := gaugeType index
  name := "level"
  type := .standard .int
  mode := mode

/-- A gauge, a meter, a sensor, a probe and a dial, each with the level that it has at first. -/
def gaugeWorld : World where
  heap := [
    Object.record { classId := .declared 0, attributes := [("level", .number 0)] },
    .record { classId := .declared 1, attributes := [("level", .number 0)] },
    .record { classId := .declared 2 },
    .record { classId := .declared 3, attributes := [("level", .number 0)] },
    .record {
      classId := .declared 4, attributes := [("level", .number 0)], isPrepared := true }].foldl
      Heap.allocate {}

theorem namesApart_gauges : gauges.NamesApart := by
  refine ClassTable.namesApart_of_declared fun c mem => ?_
  simp only [gauges, List.mem_toArray, List.mem_cons, List.not_mem_nil, or_false] at mem
  rcases mem with rfl | rfl | rfl | rfl | rfl
  all_goals
    exact ⟨by decide, by simp [Entries.keys], by rintro _ ⟨⟩ <;> simp [levelLayout],
      by rintro _ ⟨⟩ <;> simp, by rintro _ ⟨⟩ <;> simp [Entries.keys]⟩

theorem targets_gauge :
    (Registry.standard.targets gauges (gaugeType 0)).outcome.1 =
      .ok [levelOf 0 (.replacement gauges.replaceField)] := by
  cbv

theorem closed_gaugeWorld : gaugeWorld.heap.Closed := by
  intro address object found v mem
  have isLevel : v = .number 0 := by
    match address with
    | 0 | 1 | 3 | 4 =>
      cases found
      exact List.mem_singleton.mp mem
    | 2 =>
      cases found
      exact absurd mem List.not_mem_nil
    | _ + 5 => cases found
  exact isLevel ▸ Value.within_of_plain rfl

/-- A gauge has no properties. -/
theorem member?_gauge_ne_property (name : String) (p : Property Code) :
    gauges.member? (.declared 0) name ≠ some (.property p) := by
  rw [ClassTable.member?_eq]
  intro isProperty
  obtain ⟨ancestor, mem, found⟩ := List.exists_of_findSome?_eq_some isProperty
  have entry := Entries.mem_of_get?_eq_some found
  rcases List.mem_pair.mp mem with rfl | rfl
  · cases List.mem_singleton.mp entry
  · cases entry

/-- Nothing is written for gauges that could raise. -/
theorem makesAgain_gauge :
    gauges.MakesAgain gaugeWorld (.declared 0) (levelLayout true) "level" where
  closed := closed_gaugeWorld
  defaults := by
    intro f mem d isDefault
    obtain rfl := List.mem_singleton.mp mem
    cases isDefault
    exact Value.within_of_plain rfl
  called := {
    isFrozen := rfl
    noInitOnly := by simp [levelLayout]
    ordinary := by
      intro f mem
      obtain rfl := List.mem_singleton.mp mem
      refine ⟨by decide, ?_, fun m member _ => ?_⟩
      · rintro owner m ⟨⟩ ⟨⟩
      · have isConstant : some (Member.constant (.number 0)) = some m := member
        cases isConstant
        trivial
    concrete := rfl
    constructor := ⟨_, .inl ⟨rfl, rfl⟩⟩ }
  through := {
    getters := fun isProperty => absurd isProperty (member?_gauge_ne_property _ _)
    setters := fun isProperty => absurd isProperty (member?_gauge_ne_property _ _)
    constructors := by rintro _ _ _ ⟨⟩
    afterInit := fun _ => (Run.ends_pure () _).succeeds }

theorem canBeRemade_gauge :
    gauges.CanBeRemade (levelLayout true)
      { classId := .declared 0, attributes := [("level", .number 0)] } "level" where
  mayChange := by simp [levelLayout, ClassTable.mayChange, RecordField.isParameter]
  shows := by simp [levelLayout, ClassTable.isKept]
  reconstructs _ := {
    isParameter := ⟨_, List.mem_cons_self, rfl, rfl⟩
    canBeSet f mem _ := by
      obtain rfl := List.mem_singleton.mp mem
      rfl }

theorem targets_dial :
    (Registry.standard.targets gauges (gaugeType 4)).outcome.1 = .ok [levelOf 4 .assignment] := by
  cbv

/-- A dial. -/
def newDial : Instance where
  classId := .declared 4
  attributes := [("level", .number 0)]
  isPrepared := true

/-- Dials have no properties. -/
theorem member?_dial_ne_property (p : Property Code) :
    gauges.member? (.declared 4) "level" ≠ some (.property p) := by
  have nothing : gauges.member? (.declared 4) "level" = none := by decide +kernel
  simp [nothing]

theorem isLeftToPackage_dial : gauges.IsLeftToPackage newDial "level" .model := by
  refine .model rfl rfl member?_dial_ne_property RuntimePackages.copiesModels ?_
  refine RuntimePackages.setsFields fun layout isLayout f mem => ?_
  cases isLayout
  obtain rfl := List.mem_singleton.mp mem
  exact ⟨by decide +kernel, rfl⟩

theorem targets_sensor :
    (Registry.standard.targets gauges (gaugeType 2)).outcome.1 = .ok [levelOf 2 .assignment] := by
  cbv

theorem targets_probe :
    (Registry.standard.targets gauges (gaugeType 3)).outcome.1 = .ok [levelOf 3 .assignment] := by
  cbv

/-- The specification by which a level is read off a meter and written by assignment. -/
def levelSpecification (index : Nat) : Specification where
  target := gaugeType index
  source := gaugeType 1
  targets := [levelOf index .assignment]
  sources := [SourceProperty.ofAttribute gauges 0 (gaugeType 1) "level" (.standard .int)]

theorem ofTypes_sensor :
    (Specification.ofTypes gauges .standard (gaugeType 2) (gaugeType 1)).outcome.1 =
      .ok (levelSpecification 2) := by
  cbv

theorem ofTypes_probe :
    (Specification.ofTypes gauges .standard (gaugeType 3) (gaugeType 1)).outcome.1 =
      .ok (levelSpecification 3) := by
  cbv

theorem corresponding_level (index : Nat) :
    Corresponding (levelSpecification index).targets (levelSpecification index).sources where
  distinctTargets := by simp [levelSpecification]
  distinctSources := by simp [levelSpecification]
  sameNames := by
    simp [levelSpecification, levelOf, SourceProperty.ofAttribute, SourceProperty.declare]
  agreeing := by
    intro t target p source _
    obtain rfl := List.mem_singleton.mp target
    obtain rfl := List.mem_singleton.mp source
    rfl

/-- The specification compiles if its target can be made by calling its type. -/
theorem exists_levelMapper (index : Nat)
    (canBeCalled : constructionObstacle? gauges (gaugeType index) = none) :
    ∃ mapper, ((levelSpecification index).create gauges).outcome.1 = .ok mapper ∧
      ∀ target source, mapper.mapInto target source = compose gauges
        [(levelOf index .assignment).setter gauges fun source => gauges.readPath source ["level"]]
        target source := by
  have isChosen : (levelSpecification index).chosenFactory gauges =
      .ok (gauges.callType {} (gaugeType index)) := by
    simp [Specification.chosenFactory, levelSpecification, canBeCalled]
  refine ⟨_, ((levelSpecification index).create_eq_ok_iff gauges _).mpr
    ⟨corresponding_level index, _, isChosen, rfl⟩, fun target source => ?_⟩
  simp only [Mapper.mapInto, createSetters, pairsByName, levelSpecification, byName,
    List.mergeSort_singleton, List.zipWith_cons_cons, List.zipWith_nil_right, List.map_cons,
    List.map_nil, List.append_nil]
  rfl

/-- Of one of these classes a level is discovered that cannot be written on an instance, and
the mapper from meters that would write it is compiled. -/
def WritesInVain (index : Nat) (provider : Provider) : Prop :=
  Registry.standard.resolve gauges (gaugeType index) = some provider ∧
  gaugeWorld.HasInstance index (.declared index) ∧
  (∃ discovered, (Registry.standard.targets gauges (gaugeType index)).outcome.1 = .ok discovered ∧
    ∃ t ∈ discovered, ∀ source v,
      ¬ (t.setter gauges (fun _ => pure v) (.object index) source).Succeeds gaugeWorld) ∧
  ∃ s mapper,
    (Specification.ofTypes gauges .standard (gaugeType index) (gaugeType 1)).outcome.1 = .ok s ∧
    (s.create gauges).outcome.1 = .ok mapper ∧
    ¬ (mapper.mapInto (.object index) (.object 1)).Succeeds gaugeWorld

theorem writesInVain_of_error (fault : Fault) {index : Nat} {provider : Provider}
    (resolved : Registry.standard.resolve gauges (gaugeType index) = some provider)
    (there : gaugeWorld.HasInstance index (.declared index))
    (listed : (Registry.standard.targets gauges (gaugeType index)).outcome.1 =
      .ok [levelOf index .assignment])
    (isMade : (Specification.ofTypes gauges .standard (gaugeType index) (gaugeType 1)).outcome.1 =
      .ok (levelSpecification index))
    (canBeCalled : constructionObstacle? gauges (gaugeType index) = none)
    (refuses : ∀ source v, ((levelOf index .assignment).write gauges (.object index) source
      v).run.run gaugeWorld = (.error fault, gaugeWorld)) : WritesInVain index provider := by
  refine ⟨resolved, there, ⟨_, listed, _, List.mem_cons_self, fun source v => ?_⟩, ?_⟩
  · exact Run.not_succeeds_of_error (refuses source v)
  · obtain ⟨mapper, compiled, fills⟩ := exists_levelMapper index canBeCalled
    refine ⟨_, mapper, isMade, compiled, fun succeeds => ?_⟩
    have read : (gauges.readPath (.object 1) ["level"]).Ends gaugeWorld (.number 0) gaugeWorld := by
      cbv
    rw [fills] at succeeds
    -- The setter is the first part of its stage, which is the first one of the mapper.
    have written := (read.succeeds_bind_iff _).mp succeeds.of_bind.of_bind
    exact Run.not_succeeds_of_error (refuses (.object 1) (.number 0)) written

end ObjectMapping
