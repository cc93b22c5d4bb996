import ObjectMapping.Proofs.Class.Changes
import ObjectMapping.Proofs.Package.Laws
import ObjectMapping.Proofs.Value.Effect

/-!
# Attributes that are plainly stored

Most attributes of most objects are nothing but what is stored under their name.
`ClassTable.ReadsPlainly` and `ClassTable.StoresPlainly` say of which classes and
names that is true. There, reading an attribute has no effect and shows what is
stored (`readAttribute_run`), and storing one changes that one object at that one
name (`writeAttribute_ends`).

Classes change while programs run. What decides about storing outlasts every
change (`Outlasts`), for a change only ever adds values that instances share.
-/

namespace ObjectMapping

/-- An instance can store a value in front of the member, and shows it then. -/
def Member.IsPassive [Packages] {β : Type} : Member β → Prop
  | .property _ | .collection => False
  | .column => Packages.MapsPlainly
  | .constant _ | .abstractMethod | .slot => True

/-- The attributes that instances have without storing them. -/
def commonAttributes : List String :=
  [classAttribute, storeAttribute, moduleAttribute, descriptionAttribute, "__annotations__"]

theorem ne_classAttribute_of_uncommon {name : String} (uncommon : name ∉ commonAttributes) :
    name ≠ classAttribute := by
  rintro rfl
  exact uncommon List.mem_cons_self

/-- An instance in which one attribute has another value, and nothing else has. -/
structure Instance.DiffersAt (name : String) (v : Value) (before after : Instance) : Prop where
  sameClass : after.classId = before.classId
  sameApart : after.apart = before.apart
  samePreparation : after.isPrepared = before.isPrepared
  changed : Entries.get? after.attributes name = some v
  others : ∀ other, other ≠ name →
    Entries.get? after.attributes other = Entries.get? before.attributes other

theorem Instance.differsAt_put (r : Instance) (name : String) (v : Value) :
    r.DiffersAt name v { r with attributes := Entries.put r.attributes name v } :=
  ⟨rfl, rfl, rfl, Entries.get?_put_self _ _ _, fun _ other => Entries.get?_put_of_ne _ _ other.symm⟩

namespace ClassTable

section Changes

variable {β : Type}

/-- What a change makes of a single class. -/
theorem changed_info (c : ClassInfo β) (change : ClassChange) :
    (c.changed change).lineage = c.lineage ∧ (c.changed change).isOpen = c.isOpen ∧
      ∀ name, Entries.get? (c.changed change).members name = Entries.get? c.members name ∨
        ∃ shared, Entries.get? (c.changed change).members name = some (.constant shared) := by
  cases change with
  | stored stored v =>
    refine ⟨rfl, rfl, fun name => ?_⟩
    by_cases same : stored = name
    · subst same
      exact .inr ⟨v, Entries.get?_put_self _ _ _⟩
    · exact .inl (Entries.get?_put_of_ne _ _ same)
  | filledLike | completed => exact ⟨rfl, rfl, fun _ => .inl rfl⟩

variable [Inhabited β] {table later : ClassTable β}

/-- A later table has the same lines of classes, as open as before, and under each
name what was there before or a value that instances share. -/
structure Outlasts (table later : ClassTable β) : Prop where
  lineage : ∀ c, (later.info c).lineage = (table.info c).lineage
  isOpen : ∀ c, (later.info c).isOpen = (table.info c).isOpen
  members : ∀ c name,
    Entries.get? (later.info c).members name = Entries.get? (table.info c).members name ∨
      ∃ shared, Entries.get? (later.info c).members name = some (.constant shared)

theorem Outlasts.refl (table : ClassTable β) : table.Outlasts table :=
  ⟨fun _ => rfl, fun _ => rfl, fun _ _ => .inl rfl⟩

theorem Outlasts.trans {last : ClassTable β} (first : table.Outlasts later)
    (second : later.Outlasts last) : table.Outlasts last := by
  refine ⟨fun c => (second.lineage c).trans (first.lineage c),
    fun c => (second.isOpen c).trans (first.isOpen c), ?_⟩
  intro c name
  rcases second.members c name with same | added
  · rw [same]
    exact first.members c name
  · exact .inr added

/-- Changing one class makes of each class what it was or what the change makes of it. -/
theorem info_modify (table : ClassTable β) (index : Nat) (change : ClassChange) (c : ClassId) :
    ClassTable.info ⟨table.classes.modify index (·.changed change)⟩ c = table.info c ∨
      ClassTable.info ⟨table.classes.modify index (·.changed change)⟩ c =
        (table.info c).changed change := by
  rcases info_modify_of_size (β := β) index c table.classes.size with apart | concerned
  · exact .inl (apart table change rfl)
  · exact .inr (concerned table change rfl)

theorem outlasts_modify (table : ClassTable β) (index : Nat) (change : ClassChange) :
    table.Outlasts ⟨table.classes.modify index (·.changed change)⟩ := by
  have each := info_modify table index change
  refine ⟨fun c => ?_, fun c => ?_, fun c name => ?_⟩
  all_goals rcases each c with same | changed
  · rw [same]
  · rw [changed, (changed_info _ _).1]
  · rw [same]
  · rw [changed, (changed_info _ _).2.1]
  · exact .inl (by rw [same])
  · rw [changed]
    exact (changed_info _ _).2.2 name

/-- A table outlasts every change. -/
theorem outlasts_changed (table : ClassTable β) (changes : List (ClassId × ClassChange)) :
    table.Outlasts (table.changed changes) := by
  induction changes generalizing table with
  | nil => exact .refl table
  | cons entry rest ih =>
    obtain ⟨c, change⟩ := entry
    cases c with
    | standard c => exact ih table
    | declared index => exact (outlasts_modify table index change).trans (ih _)

theorem member?_eq (table : ClassTable β) (c : ClassId) (name : String) :
    table.member? c name =
      ((table.info c).lineage.map table.info).findSome? fun ancestor =>
        Entries.get? ancestor.members name := by
  rw [member?, owned?, List.map_findSome?, line]
  congr 1
  funext ancestor
  show ((Entries.get? ancestor.members name).map _).map _ = _
  rw [Option.map_map]
  exact congrFun Option.map_id _

/-- Where instances can store values in front of the member, they still can later. -/
theorem Outlasts.isPassive [Packages] (outlasts : table.Outlasts later) {c : ClassId}
    {name : String} (passive : ∀ m, table.member? c name = some m → m.IsPassive) :
    ∀ m, later.member? c name = some m → m.IsPassive := by
  simp only [member?_eq, outlasts.lineage] at passive ⊢
  generalize (table.info c).lineage = lineage at passive ⊢
  induction lineage with
  | nil => simp
  | cons ancestor rest ih =>
    simp only [List.map_cons, List.findSome?_cons] at passive ⊢
    rcases outlasts.members ancestor name with same | ⟨shared, added⟩
    · rw [same]
      cases own : Entries.get? (table.info ancestor).members name with
      | none => exact ih (by simpa only [own] using passive)
      | some m => simpa only [own] using passive
    · rw [added]
      rintro m ⟨⟩
      trivial

theorem Outlasts.isOpen_eq (outlasts : table.Outlasts later) (c : ClassId) :
    later.isOpen c = table.isOpen c := by
  simp only [ClassTable.isOpen, line, outlasts.lineage, List.any_map]
  congr 1
  funext ancestor
  exact outlasts.isOpen ancestor

end Changes

variable (classes : ClassTable Code)

theorem now_ends (w : World) : classes.now.Ends w (classes.changed w.changes) w := rfl

/-- As long as no class changes, the table of the moment is the same one. -/
theorem changed_eq_of_keeps {touched : List Nat} {w w' : World} (kept : w.Keeps touched w') :
    classes.changed w'.changes = classes.changed w.changes := by
  rw [kept.changes]

/-- Reading the attribute of an instance of the class shows what is stored. -/
structure ReadsPlainly [Packages] (c : ClassId) (name : String) : Prop where
  uncommon : name ∉ commonAttributes
  passive : ∀ owner m, classes.owned? c name = some (owner, m) →
    owner ≠ .standard .modelBase ∧ m.IsPassive

/-- Storing the attribute of an instance of the class puts the value under its name. -/
structure StoresPlainly [Packages] (c : ClassId) (name : String) : Prop
    extends ReadsPlainly classes c name where
  isOpen : classes.isOpen c = true
  unguarded : ∀ ancestor ∈ classes.line c, ancestor.guard? = none

/-- Whatever changes, instances can store values under a name that reads plainly. -/
theorem ReadsPlainly.isPassive [Packages] {classes : ClassTable Code} {c : ClassId} {name : String}
    (plain : classes.ReadsPlainly c name) (changes : List (ClassId × ClassChange)) (m : Member Code)
    (member : (classes.changed changes).member? c name = some m) : m.IsPassive := by
  refine (outlasts_changed classes changes).isPassive (fun m member => ?_) m member
  obtain ⟨entry, owned, rfl⟩ := Option.map_eq_some_iff.mp member
  exact (plain.passive entry.1 entry.2 owned).2

/-- What reading an attribute shows of an instance, where it reads plainly. -/
def shown (r : Instance) (name : String) : Except Fault Value :=
  match Entries.get? r.attributes name, classes.owned? r.classId name with
  | some v, _ => .ok v
  | none, some (_, .constant shared) => .ok shared
  | none, some (_, .column) => .ok .null
  | none, some (owner, .abstractMethod) => .ok (.member .boundCode owner name)
  | none, _ =>
      match Entries.get? r.apart name with
      | some v => .ok v
      | none => .error (.noAttribute name)

variable {classes} {r : Instance} {name : String}

theorem shown_of_get? {v : Value} (stored : Entries.get? r.attributes name = some v) :
    classes.shown r name = .ok v := by
  simp only [shown, stored]

/-- What is shown depends on nothing but what is stored under the name. -/
theorem shown_congr {r' : Instance} (sameClass : r'.classId = r.classId)
    (sameApart : r'.apart = r.apart)
    (same : Entries.get? r'.attributes name = Entries.get? r.attributes name) :
    classes.shown r' name = classes.shown r name := by
  simp only [shown, sameClass, sameApart, same]

theorem stored_run (r : Instance) (name : String) (w : World) :
    (stored r name).run.run w =
      (match (Entries.get? r.attributes name).or (Entries.get? r.apart name) with
        | some v => .ok v
        | none => .error (.noAttribute name), w) := by
  rw [stored]
  cases (Entries.get? r.attributes name).or (Entries.get? r.apart name) <;> rfl

theorem readCommon_eq (uncommon : name ∉ commonAttributes) :
    classes.readCommon r name = stored r name := by
  simp only [commonAttributes, List.mem_cons, List.not_mem_nil, or_false, not_or] at uncommon
  obtain ⟨notClass, notStore, notModule, notDescription, notAnnotations⟩ := uncommon
  have unannotated : classes.annotationEntries? r.classId name = none := by
    cases r.classId with
    | standard c => rfl
    | declared index => simp [annotationEntries?, notAnnotations]
  simp only [readCommon, beq_eq_false_iff_ne.mpr notClass, beq_eq_false_iff_ne.mpr notStore,
    beq_eq_false_iff_ne.mpr notModule, beq_eq_false_iff_ne.mpr notDescription, unannotated,
    Bool.false_and, Bool.false_eq_true, if_false]
  split <;> rfl

theorem readInstance_run [Packages] (plain : classes.ReadsPlainly r.classId name) (address : Nat)
    (w : World) : (classes.readInstance address r name).run.run w = (classes.shown r name, w) := by
  rw [readInstance, shown]
  cases owned : classes.owned? r.classId name with
  | none =>
    simp only [readCommon_eq plain.uncommon, stored_run]
    cases Entries.get? r.attributes name <;> rfl
  | some entry =>
    obtain ⟨owner, m⟩ := entry
    obtain ⟨notModel, passive⟩ := plain.passive owner m owned
    split
    · next equal =>
      cases equal
      exact absurd rfl notModel
    · next equal =>
      cases equal
      cases passive
    · next equal =>
      cases equal
      rw [passive.readColumn]
      cases Entries.get? r.attributes name <;> rfl
    · next equal =>
      cases equal
      cases passive
    · next equal =>
      cases equal
      cases Entries.get? r.attributes name <;> rfl
    · next equal =>
      cases equal
      rw [stored_run]
      cases Entries.get? r.attributes name <;> rfl
    · next equal =>
      cases equal
      cases Entries.get? r.attributes name <;> rfl
    · next equal => cases equal

/-- Reading an attribute that reads plainly shows what is stored, and has no effect. -/
theorem readAttribute_run [Packages] {address : Nat} {w : World}
    (plain : (classes.changed w.changes).ReadsPlainly r.classId name)
    (found : w.heap.get? address = some (.record r)) :
    (classes.readAttribute (.object address) name).run.run w =
      ((classes.changed w.changes).shown r name, w) := by
  rw [readAttribute, (classes.now_ends w).run_bind, (Run.ends_object? address w).run_bind, found]
  exact readInstance_run plain address w

theorem putAttribute_ends {address : Nat} {w : World} (name : String) (v : Value)
    (found : w.heap.get? address = some (.record r)) :
    (putAttribute address name v).Ends w () {
      w with
      heap := w.heap.set address (.record {
        r with attributes := Entries.put r.attributes name v }) } := by
  rw [putAttribute, Run.Ends, (Run.ends_object? address w).run_bind, found]
  exact Run.ends_replace address _ w

/-- Without guards, storing goes straight to the instance. -/
theorem storeGuarded_eq [Packages] (address : Nat) (v : Value) {line : List (ClassInfo Code)}
    (unguarded : ∀ ancestor ∈ line, ancestor.guard? = none) :
    classes.storeGuarded r address name v line =
      classes.storeUnguarded (.object address) name v := by
  induction line with
  | nil => rfl
  | cons ancestor rest ih =>
    rw [storeGuarded, unguarded ancestor List.mem_cons_self]
    exact ih fun other mem => unguarded other (List.mem_cons_of_mem _ mem)

/-- Instances of the class have a place for the attribute, which code of theirs does not
fill. -/
def hasPlace {β : Type} [Inhabited β] (classes : ClassTable β) (c : ClassId) (name : String) :
    Bool :=
  match classes.member? c name with
  | some .slot | some .column => true
  | _ => classes.isOpen c

/-- Past all guards, an attribute is stored if there is a place for it. -/
theorem storeUnguarded_run [Packages] {address : Nat} {w : World} (v : Value)
    (notClass : name ≠ classAttribute) (found : w.heap.get? address = some (.record r))
    (passive : ∀ m, (classes.changed w.changes).member? r.classId name = some m →
      m.IsPassive) :
    (classes.storeUnguarded (.object address) name v).run.run w =
      if (classes.changed w.changes).hasPlace r.classId name then
        (.ok (), { w with
          heap := w.heap.set address (.record {
            r with attributes := Entries.put r.attributes name v }) })
      else (.error (.notWritable name), w) := by
  have put := putAttribute_ends name v found
  have open_or_not : StateT.run (ExceptT.run
      (if (classes.changed w.changes).isOpen r.classId then putAttribute address name v
      else throw (.notWritable name))) w =
      if (classes.changed w.changes).isOpen r.classId then
        (.ok (), { w with
          heap := w.heap.set address (.record {
            r with attributes := Entries.put r.attributes name v }) })
      else (.error (.notWritable name), w) := by
    split
    · exact put
    · rfl
  rw [storeUnguarded, (classes.now_ends w).run_bind, (Run.ends_object? address w).run_bind, found,
    hasPlace]
  cases member : (classes.changed w.changes).member? r.classId name with
  | none =>
    simp only [member, beq_eq_false_iff_ne.mpr notClass, Bool.false_eq_true, if_false]
    exact open_or_not
  | some m =>
    have silent := passive m member
    cases m with
    | property | collection => cases silent
    | slot =>
      simp only [member, if_true]
      exact put
    | column =>
      simp only [member, if_true, silent.storeColumn]
      exact put
    | constant | abstractMethod =>
      simp only [member]
      exact open_or_not

theorem storeUnguarded_ends [Packages] {address : Nat} {w : World} (v : Value)
    (notClass : name ≠ classAttribute) (found : w.heap.get? address = some (.record r))
    (passive : ∀ m, (classes.changed w.changes).member? r.classId name = some m →
      m.IsPassive)
    (isOpen : (classes.changed w.changes).isOpen r.classId = true) :
    (classes.storeUnguarded (.object address) name v).Ends w () {
      w with
      heap := w.heap.set address (.record {
        r with attributes := Entries.put r.attributes name v }) } := by
  have place : (classes.changed w.changes).hasPlace r.classId name = true := by
    rw [hasPlace]
    split
    · rfl
    · rfl
    · exact isOpen
  rw [Run.Ends, storeUnguarded_run v notClass found passive, if_pos place]

/-- In an open instance without guards, a member that is not in the way is stored under
its name. -/
theorem writeAttribute_ends_of_isOpen [Packages] {address : Nat} {w : World} (v : Value)
    (notClass : name ≠ classAttribute)
    (passive : ∀ m, (classes.changed w.changes).member? r.classId name = some m →
      m.IsPassive)
    (isOpen : (classes.changed w.changes).isOpen r.classId = true)
    (unguarded : ∀ ancestor ∈ (classes.changed w.changes).line r.classId, ancestor.guard? = none)
    (found : w.heap.get? address = some (.record r)) :
    (classes.writeAttribute (.object address) name v).Ends w () {
      w with
      heap := w.heap.set address (.record {
        r with attributes := Entries.put r.attributes name v }) } := by
  -- Storing takes the changes up once more, on a table that has them already.
  have outlasts := outlasts_changed (classes.changed w.changes) w.changes
  rw [writeAttribute, Run.Ends, (classes.now_ends w).run_bind,
    (Run.ends_object? address w).run_bind, found]
  show StateT.run (ExceptT.run ((classes.changed w.changes).storeGuarded r address name v _)) w = _
  rw [storeGuarded_eq address v unguarded]
  refine storeUnguarded_ends v notClass found (outlasts.isPassive passive) ?_
  rw [outlasts.isOpen_eq]
  exact isOpen

/-- Storing an attribute that is stored plainly puts the value under its name. -/
theorem writeAttribute_ends [Packages] {address : Nat} {w : World} (v : Value)
    (plain : (classes.changed w.changes).StoresPlainly r.classId name)
    (found : w.heap.get? address = some (.record r)) :
    (classes.writeAttribute (.object address) name v).Ends w () {
      w with
      heap := w.heap.set address (.record {
        r with attributes := Entries.put r.attributes name v }) } := by
  refine writeAttribute_ends_of_isOpen v (ne_classAttribute_of_uncommon plain.uncommon)
    (fun m member => ?_) plain.isOpen plain.unguarded found
  obtain ⟨entry, owned, rfl⟩ := Option.map_eq_some_iff.mp member
  exact (plain.passive entry.1 entry.2 owned).2

/-- The attributes of the instances of a class are plainly stored: no code is called to
read or write one, and nothing keeps instances from storing one. -/
structure IsPlain [Packages] (classes : ClassTable Code) (c : ClassId) : Prop where
  passive : ∀ name owner m, classes.owned? c name = some (owner, m) →
    owner ≠ .standard .modelBase ∧ m.IsPassive
  isOpen : classes.isOpen c = true
  unguarded : ∀ ancestor ∈ classes.line c, ancestor.guard? = none

theorem IsPlain.storesPlainly [Packages] {c : ClassId} (plain : classes.IsPlain c)
    (uncommon : name ∉ commonAttributes) : classes.StoresPlainly c name where
  uncommon := uncommon
  passive := plain.passive name
  isOpen := plain.isOpen
  unguarded := plain.unguarded

/-- A class that declares nothing is plain. -/
theorem isPlain_of_undeclared [Packages] (index : Nat) :
    ({} : ClassTable Code).IsPlain (.declared index) where
  passive := by
    intro name owner m owned
    have nothing : ({} : ClassTable Code).owned? (.declared index) name = none := rfl
    rw [nothing] at owned
    cases owned
  isOpen := by simp [ClassTable.isOpen, line, info]
  unguarded := by
    intro ancestor mem
    simp [line, info] at mem
    rcases mem with rfl | rfl <;> rfl

/-- Instances of a class that declares nothing store every attribute plainly that
they do not have anyway. -/
theorem storesPlainly_of_undeclared [Packages] (index : Nat) (uncommon : name ∉ commonAttributes) :
    ({} : ClassTable Code).StoresPlainly (.declared index) name :=
  (isPlain_of_undeclared index).storesPlainly uncommon

end ClassTable

end ObjectMapping
