import ObjectMapping.Class.Table
import ObjectMapping.Proofs.Collection.Lookup

/-!
# Names that come once

A class declares each name once: among its annotations, among its members and
among the fields of its layout. `ClassTable.NamesApart` says so of all classes of
a table. Standard classes are of this kind, and runs that change classes leave
them so.
-/

namespace ObjectMapping

/-- No name comes twice among what the class declares. -/
structure ClassInfo.NamesApart {β : Type} (c : ClassInfo β) : Prop where
  annotations : (Entries.keys c.annotations).Nodup
  members : (Entries.keys c.members).Nodup
  recordFields : ∀ layout, c.record? = some layout → (layout.fields.map (·.name)).Nodup
  modelFields : ∀ layout, c.model? = some layout → (layout.fields.map (·.name)).Nodup
  computed : ∀ layout, c.model? = some layout → (Entries.keys layout.computed).Nodup

namespace ClassInfo.NamesApart

variable {β γ : Type} {c : ClassInfo β}

/-- A class that declares nothing. -/
theorem of_bare (annotations : c.annotations = []) (members : c.members = [])
    (record : c.record? = none) (model : c.model? = none) : c.NamesApart where
  annotations := annotations ▸ List.nodup_nil
  members := members ▸ List.nodup_nil
  recordFields := by simp [record]
  modelFields := by simp [model]
  computed := by simp [model]

/-- The code of a class is of no account. -/
theorem map (apart : c.NamesApart) (f : β → γ) : (c.map f).NamesApart where
  annotations := apart.annotations
  members := by
    have same : Entries.keys (c.map f).members = Entries.keys c.members := by
      simp [ClassInfo.map, Entries.keys]
    rw [same]
    exact apart.members
  recordFields := apart.recordFields
  modelFields := apart.modelFields
  computed := apart.computed

/-- A change of a class adds no name that is there already. -/
theorem changed (apart : c.NamesApart) (change : ClassChange) : (c.changed change).NamesApart := by
  cases change with
  | stored name v => exact { apart with members := Entries.nodup_keys_alter _ name apart.members }
  | filledLike ancestor? => exact { apart with }
  | completed =>
    refine { apart with modelFields := ?_, computed := ?_ }
    · intro layout isModel
      obtain ⟨earlier, isEarlier, rfl⟩ := Option.map_eq_some_iff.mp isModel
      simpa [ModelLayout.completed, Function.comp_def] using apart.modelFields earlier isEarlier
    · intro layout isModel
      obtain ⟨earlier, isEarlier, rfl⟩ := Option.map_eq_some_iff.mp isModel
      exact apart.computed earlier isEarlier

end ClassInfo.NamesApart

theorem StandardClass.namesApart_info {β : Type} (inert : β) (c : StandardClass) :
    (c.info inert).NamesApart where
  annotations := List.nodup_nil
  members := by
    have same : Entries.keys (c.info inert).members = c.properties.map (·.1) := by
      simp [StandardClass.info, Entries.keys]
    rw [same]
    cases c <;> decide
  recordFields := by simp [StandardClass.info]
  modelFields := by simp [StandardClass.info]
  computed := by simp [StandardClass.info]

namespace ClassTable

variable {β γ : Type} [Inhabited β]

/-- No name comes twice among what any class of the table declares. -/
def NamesApart (table : ClassTable β) : Prop :=
  ∀ c, (table.info c).NamesApart

/-- Only the declared classes have to be looked at. -/
theorem namesApart_of_declared {table : ClassTable β}
    (each : ∀ c ∈ table.classes, c.NamesApart) : table.NamesApart := by
  intro c
  cases c with
  | standard s => exact s.namesApart_info default
  | declared index =>
    rw [info]
    split
    · next found => exact each _ (Array.mem_of_getElem? found)
    · exact .of_bare rfl rfl rfl rfl

theorem NamesApart.of_mem {table : ClassTable β} (apart : table.NamesApart) {c : ClassInfo β}
    (mem : c ∈ table.classes) : c.NamesApart := by
  obtain ⟨index, found⟩ := Array.getElem?_of_mem mem
  have same : table.info (.declared index) = c := by simp [info, found]
  exact same ▸ apart (.declared index)

theorem NamesApart.map [Inhabited γ] {table : ClassTable β} (apart : table.NamesApart) (f : β → γ) :
    (table.map f).NamesApart := by
  refine namesApart_of_declared fun c mem => ?_
  obtain ⟨earlier, isEarlier, rfl⟩ := Array.mem_map.mp mem
  exact (apart.of_mem isEarlier).map f

omit [Inhabited β] in
/-- What changes keep of each class holds of the declared classes after some changes. -/
theorem forall_mem_changed {motive : ClassInfo β → Prop}
    (keeps : ∀ c change, motive c → motive (c.changed change)) {table : ClassTable β}
    (each : ∀ c ∈ table.classes, motive c) (changes : List (ClassId × ClassChange)) :
    ∀ c ∈ (table.changed changes).classes, motive c := by
  induction changes generalizing table with
  | nil => exact each
  | cons entry rest ih =>
    obtain ⟨c, change⟩ := entry
    cases c with
    | standard s => exact ih each
    | declared index =>
      refine ih fun c mem => ?_
      obtain ⟨place, found⟩ := Array.getElem?_of_mem mem
      rw [Array.getElem?_modify] at found
      split at found
      · obtain ⟨earlier, isEarlier, rfl⟩ := Option.map_eq_some_iff.mp found
        exact keeps earlier change (each earlier (Array.mem_of_getElem? isEarlier))
      · exact each c (Array.mem_of_getElem? found)

/-- Runs that change classes leave names apart. -/
theorem NamesApart.changed {table : ClassTable β} (apart : table.NamesApart)
    (changes : List (ClassId × ClassChange)) : (table.changed changes).NamesApart :=
  namesApart_of_declared <|
    forall_mem_changed (fun _ change apart => apart.changed change) (fun _ => apart.of_mem) changes

end ClassTable

end ObjectMapping
