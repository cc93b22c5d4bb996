import ObjectMapping.Proofs.Declaration.DistinctNames

/-!
# Fields of declared classes

A record or a model that declares a field again has it once, in the place of the
inherited one. So no class of a program has a field twice (`Blueprint.fieldsApart_runnable`),
and unlike for the names of its members nothing has to be known of what the
declarations say.
-/

namespace ObjectMapping

/-- No two fields of the class have the same name. -/
structure ClassInfo.FieldsApart {β : Type} (c : ClassInfo β) : Prop where
  record : ∀ layout, c.record? = some layout → (layout.fields.map (·.name)).Nodup
  model : ∀ layout, c.model? = some layout → (layout.fields.map (·.name)).Nodup

/-- No two fields of any declared class have the same name. -/
def ClassTable.FieldsApart {β : Type} (table : ClassTable β) : Prop :=
  ∀ c ∈ table.classes, c.FieldsApart

variable {β γ : Type}

/-- A class that is neither a record nor a model has no fields. -/
theorem ClassInfo.FieldsApart.of_eq_none {c : ClassInfo β} (noRecord : c.record? = none)
    (noModel : c.model? = none) : c.FieldsApart where
  record _ isRecord := by cases noRecord.symm.trans isRecord
  model _ isModel := by cases noModel.symm.trans isModel

theorem ClassInfo.FieldsApart.changed {c : ClassInfo β} (apart : c.FieldsApart)
    (change : ClassChange) : (c.changed change).FieldsApart := by
  cases change with
  | stored | filledLike => exact ⟨apart.record, apart.model⟩
  | completed =>
    refine ⟨apart.record, fun layout isModel => ?_⟩
    obtain ⟨earlier, isEarlier, rfl⟩ := Option.map_eq_some_iff.mp isModel
    simpa [ModelLayout.completed, Function.comp_def] using apart.model earlier isEarlier

namespace ClassTable.FieldsApart

variable {table : ClassTable β} (apart : table.FieldsApart)

include apart

theorem changed (changes : List (ClassId × ClassChange)) : (table.changed changes).FieldsApart :=
  forall_mem_changed (fun _ change apart => apart.changed change) apart changes

theorem map (f : β → γ) : (table.map f).FieldsApart := by
  intro c mem
  obtain ⟨earlier, isEarlier, rfl⟩ := Array.mem_map.mp mem
  exact ⟨(apart earlier isEarlier).record, (apart earlier isEarlier).model⟩

variable [Inhabited β]

/-- Standard classes have no fields. -/
theorem info (c : ClassId) : (table.info c).FieldsApart := by
  cases c with
  | standard s => exact .of_eq_none rfl rfl
  | declared index =>
    rw [ClassTable.info]
    split
    · next found => exact apart _ (Array.mem_of_getElem? found)
    · exact .of_eq_none rfl rfl

/-- The fields that a record has or inherits. -/
theorem recordLayout {c : ClassId} {layout : RecordLayout}
    (isRecord : table.recordLayout? c = some layout) : (layout.fields.map (·.name)).Nodup := by
  obtain ⟨ancestor, mem, own⟩ := List.exists_of_findSome?_eq_some isRecord
  obtain ⟨a, -, rfl⟩ := List.mem_map.mp mem
  exact (apart.info a).record layout own

theorem modelLayout {c : ClassId} {layout : ModelLayout}
    (isModel : table.modelLayout? c = some layout) : (layout.fields.map (·.name)).Nodup :=
  (apart.info c).model layout isModel

end ClassTable.FieldsApart

/-! ## Programs -/

/-- What a declaration amounts to has each field once, whatever its kind. -/
theorem EvaluatedClass.fieldsApart_complete (e : EvaluatedClass) (heritage : Heritage) :
    (e.complete heritage).FieldsApart := by
  have asRecord : (e.asRecord heritage (e.base heritage)).FieldsApart := by
    constructor
    · rintro _ ⟨⟩
      exact ClassDeclaration.nodup_recordFields heritage _
    · rintro _ ⟨⟩
  have asModel : (e.asModel heritage (e.base heritage)).FieldsApart := by
    constructor
    · rintro _ ⟨⟩
    · rintro _ ⟨⟩
      exact e.declaration.nodup_modelLayout_fields heritage e.constants e.fields
  rw [complete]
  cases e.declaration.kind with
  | record => exact asRecord
  | model => exact asModel
  | slotted | entity | mappedPlain | interface => exact .of_eq_none rfl rfl
  | plain =>
    dsimp only
    split
    · exact asModel
    · split <;> exact .of_eq_none rfl rfl

namespace Blueprint

variable {blueprint : Blueprint}

theorem fieldsApart_push (apart : blueprint.FieldsApart) {c : ClassInfo Body}
    (cApart : c.FieldsApart) : (blueprint.push c).FieldsApart := by
  intro c' mem
  rcases Array.mem_push.mp mem with earlier | rfl
  · exact apart c' earlier
  · refine ⟨cApart.record, fun layout isModel => ?_⟩
    obtain ⟨layout', isModel', rfl⟩ := Option.map_eq_some_iff.mp isModel
    exact cApart.model layout' isModel'

/-- No class of a program has a field twice. -/
theorem fieldsApart_runnable [Packages] {declarations : List ClassDeclaration} {w w' : World}
    (ended : (declareAll declarations).Ends w blueprint w') : blueprint.runnable.FieldsApart := by
  have apart : blueprint.FieldsApart :=
    declareAll_induction ended (motive := ClassTable.FieldsApart) (by simp [ClassTable.FieldsApart])
      (fun _ changes apart => apart.changed changes)
      fun _ e _ _ apart => fieldsApart_push apart (e.fieldsApart_complete _)
  obtain ⟨f, isMap⟩ := blueprint.exists_map_eq_runnable
  rw [isMap]
  exact apart.map f

end Blueprint

end ObjectMapping
