import ObjectMapping.Declaration.Declaring
import ObjectMapping.Proofs.Class.DistinctNames
import ObjectMapping.Proofs.Value.Effect

/-!
# Names of declared classes

Declaring keeps names apart. A declaration may say the same of a name in several ways:
as a field, as a constant and as a property, and again in the classes behind it. The
class that it amounts to has each name once, provided that no two of its fields have
the same name (`Blueprint.namesApart_of_declareAll`). So what is shown for tables whose
names come once holds of every program (`Blueprint.namesApart_runnable`).
-/

namespace ObjectMapping

/-! ## Fields in the places of others -/

section Named

variable {α : Type} {name : α → String} {fields : List α}

/-- A field that takes the place of another one has its name. -/
theorem names_putNamed (name : α → String) (fields : List α) (f : α) :
    (putNamed name fields f).map name =
      Entries.keys (Entries.put (fields.map fun g => (name g, g)) (name f) f) := by
  rw [putNamed, Entries.keys, List.map_map]
  refine List.map_congr_left fun entry mem => ?_
  rcases Entries.mem_of_mem_put mem with rfl | earlier
  · rfl
  · obtain ⟨g, -, rfl⟩ := List.mem_map.mp earlier
    rfl

theorem nodup_putNamed (distinct : (fields.map name).Nodup) (f : α) :
    ((putNamed name fields f).map name).Nodup := by
  rw [names_putNamed]
  refine Entries.nodup_keys_alter _ _ ?_
  simpa [Entries.keys, Function.comp_def] using distinct

theorem nodup_foldl_putNamed (distinct : (fields.map name).Nodup) (added : List α) :
    ((added.foldl (putNamed name) fields).map name).Nodup := by
  induction added generalizing fields with
  | nil => exact distinct
  | cons f rest ih => exact ih (nodup_putNamed distinct f)

end Named

namespace ClassDeclaration

variable (d : ClassDeclaration) (heritage : Heritage) (constants : List (String × Value))

/-! ## Layouts -/

/-- A record has each field once, also if it declares it again. -/
theorem nodup_recordFields (own : List RecordField) :
    ((recordFields heritage own).map (·.name)).Nodup := by
  refine nodup_foldl_putNamed ?_ own
  refine List.foldlRecOn
    (motive := fun fields : List RecordField => (fields.map RecordField.name).Nodup) _ _
    List.nodup_nil fun fields distinct ancestor _ => ?_
  split
  · next layout _ => exact nodup_foldl_putNamed distinct layout.fields
  · exact distinct

/-- What a slotted class declares itself are some of its fields. -/
theorem nodup_ownSlottedFields {fields : List EvaluatedField}
    (distinct : (fields.map (·.field.name)).Nodup) :
    ((d.ownSlottedFields constants fields).map (·.name)).Nodup := by
  have counted : (d.countedFields constants fields).Sublist fields := by
    rw [countedFields]
    split <;> exact List.filter_sublist
  simpa [ownSlottedFields, Function.comp_def] using distinct.sublist (counted.map _)

/-- The fields of the bases are found under their names. -/
theorem name_of_mem_baseFields {entry : String × ModelField}
    (mem : entry ∈ baseFields heritage) : entry.2.name = entry.1 := by
  have each : ∀ entry ∈ baseFields heritage, entry.2.name = entry.1 := by
    refine List.foldlRecOn
      (motive := fun found : Entries String ModelField =>
        ∀ entry ∈ found, entry.2.name = entry.1) _ _
      (by simp) fun found named base _ => ?_
    split
    · intro entry mem
      rcases Entries.mem_of_mem_merge mem with earlier | own
      · exact named entry earlier
      · obtain ⟨f, -, rfl⟩ := List.mem_map.mp own
        rfl
    · exact named
  exact each entry mem

/-- The field that an annotation declares has the name of the annotation. -/
theorem name_modelField (fields : List EvaluatedField) (name : String) (hint : ModelHint) :
    (d.modelField heritage constants fields name hint).name = name := by
  rw [modelField]
  split
  · next inherited found =>
    split
    · rfl
    · exact name_of_mem_baseFields heritage (Entries.mem_of_get?_eq_some found)
  · rfl

theorem nodup_keys_modelHints (fields : List EvaluatedField) :
    (Entries.keys (modelHints heritage fields)).Nodup := by
  refine Entries.nodup_keys_merge _ ?_
  refine List.foldlRecOn
    (motive := fun hints : Entries String ModelHint => (Entries.keys hints).Nodup) _ _
    List.nodup_nil fun hints distinct ancestor _ => ?_
  exact Entries.nodup_keys_merge _ distinct

theorem nodup_keys_computedFields : (Entries.keys (d.computedFields heritage)).Nodup := by
  refine Entries.nodup_keys_merge _ ?_
  refine List.foldlRecOn
    (motive := fun found : Entries String TypeExpr => (Entries.keys found).Nodup) _ _
    List.nodup_nil fun found distinct ancestor _ => ?_
  split
  · exact Entries.nodup_keys_merge _ distinct
  · exact distinct

/-- A model has one field for each of its annotations that declares one. -/
theorem nodup_modelLayout_fields (fields : List EvaluatedField) :
    ((d.modelLayout heritage constants fields).fields.map (·.name)).Nodup := by
  rw [modelLayout, List.map_map]
  have same : ∀ hints : Entries String ModelHint,
      hints.map ((·.name) ∘ fun entry =>
        d.modelField heritage constants fields entry.1 entry.2) = Entries.keys hints :=
    fun hints => List.map_congr_left fun entry _ => d.name_modelField heritage constants fields _ _
  rw [same]
  exact Entries.nodup_keys_filter (nodup_keys_modelHints heritage fields) _

end ClassDeclaration

/-! ## Members -/

/-- Slots stand in the places of members that are taken away. -/
theorem nodup_keys_slotted {members : Entries String (Member Body)} {names slots : List String}
    (distinct : (Entries.keys members).Nodup) (distinctSlots : slots.Nodup)
    (without : ∀ n ∈ slots, n ∈ names) :
    (Entries.keys (membersWithout members names ++ slotsFor slots)).Nodup := by
  have keys : Entries.keys (membersWithout members names ++ slotsFor slots) =
      Entries.keys (membersWithout members names) ++ slots := by
    simp [Entries.keys, slotsFor, Function.comp_def]
  rw [keys, List.nodup_append]
  refine ⟨Entries.nodup_keys_filter distinct _, distinctSlots, fun n mem m slot same => ?_⟩
  obtain ⟨entry, kept, rfl⟩ := List.mem_map.mp mem
  have notThere := (List.mem_filter.mp kept).2
  simp [same, without m slot] at notThere

namespace EvaluatedClass

variable (e : EvaluatedClass) (heritage : Heritage)

theorem nodup_keys_writtenMembers : (Entries.keys e.writtenMembers).Nodup :=
  Entries.nodup_keys_mergeAbsent _ (Entries.nodup_keys_ofList _)

theorem namesApart_base : (e.base heritage).NamesApart where
  annotations := Entries.nodup_keys_ofList _
  members := e.nodup_keys_writtenMembers
  recordFields := nofun
  modelFields := nofun
  computed := nofun

variable {c : ClassInfo Body} (apart : c.NamesApart)

include apart

theorem namesApart_asRecord : (e.asRecord heritage c).NamesApart := by
  have fields := ClassDeclaration.nodup_recordFields heritage
    (e.declaration.ownRecordFields heritage e.constants e.fields)
  refine { annotations := apart.annotations, members := ?_, recordFields := ?_,
           modelFields := apart.modelFields, computed := apart.computed }
  · show (Entries.keys (if _ then _ else _)).Nodup
    split
    · have stored := fields.sublist
        ((List.filter_sublist (p := fun f => f.kind == .stored)).map _)
      exact nodup_keys_slotted apart.members (stored.filter _)
        fun n mem => (List.mem_filter.mp mem).1
    · exact Entries.nodup_keys_filter apart.members _
  · rintro _ ⟨⟩
    exact fields

theorem namesApart_asSlotted (distinct : (e.fields.map (·.field.name)).Nodup) :
    (e.asSlotted heritage c).NamesApart := by
  refine { apart with members := ?_ }
  refine nodup_keys_slotted apart.members
    (e.declaration.nodup_ownSlottedFields e.constants distinct) fun n mem => ?_
  rw [ClassDeclaration.slottedFields, List.map_append]
  exact List.mem_append_right _ mem

theorem namesApart_asModel : (e.asModel heritage c).NamesApart where
  annotations := apart.annotations
  members := Entries.nodup_keys_filter apart.members _
  recordFields := apart.recordFields
  modelFields := by
    rintro _ ⟨⟩
    exact e.declaration.nodup_modelLayout_fields heritage e.constants e.fields
  computed := by
    rintro _ ⟨⟩
    exact e.declaration.nodup_keys_computedFields heritage

theorem namesApart_asEntity : (e.asEntity heritage c).NamesApart :=
  { apart with members := Entries.nodup_keys_merge _ apart.members }

theorem namesApart_asMapped : (e.asMapped heritage c).NamesApart :=
  { apart with members := Entries.nodup_keys_merge _ apart.members }

omit apart in
/-- A declaration whose fields have different names amounts to a class whose names come
once, whatever its kind. -/
theorem namesApart_complete (distinct : (e.fields.map (·.field.name)).Nodup) :
    (e.complete heritage).NamesApart := by
  have base := e.namesApart_base heritage
  rw [complete]
  cases e.declaration.kind with
  | record => exact e.namesApart_asRecord heritage base
  | slotted => exact e.namesApart_asSlotted heritage base distinct
  | model => exact e.namesApart_asModel heritage base
  | entity => exact e.namesApart_asEntity heritage base
  | mappedPlain => exact e.namesApart_asMapped heritage base
  | interface => exact { base with }
  | plain =>
    dsimp only
    split
    · exact e.namesApart_asModel heritage base
    · split
      · exact e.namesApart_asEntity heritage base
      · exact base

end EvaluatedClass

/-! ## Programs -/

namespace Blueprint

variable {blueprint blueprint' : Blueprint} {w w' : World}

theorem namesApart_push (apart : blueprint.NamesApart) {c : ClassInfo Body}
    (cApart : c.NamesApart) : (blueprint.push c).NamesApart := by
  refine ClassTable.namesApart_of_declared fun c' mem => ?_
  rcases Array.mem_push.mp mem with earlier | rfl
  · exact apart.of_mem earlier
  · refine { cApart with modelFields := ?_, computed := ?_ }
    · intro layout isModel
      obtain ⟨layout', isModel', rfl⟩ := Option.map_eq_some_iff.mp isModel
      exact cApart.modelFields layout' isModel'
    · intro layout isModel
      obtain ⟨layout', isModel', rfl⟩ := Option.map_eq_some_iff.mp isModel
      exact cApart.computed layout' isModel'

/-- Evaluating the defaults of fields leaves the fields as they are. -/
theorem fields_of_evaluateFields [Packages] {classes : ClassTable Code}
    {fields : List FieldDeclaration} {evaluated : List EvaluatedField}
    (ended : (evaluateFields classes fields).Ends w evaluated w') :
    evaluated.map (·.field) = fields := by
  induction fields generalizing w evaluated with
  | nil =>
    cases ended
    rfl
  | cons f rest ih =>
    rw [evaluateFields, List.mapM_cons] at ended
    obtain ⟨e, u, first, ended⟩ := ended.exists_of_bind
    obtain ⟨others, u', rest, isResult⟩ := ended.exists_of_bind
    cases isResult
    have isField : e.field = f := by
      cases default? : f.default? with
      | none =>
        rw [default?] at first
        cases first
        rfl
      | some expression =>
        rw [default?] at first
        obtain ⟨v, _, -, first⟩ := first.exists_of_bind
        obtain ⟨default, _, -, isField⟩ := first.exists_of_bind
        cases isField
        rfl
    rw [List.map_cons, isField, ih rest]

/-- Declaring one more class adds what the declaration amounts to behind the classes that
there are, after all changes that runs have made to them. -/
theorem exists_of_declare [Packages] {d : ClassDeclaration}
    (ended : (blueprint.declare d).Ends w blueprint' w') :
    ∃ (e : EvaluatedClass) (changes : List (ClassId × ClassChange)), e.declaration = d ∧
      e.fields.map (·.field) = d.fields ∧ blueprint' =
        Blueprint.push (blueprint.changed changes)
          (e.complete (d.heritage (blueprint.changed changes))) := by
  rw [declare] at ended
  obtain ⟨fields, u, areFields, ended⟩ := ended.exists_of_bind
  obtain ⟨constants, u₁, -, ended⟩ := ended.exists_of_bind
  obtain ⟨parameters, u₂, -, ended⟩ := ended.exists_of_bind
  obtain ⟨current, u₃, isCurrent, ended⟩ := ended.exists_of_bind
  cases isCurrent
  dsimp only at ended
  split at ended
  · obtain ⟨_, _, fails, -⟩ := ended.exists_of_bind
    cases fails
  · cases ended
    exact ⟨_, _, rfl, fields_of_evaluateFields areFields, rfl⟩

/-- What the empty table satisfies, and what changes and further declarations keep, every
table of declarations satisfies. -/
theorem declareAll_induction [Packages] {motive : Blueprint → Prop}
    {declarations : List ClassDeclaration}
    (ended : (declareAll declarations).Ends w blueprint w') (empty : motive ⟨#[]⟩)
    (changed : ∀ (earlier : Blueprint) changes, motive earlier → motive (earlier.changed changes))
    (pushed : ∀ (earlier : Blueprint) (e : EvaluatedClass), e.declaration ∈ declarations →
      e.fields.map (·.field) = e.declaration.fields → motive earlier →
      motive (earlier.push (e.complete (e.declaration.heritage earlier)))) :
    motive blueprint := by
  rw [declareAll] at ended
  generalize (⟨#[]⟩ : Blueprint) = start at empty ended
  induction declarations generalizing start w with
  | nil =>
    cases ended
    exact empty
  | cons d rest ih =>
    rw [List.foldlM_cons] at ended
    obtain ⟨next, u, first, ended⟩ := ended.exists_of_bind
    refine ih (fun earlier e mem => pushed earlier e (List.mem_cons_of_mem d mem)) next ?_ ended
    obtain ⟨e, changes, rfl, sameFields, rfl⟩ := exists_of_declare first
    exact pushed _ e List.mem_cons_self sameFields (changed start changes empty)

/-- No name comes twice in what declarations amount to whose fields have different names. -/
theorem namesApart_of_declareAll [Packages] {declarations : List ClassDeclaration}
    (distinct : ∀ d ∈ declarations, (d.fields.map (·.name)).Nodup)
    (ended : (declareAll declarations).Ends w blueprint w') : blueprint.NamesApart := by
  refine declareAll_induction ended (ClassTable.namesApart_of_declared (by simp))
    (fun _ changes apart => apart.changed changes) fun earlier e mem sameFields apart => ?_
  refine namesApart_push apart (EvaluatedClass.namesApart_complete _ _ ?_)
  have fields := distinct e.declaration mem
  rwa [← sameFields, List.map_map] at fields

/-- A program that runs is the program as it was written, with its code put to work. -/
theorem exists_map_eq_runnable [Packages] (blueprint : Blueprint) :
    ∃ f : Body → Code, blueprint.runnable = ClassTable.map f blueprint := by
  rw [runnable]
  cases depthLimit <;> exact ⟨_, rfl⟩

/-- A program that runs has the names that it was written with. -/
theorem namesApart_runnable [Packages] (apart : blueprint.NamesApart) :
    blueprint.runnable.NamesApart := by
  obtain ⟨f, isMap⟩ := blueprint.exists_map_eq_runnable
  rw [isMap]
  exact apart.map f

end Blueprint

end ObjectMapping
