import ObjectMapping.Discovery.Registry

/-!
# How discovered properties are written

The provider that is for a type decides how its properties are written. All are
written in place, or each by calling the class of a frozen record again, or, for
models, each as its field says. `DiscoveredTargets` tells these apart;
`Registry.discoveredTargets_of_standard` says that there is nothing else.
-/

namespace ObjectMapping

/-- A computation gives a value, whatever it reports. -/
def Logged.Gives {ε α : Type} (computation : Logged ε α) (a : α) : Prop :=
  ∃ records, (computation.run.run records).1 = .ok a

namespace Logged

variable {ε α β : Type}

theorem gives_of_outcome {computation : Logged ε α} {a : α}
    (given : computation.outcome.1 = .ok a) : computation.Gives a :=
  ⟨[], given⟩

theorem eq_of_gives_pure {a b : α} (given : (pure a : Logged ε α).Gives b) : b = a := by
  obtain ⟨records, ended⟩ := given
  exact (Except.ok.inj ended).symm

/-- What two computations in a row give comes from what the first one gives. -/
theorem Gives.exists_of_bind {first : Logged ε α} {next : α → Logged ε β} {b : β}
    (given : Gives (first >>= next) b) : ∃ a, first.Gives a ∧ (next a).Gives b := by
  obtain ⟨records, ended⟩ := given
  rw [ExceptT.run_bind, StateT.run_bind] at ended
  cases ran : first.run.run records with
  | mk outcome later =>
    rw [ran] at ended
    cases outcome with
    | error e => cases ended
    | ok a => exact ⟨a, ⟨records, by rw [ran]⟩, ⟨later, ended⟩⟩

/-- Values that are put into another form are given in that form. -/
theorem Gives.exists_of_bind_pure {first : Logged ε α} {f : α → β} {b : β}
    (given : Gives (first >>= fun a => pure (f a)) b) : ∃ a, first.Gives a ∧ b = f a := by
  obtain ⟨a, isFirst, isSecond⟩ := given.exists_of_bind
  exact ⟨a, isFirst, eq_of_gives_pure isSecond⟩

end Logged

/-- How the discovered target properties of a type are written. -/
inductive DiscoveredTargets [Packages] (classes : ClassTable Code) (type : TypeExpr)
    (discovered : List TargetProperty) : Prop where
  | inPlace (each : ∀ t ∈ discovered, t.mode = .assignment)
  | record {c layout} (isClass : type.classId? = some c)
      (isRecord : classes.recordLayout? c = some layout) (isFrozen : layout.isFrozen = true)
      (each : ∀ t ∈ discovered, t.mode = .replacement classes.replaceField ∧
        ∃ f ∈ layout.fields, f.name = t.name ∧ f.kind = .stored ∧ f.accepted = true)
  | model {c layout} (isClass : type.classId? = some c)
      (isModel : classes.modelLayout? c = some layout)
      (each : ∀ t ∈ discovered, ∃ f ∈ layout.fields, f.name = t.name ∧ t.mode =
        if layout.isFrozen || f.isFrozen then .replacement classes.copyWithUpdate
        else .assignment)

variable {classes : ClassTable Code} {type : TypeExpr}

/-- Each discovered property comes from an entry of what can be written. -/
theorem Provider.exists_writable [Packages] {provider : Provider} {discovered : List TargetProperty}
    (given : (provider.targets classes type).Gives discovered) :
    ∃ entries, (provider.writable classes type).Gives entries ∧
      ∀ t ∈ discovered, ∃ entry ∈ entries, t.name = entry.1 ∧ t.mode = entry.2.mode := by
  obtain ⟨entries, isWritable, rfl⟩ := given.exists_of_bind_pure
  refine ⟨entries, isWritable, ?_⟩
  intro t mem
  obtain ⟨i, bound, rfl⟩ := List.mem_mapIdx.mp mem
  exact ⟨entries[i], List.getElem_mem bound, rfl, rfl⟩

theorem Provider.mode_of_mem_assigned {types : Entries String TypeExpr}
    {entry : String × Writable} (mem : entry ∈ assigned types) : entry.2.mode = .assignment := by
  obtain ⟨typed, -, rfl⟩ := List.mem_map.mp mem
  rfl

/-- The fields of which the types are listed satisfy the condition. -/
theorem ClassTable.exists_field_of_mem_fieldTypes {c : ClassId} {layout : RecordLayout}
    {accepts : RecordField → Bool} {types : Entries String TypeExpr}
    (given : (classes.fieldTypes c layout accepts).Gives types) {entry : String × TypeExpr}
    (mem : entry ∈ types) :
    ∃ f ∈ layout.fields, f.name = entry.1 ∧ f.kind = .stored ∧ accepts f = true := by
  obtain ⟨annotations, -, rfl⟩ := given.exists_of_bind_pure
  obtain ⟨f, selected, rfl⟩ := List.mem_map.mp mem
  obtain ⟨isField, condition⟩ := List.mem_filter.mp selected
  simp only [Bool.and_eq_true, beq_iff_eq] at condition
  exact ⟨f, isField, rfl, condition.1.1, condition.2⟩

/-- What can be written of a frozen record are accepted fields, by replacement. What can be
written of any other record is written in place. -/
theorem ClassTable.of_mem_recordTargets [Packages] {c : ClassId} {layout : RecordLayout}
    {entries : Entries String Writable} (given : (classes.recordTargets c layout).Gives entries)
    {entry : String × Writable} (mem : entry ∈ entries) :
    entry.2.mode =
        (if layout.isFrozen then .replacement classes.replaceField else .assignment) ∧
      (layout.isFrozen = true → ∃ f ∈ layout.fields,
        f.name = entry.1 ∧ f.kind = .stored ∧ f.accepted = true) := by
  rw [recordTargets] at given
  split at given
  · next isFrozen =>
    obtain ⟨types, areTypes, rfl⟩ := given.exists_of_bind_pure
    obtain ⟨typed, memTypes, rfl⟩ := List.mem_map.mp mem
    exact ⟨(if_pos isFrozen).symm, fun _ => exists_field_of_mem_fieldTypes areTypes memTypes⟩
  · next notFrozen =>
    obtain ⟨fields, -, later⟩ := given.exists_of_bind
    obtain ⟨results, -, rfl⟩ := later.exists_of_bind_pure
    obtain ⟨typed, -, rfl⟩ := List.mem_map.mp mem
    exact ⟨(if_neg notFrozen).symm, fun isFrozen => absurd isFrozen notFrozen⟩

/-- What can be written of a model are its fields: by replacement what is frozen, and in place
what is not. -/
theorem Provider.of_mem_writable_model [Packages] {c : ClassId} (isClass : type.classId? = some c)
    {entries : Entries String Writable}
    (given : (Provider.model.writable classes type).Gives entries) {entry : String × Writable}
    (mem : entry ∈ entries) :
    ∃ layout, classes.modelLayout? c = some layout ∧ ∃ f ∈ layout.fields, f.name = entry.1 ∧
      entry.2.mode =
        if layout.isFrozen || f.isFrozen then .replacement classes.copyWithUpdate
        else .assignment := by
  simp only [writable, isClass] at given
  obtain rfl := Logged.eq_of_gives_pure given
  cases isModel : classes.modelLayout? c with
  | none =>
    rw [isModel] at mem
    cases mem
  | some layout =>
    rw [isModel] at mem
    obtain ⟨f, isField, rfl⟩ := List.mem_map.mp mem
    exact ⟨layout, rfl, f, isField, rfl, rfl⟩

/-- Frozen records are written by replacement, which only accepted fields allow, and
all others in place. -/
theorem ClassTable.discoveredTargets_of_record [Packages] {c : ClassId} {layout : RecordLayout}
    (isClass : type.classId? = some c) (isRecord : classes.recordLayout? c = some layout)
    {entries : Entries String Writable} (given : (classes.recordTargets c layout).Gives entries)
    {discovered : List TargetProperty}
    (fromEntries : ∀ t ∈ discovered, ∃ entry ∈ entries,
      t.name = entry.1 ∧ t.mode = entry.2.mode) :
    DiscoveredTargets classes type discovered := by
  by_cases isFrozen : layout.isFrozen = true
  · refine .record isClass isRecord isFrozen fun t mem => ?_
    obtain ⟨entry, memEntries, name, mode⟩ := fromEntries t mem
    obtain ⟨isMode, replaced⟩ := of_mem_recordTargets given memEntries
    obtain ⟨f, isField, sameName, isStored, accepted⟩ := replaced isFrozen
    exact ⟨mode.trans (isMode.trans (if_pos isFrozen)), f, isField, sameName.trans name.symm,
      isStored, accepted⟩
  · refine .inPlace fun t mem => ?_
    obtain ⟨entry, memEntries, -, mode⟩ := fromEntries t mem
    exact mode.trans ((of_mem_recordTargets given memEntries).1.trans (if_neg isFrozen))

/-- The type is a frozen record to the standard registry. -/
def Registry.IsFrozenRecord (classes : ClassTable Code) (type : TypeExpr) : Prop :=
  standard.resolve classes type = some .record ∧ ∃ c layout, type.classId? = some c ∧
    classes.recordLayout? c = some layout ∧ layout.isFrozen = true

/-- A registry discovers what the first provider lists that is for the type. -/
theorem Registry.gives_of_resolve [Packages] {registry : Registry} {provider : Provider}
    (resolved : registry.resolve classes type = some provider) {discovered : List TargetProperty}
    (given : (registry.targets classes type).outcome.1 = .ok discovered) :
    (provider.targets classes type).Gives discovered := by
  have gives := Logged.gives_of_outcome given
  rw [targets, discover, resolved] at gives
  obtain ⟨properties, listed, later⟩ := gives.exists_of_bind
  obtain ⟨-, -, isLast⟩ := later.exists_of_bind
  obtain rfl := Logged.eq_of_gives_pure isLast
  exact listed

/-- Discovered properties of frozen records are parameters of the constructor, and they are
written by replacement. -/
theorem Registry.replaced_of_isFrozenRecord [Packages] (isFrozen : IsFrozenRecord classes type)
    {discovered : List TargetProperty}
    (given : (standard.targets classes type).outcome.1 = .ok discovered) :
    ∀ t ∈ discovered, t.mode = .replacement classes.replaceField ∧
      ∃ c layout, type.classId? = some c ∧ classes.recordLayout? c = some layout ∧
        ∃ f ∈ layout.fields, f.isParameter = true ∧ f.name = t.name := by
  obtain ⟨resolved, c, layout, isClass, isRecord, isFrozen⟩ := isFrozen
  obtain ⟨entries, isWritable, fromEntries⟩ :=
    Provider.exists_writable (gives_of_resolve resolved given)
  simp only [Provider.writable, isClass, isRecord] at isWritable
  intro t mem
  obtain ⟨entry, memEntries, name, mode⟩ := fromEntries t mem
  obtain ⟨isMode, replaced⟩ := ClassTable.of_mem_recordTargets isWritable memEntries
  obtain ⟨f, isField, sameName, isStored, accepted⟩ := replaced isFrozen
  refine ⟨mode.trans (isMode.trans (if_pos isFrozen)), c, layout, isClass, isRecord, f, isField,
    ?_, sameName.trans name.symm⟩
  simp [RecordField.isParameter, isStored, accepted]

/-- Discovered properties of frozen records are written by replacement. -/
theorem Registry.mode_of_isFrozenRecord [Packages] (isFrozen : IsFrozenRecord classes type)
    {discovered : List TargetProperty}
    (given : (standard.targets classes type).outcome.1 = .ok discovered) :
    ∀ t ∈ discovered, t.mode = .replacement classes.replaceField :=
  fun t mem => (replaced_of_isFrozenRecord isFrozen given t mem).1

/-- Properties of models that are written by replacement are fields, and writing them copies
the model. -/
theorem Registry.replaced_of_isModel [Packages]
    (isModel : standard.resolve classes type = some .model) {discovered : List TargetProperty}
    (given : (standard.targets classes type).outcome.1 = .ok discovered) :
    ∀ t ∈ discovered, ∀ replacer, t.mode = .replacement replacer →
      replacer = classes.copyWithUpdate ∧
      ∃ c layout, type.classId? = some c ∧ classes.modelLayout? c = some layout ∧
        ∃ f ∈ layout.fields, f.name = t.name := by
  obtain ⟨entries, isWritable, fromEntries⟩ :=
    Provider.exists_writable (gives_of_resolve isModel given)
  intro t mem replacer isMode
  obtain ⟨entry, memEntries, name, mode⟩ := fromEntries t mem
  cases isClass : type.classId? with
  | none =>
    simp only [Provider.writable, isClass] at isWritable
    obtain rfl := Logged.eq_of_gives_pure isWritable
    cases memEntries
  | some c =>
    obtain ⟨layout, isLayout, f, isField, sameName, written⟩ :=
      Provider.of_mem_writable_model isClass isWritable memEntries
    have replaced := isMode.symm.trans (mode.trans written)
    split at replaced
    · cases replaced
      exact ⟨rfl, c, layout, rfl, isLayout, f, isField, sameName.trans name.symm⟩
    · cases replaced

/-- The providers that are asked by default write discovered properties in these ways. -/
theorem Provider.discoveredTargets [Packages] {provider : Provider}
    (notFixed : ∀ declared name only?, provider ≠ .fixed declared name only?)
    {discovered : List TargetProperty}
    (given : (provider.targets classes type).Gives discovered) :
    DiscoveredTargets classes type discovered := by
  obtain ⟨entries, isWritable, fromEntries⟩ := exists_writable given
  have none_of_nil (empty : entries = []) : DiscoveredTargets classes type discovered := by
    refine .inPlace fun t mem => ?_
    obtain ⟨entry, memEntries, -⟩ := fromEntries t mem
    simp [empty] at memEntries
  have all_of_assigned {types : Logged EvaluationError (Entries String TypeExpr)}
      (assigns : (types >>= fun types => pure (assigned types)).Gives entries) :
      DiscoveredTargets classes type discovered := by
    obtain ⟨typed, -, rfl⟩ := assigns.exists_of_bind_pure
    refine .inPlace fun t mem => ?_
    obtain ⟨entry, memEntries, -, mode⟩ := fromEntries t mem
    exact mode.trans (mode_of_mem_assigned memEntries)
  cases isClass : type.classId? with
  | none =>
    cases provider with
    | fixed declared name only? => exact absurd rfl (notFixed declared name only?)
    | _ =>
      simp only [writable, isClass] at isWritable
      exact none_of_nil (Logged.eq_of_gives_pure isWritable)
  | some c =>
    cases provider with
    | fixed declared name only? => exact absurd rfl (notFixed declared name only?)
    | model =>
      simp only [writable, isClass] at isWritable
      obtain rfl := Logged.eq_of_gives_pure isWritable
      cases isModel : classes.modelLayout? c with
      | none => exact none_of_nil (by rw [isModel]; rfl)
      | some layout =>
        refine .model isClass isModel fun t mem => ?_
        obtain ⟨entry, memEntries, name, mode⟩ := fromEntries t mem
        rw [isModel] at memEntries
        obtain ⟨f, isField, rfl⟩ := List.mem_map.mp memEntries
        exact ⟨f, isField, name.symm, mode⟩
    | entity =>
      simp only [writable, isClass] at isWritable
      split at isWritable
      · exact all_of_assigned isWritable
      · exact none_of_nil (Logged.eq_of_gives_pure isWritable)
    | record =>
      simp only [writable, isClass] at isWritable
      split at isWritable
      · next layout isRecord =>
        exact ClassTable.discoveredTargets_of_record isClass isRecord isWritable fromEntries
      · exact none_of_nil (Logged.eq_of_gives_pure isWritable)
    | interface =>
      simp only [writable, isClass] at isWritable
      exact all_of_assigned isWritable
    | plain =>
      simp only [writable, isClass] at isWritable
      exact all_of_assigned isWritable

/-- Target properties that the standard registry discovers are written in these ways. -/
theorem Registry.discoveredTargets_of_standard [Packages] {discovered : List TargetProperty}
    (given : (Registry.standard.targets classes type).outcome.1 = .ok discovered) :
    DiscoveredTargets classes type discovered := by
  cases resolved : Registry.standard.resolve classes type with
  | none =>
    have gives := Logged.gives_of_outcome given
    rw [targets, discover, resolved] at gives
    obtain ⟨-, -, nothing⟩ := gives.exists_of_bind
    obtain rfl := Logged.eq_of_gives_pure nothing
    exact .inPlace (by simp)
  | some provider =>
    have isStandard : provider ∈ standard.providers := List.mem_of_find?_eq_some resolved
    refine provider.discoveredTargets ?_ (gives_of_resolve resolved given)
    rintro declared name only? rfl
    simp [standard] at isStandard

end ObjectMapping
