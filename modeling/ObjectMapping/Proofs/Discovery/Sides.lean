import Mathlib
import ObjectMapping.Package.Runtime
import ObjectMapping.Proofs.Discovery.Listed
import ObjectMapping.Proofs.Mapping.Building
import ObjectMapping.Proofs.Mapping.Matching
import ObjectMapping.Proofs.TypeExpr.Resolution

/-!
# The two sides of one type

A class that is no interface lists for reading whatever it lists for writing, so
that it can be mapped to itself once everything is ignored that can only be read.
The types of the two sides are the same, but for one case: a field that is written
while something else of its name is read. `Provider.readInstead?` says what that
is, and `sides_agree_iff` that the sides agree exactly where it has the type of
the field.
-/

namespace ObjectMapping

open Logged

/-- What is read under a name that is written as a field. A computed field of a model
stands in front of a field, and so does a property in front of a field of a record,
unless it is the property that is written. -/
def Provider.readInstead? (classes : ClassTable Code) (provider : Provider) (c : ClassId)
    (name : String) : Option TypeExpr :=
  match provider with
  | .model => (classes.modelLayout? c).bind fun layout => Entries.get? layout.computed name
  | .record =>
      (classes.recordLayout? c).bind fun layout =>
        ((Entries.get? (classes.publicProperties c) name).filter fun p =>
          layout.isFrozen || !p.isWritable).bind Property.readType?
  | _ => none

/-- What the class declares is the same when it is resolved again, for reading and for
writing. -/
def ClassInfo.isRepeatable {β : Type} (c : ClassInfo β) : Bool :=
  (c.annotations.all fun entry => entry.2.isRepeatable) &&
    c.members.all fun entry =>
      ((entry.2.property?.bind (·.getter?)).bind (·.result?)).all (·.isRepeatable)

/-- Everything that is written is also read: with its own type, or with that of what is
read instead. -/
structure ReadsWritten (instead? : String → Option TypeExpr) (readable : Entries String TypeExpr)
    (writable : Entries String Writable) : Prop where
  distinctReadable : (Entries.keys readable).Nodup
  distinctWritable : (Entries.keys writable).Nodup
  ordinary : ∀ entry ∈ writable, ∀ description write, entry.2.mode ≠ .custom description write
  read : ∀ name entry, Entries.get? writable name = some entry →
    Entries.get? readable name = some ((instead? name).getD entry.declared)

namespace ClassTable

variable {classes : ClassTable Code} {c : ClassId}

/-! ## Fields with their types -/

/-- Entries that are put into another form keep their keys. -/
theorem keys_map_snd {ν μ : Type} (entries : Entries String ν) (f : String → ν → μ) :
    Entries.keys (entries.map fun entry => (entry.1, f entry.1 entry.2)) =
      Entries.keys entries := by
  simp [Entries.keys]

theorem readsWritten_assigned {types : Entries String TypeExpr}
    (distinct : (Entries.keys types).Nodup) :
    ReadsWritten (fun _ => none) types (Provider.assigned types) where
  distinctReadable := distinct
  distinctWritable := Provider.keys_assigned types ▸ distinct
  ordinary := Provider.ordinary_of_assigned types
  read := by
    intro name entry found
    rw [Provider.get?_assigned] at found
    obtain ⟨type, isType, rfl⟩ := Option.map_eq_some_iff.mp found
    exact isType

/-- A model reads each field that it writes, or the computed field of the name. -/
theorem readsWritten_model [Packages] {layout : ModelLayout}
    (fields : (layout.fields.map (·.name)).Nodup)
    (computed : (Entries.keys layout.computed).Nodup) :
    ReadsWritten (Entries.get? layout.computed) (modelSources layout)
      (classes.modelTargets layout) := by
  let named : Entries String ModelField := layout.fields.map fun f => (f.name, f)
  let written (_ : String) (f : ModelField) : Writable := {
    declared := f.type
    mode :=
      if layout.isFrozen || f.isFrozen then .replacement classes.copyWithUpdate
      else .assignment }
  have isSources : modelSources layout =
      Entries.merge (named.map fun entry => (entry.1, entry.2.type)) layout.computed := by
    simp [modelSources, named, Function.comp_def]
  have isTargets : classes.modelTargets layout =
      named.map fun entry => (entry.1, written entry.1 entry.2) := by
    simp [modelTargets, named, written, Function.comp_def]
  have distinct : (Entries.keys named).Nodup := by
    simpa [named, Entries.keys, Function.comp_def] using fields
  refine ⟨?_, ?_, ?_, ?_⟩
  · rw [isSources]
    exact Entries.nodup_keys_merge _ (keys_map_snd named (fun _ f => f.type) ▸ distinct)
  · rwa [isTargets, keys_map_snd]
  · intro entry mem description write
    obtain ⟨f, -, rfl⟩ := List.mem_map.mp mem
    dsimp only
    split <;> simp
  · intro name entry found
    rw [isTargets, Entries.get?_map] at found
    obtain ⟨f, isField, rfl⟩ := Option.map_eq_some_iff.mp found
    have behind := Entries.get?_map (fun _ (f : ModelField) => f.type) named name
    rw [isSources, Entries.get?_merge _ computed, behind, isField]
    cases Entries.get? layout.computed name <;> rfl

/-! ## Records -/

/-- A record layout that a class has or inherits is that of a class of the table. -/
theorem NamesApart.recordFields_of_layout (apart : classes.NamesApart) {layout : RecordLayout}
    (isRecord : classes.recordLayout? c = some layout) : (layout.fields.map (·.name)).Nodup := by
  obtain ⟨ancestor, isAncestor, has⟩ := List.exists_of_findSome?_eq_some isRecord
  obtain ⟨a, -, rfl⟩ := List.mem_map.mp isAncestor
  exact (apart a).recordFields layout has

/-- The types of the fields that satisfy a condition are found among those of all. -/
theorem exists_fieldTypes {layout : RecordLayout} (fields : (layout.fields.map (·.name)).Nodup)
    {types : Entries String TypeExpr}
    (given : (classes.fieldTypes c layout fun _ => true).value = .ok types)
    (accepts : RecordField → Bool) :
    (Entries.keys types).Nodup ∧
    ∃ accepted, (classes.fieldTypes c layout accepts).value = .ok accepted ∧
      (Entries.keys accepted).Nodup ∧ ∀ name type,
        Entries.get? accepted name = some type → Entries.get? types name = some type := by
  obtain ⟨annotations, isAnnotations, rfl⟩ := exists_of_value_bind_pure given
  let typed (f : RecordField) : String × TypeExpr :=
    (f.name, (Entries.get? annotations f.name).getD f.declared)
  have distinct (keep : RecordField → Bool) :
      (Entries.keys ((layout.fields.filter keep).map typed)).Nodup := by
    have same : Entries.keys ((layout.fields.filter keep).map typed) =
        (layout.fields.filter keep).map (·.name) := by
      simp [Entries.keys, typed, Function.comp_def]
    rw [same]
    exact fields.sublist (List.filter_sublist.map _)
  refine ⟨distinct _, _, ?_, distinct fun f =>
    f.kind == .stored && isPublic f.name && accepts f, ?_⟩
  · rw [fieldTypes, value_bind_pure, isAnnotations]
    rfl
  · intro name type found
    obtain ⟨f, kept, isTyped⟩ := List.mem_map.mp (Entries.mem_of_get?_eq_some found)
    obtain ⟨isField, condition⟩ := List.mem_filter.mp kept
    refine Entries.get?_eq_some_of_mem (distinct _) (List.mem_map.mpr ⟨f, ?_, isTyped⟩)
    simp only [Bool.and_eq_true] at condition
    exact List.mem_filter.mpr ⟨isField, by simp [condition.1.1, condition.1.2]⟩

/-- A record reads each field that it writes, or the property of the name. -/
theorem readsWritten_record [Packages] (apart : classes.NamesApart) {layout : RecordLayout}
    (isRecord : classes.recordLayout? c = some layout) {readable : Entries String TypeExpr}
    (given : (classes.recordSources c layout).value = .ok readable) :
    ∃ writable, (classes.recordTargets c layout).value = .ok writable ∧
      ReadsWritten (Provider.record.readInstead? classes c) readable writable := by
  obtain ⟨types, isTypes, given⟩ := exists_of_value_bind given fun _ =>
    (isSteady_resultTypes _ _).bind fun _ => isSteady_pure _
  obtain ⟨results, isResults, rfl⟩ := exists_of_value_bind_pure given
  have fields := apart.recordFields_of_layout isRecord
  have properties := nodup_keys_publicProperties classes c
  have distinctTypes := (exists_fieldTypes fields isTypes fun _ => true).1
  have distinctResults := nodup_keys_resultTypes isResults properties
  have reads (name : String) : Entries.get? (Entries.merge types results) name =
      ((Entries.get? (classes.publicProperties c) name).bind Property.readType?).or
        (Entries.get? types name) := by
    rw [Entries.get?_merge _ distinctResults, get?_allResultTypes isResults properties]
  rw [recordTargets]
  cases isFrozen : layout.isFrozen with
  | true =>
    obtain ⟨-, accepted, isAccepted, distinct, among⟩ :=
      exists_fieldTypes fields isTypes (·.accepted)
    let written (_ : String) (type : TypeExpr) : Writable :=
      ⟨type, .replacement classes.replaceField⟩
    refine ⟨accepted.map fun entry => (entry.1, written entry.1 entry.2), ?_, ?_⟩
    · rw [if_pos rfl, value_bind_pure, isAccepted]
      rfl
    · refine ⟨Entries.nodup_keys_merge _ distinctTypes, by rwa [keys_map_snd], ?_, ?_⟩
      · intro entry mem description write
        obtain ⟨typed, -, rfl⟩ := List.mem_map.mp mem
        simp [written]
      · intro name entry found
        rw [Entries.get?_map] at found
        obtain ⟨type, isType, rfl⟩ := Option.map_eq_some_iff.mp found
        rw [reads, among name type isType, Provider.readInstead?, isRecord]
        cases Entries.get? (classes.publicProperties c) name with
        | none => rfl
        | some p => cases isType : p.readType? <;> simp [isFrozen, isType, written, Option.filter]
  | false =>
    obtain ⟨accepted, isAccepted⟩ := exists_resultTypes isResults Property.isWritable
    have distinctAccepted := nodup_keys_resultTypes isAccepted properties
    let written (_ : String) (type : TypeExpr) : Writable := ⟨type, .assignment⟩
    refine ⟨(Entries.merge types accepted).map fun entry =>
      (entry.1, written entry.1 entry.2), ?_, ?_⟩
    · rw [if_neg Bool.false_ne_true, value_bind _ fun _ =>
        (isSteady_resultTypes _ _).bind fun _ => isSteady_pure _, isTypes]
      show (resultTypes _ _ >>= _).value = _
      rw [value_bind_pure, isAccepted]
      rfl
    · refine ⟨Entries.nodup_keys_merge _ distinctTypes, ?_, ?_, ?_⟩
      · rw [keys_map_snd]
        exact Entries.nodup_keys_merge _ distinctTypes
      · intro entry mem description write
        obtain ⟨typed, -, rfl⟩ := List.mem_map.mp mem
        simp [written]
      · intro name entry found
        rw [Entries.get?_map] at found
        obtain ⟨type, isType, rfl⟩ := Option.map_eq_some_iff.mp found
        rw [Entries.get?_merge _ distinctAccepted, get?_resultTypes isAccepted properties]
          at isType
        rw [reads, Provider.readInstead?, isRecord]
        cases isProperty : Entries.get? (classes.publicProperties c) name with
        | none => simpa [isProperty, written] using isType
        | some p =>
          -- A property that is written is read too; any other stands in front of a field.
          rw [isProperty] at isType
          cases writable : p.isWritable <;> cases isRead : p.readType? <;>
            simp_all [written, Option.filter]

/-! ## Plain classes -/

/-- A plain class reads each annotation and property that it writes. -/
theorem readsWritten_plain {readable : Entries String TypeExpr}
    (given : (classes.plainSources c).value = .ok readable) :
    ∃ writable, (classes.plainTargets c).value = .ok writable ∧
      ReadsWritten (fun _ => none) readable (Provider.assigned writable) := by
  obtain ⟨distinctReadable, annotations, isAnnotations, reads⟩ := exists_of_plainSources given
  obtain ⟨writable, isWritable⟩ : ∃ writable, (classes.plainTargets c).value = .ok writable := by
    obtain ⟨_, _, later⟩ := exists_of_value_bind given fun _ =>
      (isSteady_resultTypes _ _).bind fun _ => isSteady_pure _
    obtain ⟨results, isResults, -⟩ := exists_of_value_bind_pure later
    obtain ⟨accepted, isAccepted⟩ := exists_resultTypes isResults Property.isWritable
    rw [plainTargets, value_bind _ fun _ => (isSteady_resultTypes _ _).bind fun _ =>
      isSteady_pure _, isAnnotations]
    refine ⟨_, (value_bind_pure _ _).trans (congrArg (Except.map _) isAccepted)⟩
  obtain ⟨distinctWritable, annotations', isAnnotations', writes⟩ :=
    exists_of_plainTargets isWritable
  obtain rfl : annotations = annotations' :=
    Except.ok.inj (isAnnotations.symm.trans isAnnotations')
  have own := readsWritten_assigned distinctWritable
  refine ⟨writable, isWritable, { own with
    distinctReadable := distinctReadable
    read := fun name entry found => ?_ }⟩
  have isType := own.read name entry found
  rw [writes] at isType
  rw [reads]
  cases isProperty : Entries.get? (classes.publicProperties c) name with
  | none => simpa [isProperty] using isType
  | some p =>
    -- An annotation of the name is hidden, so that it is the property that is written.
    rw [isProperty] at isType
    cases writable : p.isWritable with
    | false => simp [writable] at isType
    | true =>
      have isRead : p.readType? = some entry.declared := by simpa [writable] using isType
      simp [isRead]

end ClassTable

/-! ## What is discovered -/

section Discovered

variable {classes : ClassTable Code} {type : TypeExpr} {c : ClassId} {provider : Provider}

/-- The providers that are asked by default, but for that of interfaces, read what they
write. -/
theorem Provider.readsWritten [Packages] (apart : classes.NamesApart)
    (resolved : Registry.standard.resolve classes type = some provider)
    (notInterface : provider ≠ .interface) (isClass : type.classId? = some c)
    {readable : Entries String TypeExpr}
    (given : (provider.readable classes type).value = .ok readable) :
    ∃ writable, (provider.writable classes type).value = .ok writable ∧
      ReadsWritten (provider.readInstead? classes c) readable writable := by
  obtain ⟨isStandard, isFor⟩ := Registry.isFor_of_resolve classes resolved
  cases provider with
  | model =>
    cases isModel : classes.modelLayout? c with
    | none =>
      simp only [Provider.readable, isClass, isModel] at given
      cases given
      refine ⟨[], by simp only [writable, isClass, isModel]; rfl, ?_⟩
      have same : Provider.model.readInstead? classes c = fun _ => none := by
        funext name
        simp [readInstead?, isModel]
      have distinct : (Entries.keys ([] : Entries String TypeExpr)).Nodup := List.nodup_nil
      exact same ▸ ClassTable.readsWritten_assigned distinct
    | some layout =>
      simp only [Provider.readable, isClass, isModel] at given
      cases given
      refine ⟨classes.modelTargets layout, by simp only [writable, isClass, isModel]; rfl, ?_⟩
      have same : Provider.model.readInstead? classes c = Entries.get? layout.computed := by
        funext name
        simp [readInstead?, isModel]
      exact same ▸ ClassTable.readsWritten_model ((apart c).modelFields layout isModel)
        ((apart c).computed layout isModel)
  | entity =>
    simp only [Provider.isFor, isClass, Option.isSome_iff_exists] at isFor
    obtain ⟨layout, isEntity⟩ := isFor
    simp only [Provider.readable, isClass, isEntity] at given
    refine ⟨assigned readable, ?_, ClassTable.readsWritten_assigned ?_⟩
    · simp only [writable, isClass, isEntity]
      rw [value_bind_pure, given]
      rfl
    · obtain ⟨annotations, -, given⟩ := exists_of_value_bind given fun _ =>
        (ClassTable.isSteady_columnTypesOf _ _ _).bind fun _ => isSteady_pure _
      obtain ⟨types, -, rfl⟩ := exists_of_value_bind_pure given
      exact Entries.nodup_keys_ofList types
  | record =>
    simp only [Provider.isFor, isClass, Option.isSome_iff_exists] at isFor
    obtain ⟨layout, isRecord⟩ := isFor
    simp only [Provider.readable, isClass, isRecord] at given
    obtain ⟨written, isWritten, reads⟩ := ClassTable.readsWritten_record apart isRecord given
    exact ⟨written, by simp only [writable, isClass, isRecord, isWritten], reads⟩
  | plain =>
    simp only [Provider.readable, isClass] at given
    obtain ⟨written, isWritten, reads⟩ := ClassTable.readsWritten_plain given
    refine ⟨assigned written, ?_, reads⟩
    simp only [writable, isClass]
    rw [value_bind_pure, isWritten]
    rfl
  | interface => exact absurd rfl notInterface
  | fixed declared name only? => simp [Registry.standard] at isStandard

/-- A target property that is discovered has a source property of its name, with its own
type or with that of what is read instead. -/
structure ReadsTargets (instead? : String → Option TypeExpr) (targets : List TargetProperty)
    (sources : List SourceProperty) : Prop where
  distinctTargets : (targets.map (·.name)).Nodup
  distinctSources : (sources.map (·.name)).Nodup
  named : ∀ t ∈ targets, ∃ s ∈ sources, s.name = t.name
  typed : ∀ t ∈ targets, ∀ s ∈ sources, s.name = t.name →
    s.type = ((instead? t.name).map TypeExpr.core).getD t.type

theorem ReadsWritten.readsTargets [PackageReading] {instead? : String → Option TypeExpr}
    {readable : Entries String TypeExpr} {writable : Entries String Writable}
    (reads : ReadsWritten instead? readable writable) :
    ReadsTargets instead? (Provider.listedTargets type writable)
      (Provider.listedSources classes type readable) := by
  have entryOf (t : TargetProperty) (mem : t ∈ Provider.listedTargets type writable) :
      ∃ entry ∈ writable, entry.1 = t.name ∧ entry.2.declared.core = t.type :=
    (Provider.exists_mem_listedTargets_iff type reads.ordinary t.name t.type).mp
      ⟨t, mem, rfl, rfl⟩
  refine ⟨?_, ?_, ?_, ?_⟩
  · rw [Provider.names_listedTargets]
    exact reads.distinctWritable
  · rw [Provider.names_listedSources]
    exact reads.distinctReadable
  · intro t mem
    obtain ⟨⟨name, written⟩, memWritable, rfl, -⟩ := entryOf t mem
    have found := reads.read _ _ (Entries.get?_eq_some_of_mem reads.distinctWritable memWritable)
    obtain ⟨s, memSources, same, -⟩ :=
      (Provider.exists_mem_listedSources_iff classes type readable _ _).mpr
        ⟨_, Entries.mem_of_get?_eq_some found, rfl, rfl⟩
    exact ⟨s, memSources, same⟩
  · intro t mem s memSources same
    obtain ⟨⟨name, written⟩, memWritable, isName, isType⟩ := entryOf t mem
    obtain ⟨⟨name', declared⟩, memReadable, isName', isType'⟩ :=
      (Provider.exists_mem_listedSources_iff classes type readable s.name s.type).mp
        ⟨s, memSources, rfl, rfl⟩
    obtain rfl : name = t.name := isName
    obtain rfl : name' = t.name := isName'.trans same
    have found := reads.read _ _ (Entries.get?_eq_some_of_mem reads.distinctWritable memWritable)
    rw [Entries.get?_eq_some_of_mem reads.distinctReadable memReadable] at found
    rw [← isType', Option.some.inj found, ← isType]
    cases instead? t.name <;> rfl

/-- What is read instead of a target property has the type that it is written with. -/
def InsteadAgrees (instead? : String → Option TypeExpr) (targets : List TargetProperty) : Prop :=
  ∀ t ∈ targets, ∀ other, instead? t.name = some other → t.type.agrees other = true

/-- Everything that is discovered to be written is discovered to be read, with the same
type. -/
def SidesAgree (targets : List TargetProperty) (sources : List SourceProperty) : Prop :=
  ∀ t ∈ targets, ∃ s ∈ sources, s.name = t.name ∧ t.type.agrees s.type = true

namespace ReadsTargets

variable {instead? : String → Option TypeExpr} {targets : List TargetProperty}
  {sources : List SourceProperty}

/-- Two properties of a name agree if what is read instead does. -/
theorem agrees_iff (reads : ReadsTargets instead? targets sources) {t : TargetProperty}
    {s : SourceProperty} (target : t ∈ targets) (source : s ∈ sources) (same : s.name = t.name) :
    t.type.agrees s.type = true ↔
      ∀ other, instead? t.name = some other → t.type.agrees other = true := by
  rw [reads.typed t target s source same]
  cases instead? t.name <;> simp [TypeExpr.agrees_refl]

theorem sidesAgree_iff (reads : ReadsTargets instead? targets sources) :
    SidesAgree targets sources ↔ InsteadAgrees instead? targets := by
  constructor
  · intro agree t target
    obtain ⟨s, source, same, agrees⟩ := agree t target
    exact (reads.agrees_iff target source same).mp agrees
  · intro agree t target
    obtain ⟨s, source, same⟩ := reads.named t target
    exact ⟨s, source, same, (reads.agrees_iff target source same).mpr (agree t target)⟩

end ReadsTargets

/-! ## Ignoring what is only read -/

/-- Ignoring source properties, each once, leaves those of other names. -/
theorem Specification.performAll_ignoreSource [Packages] {s : Specification}
    (distinct : (s.sources.map (·.name)).Nodup) {ignored : List String} (once : ignored.Nodup)
    (there : ∀ n ∈ ignored, n ∈ s.sources.map (·.name)) :
    s.performAll classes (ignored.map .ignoreSource) =
      .ok { s with sources := s.sources.filter fun p => p.name ∉ ignored } := by
  induction ignored generalizing s with
  | nil =>
    simp only [List.not_mem_nil, not_false_eq_true, decide_true, List.filter_true]
    rfl
  | cons name rest ih =>
    obtain ⟨notLater, onceRest⟩ := List.nodup_cons.mp once
    obtain ⟨here, thereRest⟩ := List.forall_mem_cons.mp there
    obtain ⟨p, mem, rfl⟩ := List.mem_map.mp here
    have found : s.sourceNamed p.name = .ok p := by
      rw [sourceNamed_eq_ok_iff]
      exact (find?_name_eq_some_iff SourceProperty.name distinct p.name p).mpr ⟨mem, rfl⟩
    let next : Specification := { s with sources := s.sources.filter fun q => q.name ≠ p.name }
    have step : s.perform classes (.ignoreSource p.name) = .ok next := by
      show (do
        let removed ← s.sourceNamed p.name
        return { s with sources := withoutSource s.sources removed }) = Except.ok next
      rw [found]
      show Except.ok _ = Except.ok _
      rw [withoutSource_eq distinct mem]
    have remain : ∀ n ∈ rest, n ∈ next.sources.map (·.name) := by
      intro n later
      obtain ⟨q, memSource, rfl⟩ := List.mem_map.mp (thereRest n later)
      have apart : q.name ≠ p.name := fun same => notLater (same ▸ later)
      exact List.mem_map.mpr ⟨q, List.mem_filter.mpr ⟨memSource, by simpa using apart⟩, rfl⟩
    have later := ih (distinct.sublist (List.filter_sublist.map _) : (next.sources.map _).Nodup)
      onceRest remain
    rw [performAll, List.map_cons, ObjectMapping.performAll, step]
    show (next.performAll classes (rest.map .ignoreSource)).mapError _ = _
    rw [later, mapError_ok]
    simp only [next, List.filter_filter, List.mem_cons, not_or, ne_eq, Bool.decide_and,
      Bool.and_comm]

/-- Two sides of which one reads what the other writes correspond, once everything is
ignored that can only be read, exactly where what is read instead agrees. -/
theorem ReadsTargets.corresponding_iff {instead? : String → Option TypeExpr}
    {targets : List TargetProperty} {sources : List SourceProperty}
    (reads : ReadsTargets instead? targets sources) {ignored : List String}
    (isRest : ∀ n, n ∈ ignored ↔ n ∈ sources.map (·.name) ∧ n ∉ targets.map (·.name)) :
    Corresponding targets (sources.filter fun p => p.name ∉ ignored) ↔
      InsteadAgrees instead? targets := by
  have kept (p : SourceProperty) : p ∈ sources.filter (fun p => p.name ∉ ignored) ↔
      p ∈ sources ∧ p.name ∈ targets.map (·.name) := by
    rw [List.mem_filter, decide_eq_true_eq, isRest]
    constructor
    · rintro ⟨mem, notRest⟩
      refine ⟨mem, ?_⟩
      by_contra absent
      exact notRest ⟨List.mem_map_of_mem mem, absent⟩
    · rintro ⟨mem, present⟩
      exact ⟨mem, fun isRest => isRest.2 present⟩
  constructor
  · intro corresponds t target
    obtain ⟨s, source, same⟩ := reads.named t target
    have remains := (kept s).mpr ⟨source, same ▸ List.mem_map_of_mem target⟩
    exact (reads.agrees_iff target source same).mp
      (corresponds.agreeing t target s remains same.symm)
  · intro agree
    refine ⟨reads.distinctTargets, reads.distinctSources.sublist (List.filter_sublist.map _),
      ?_, ?_⟩
    · intro n
      constructor
      · rintro present
        obtain ⟨t, target, rfl⟩ := List.mem_map.mp present
        obtain ⟨s, source, same⟩ := reads.named t target
        exact List.mem_map.mpr ⟨s, (kept s).mpr ⟨source, same ▸ present⟩, same⟩
      · rintro present
        obtain ⟨s, remains, rfl⟩ := List.mem_map.mp present
        exact ((kept s).mp remains).2
    · intro t target s remains same
      exact (reads.agrees_iff target ((kept s).mp remains).1 same.symm).mpr (agree t target)

/-- A class that is no interface, of which everything can be read that is read off it, and that
declares no type that differs when it is resolved again, has a specification onto itself. It
reads a property of each name that it writes. The types agree exactly where that of what is
read instead does; and it passes the checks exactly then, once everything is ignored that can
only be read. -/
theorem sides_agree_iff [Packages] (apart : classes.NamesApart)
    (resolved : Registry.standard.resolve classes type = some provider)
    (notInterface : provider ≠ .interface) (isClass : type.classId? = some c)
    (_repeatable : (classes.line c).all (·.isRepeatable) = true)
    {sources : List SourceProperty}
    (given : (Registry.standard.sources classes type).outcome.1 = .ok sources) :
    ∃ s, (Specification.ofTypes classes .standard type type).outcome.1 = .ok s ∧
      s.sources = sources ∧
      (Registry.standard.targets classes type).outcome.1 = .ok s.targets ∧
      (∀ t ∈ s.targets, ∃ p ∈ s.sources, p.name = t.name) ∧
      (SidesAgree s.targets s.sources ↔
        InsteadAgrees (provider.readInstead? classes c) s.targets) ∧
      ∀ ignored : List String, ignored.Perm
          ((s.sources.map (·.name)).filter fun n => n ∉ s.targets.map (·.name)) →
        ∃ rest, s.performAll classes (ignored.map .ignoreSource) = .ok rest ∧
          (validateMapping rest.targets rest.sources = .ok () ↔
            InsteadAgrees (provider.readInstead? classes c) s.targets) := by
  have listsSources : (Registry.standard.sources classes type).value =
      (provider.sources classes type).value :=
    Registry.value_discover classes _ type _ resolved
  rw [Provider.value_sources] at listsSources
  have listsSources := listsSources.symm.trans given
  obtain ⟨readable, isReadable, rfl⟩ : ∃ readable,
      (provider.readable classes type).value = .ok readable ∧
        Provider.listedSources classes type readable = sources := by
    cases isReadable : (provider.readable classes type).value with
    | error e => simp [isReadable, Except.map] at listsSources
    | ok readable =>
      rw [isReadable] at listsSources
      exact ⟨readable, rfl, Except.ok.inj listsSources⟩
  obtain ⟨writable, isWritable, reads⟩ :=
    provider.readsWritten apart resolved notInterface isClass isReadable
  have listsTargets : (Registry.standard.targets classes type).value =
      .ok (Provider.listedTargets type writable) := by
    rw [Registry.targets, Registry.value_discover classes _ type _ resolved,
      Provider.value_targets, isWritable]
    rfl
  have sides : ReadsTargets _ (Provider.listedTargets type writable)
      (Provider.listedSources classes type readable) := reads.readsTargets
  refine ⟨{
    target := type, source := type
    targets := Provider.listedTargets type writable
    sources := Provider.listedSources classes type readable }, ?_, rfl, listsTargets,
    sides.named, sides.sidesAgree_iff, ?_⟩
  · have steady : (Registry.standard.sources classes type).IsSteady :=
      Registry.isSteady_discover classes _ type _ fun provider =>
        provider.isSteady_sources classes type
    show (Registry.standard.targets classes type >>= fun targets =>
      Registry.standard.sources classes type >>= fun sources =>
        pure (⟨type, type, targets, sources, [], none⟩ : Specification)).value = _
    rw [value_bind _ fun _ => steady.bind fun _ => isSteady_pure _, listsTargets]
    show (Registry.standard.sources classes type >>= _).value = _
    rw [value_bind_pure]
    exact congrArg (Except.map _) given
  · intro ignored perm
    have isRest (n : String) := perm.mem_iff (a := n)
    simp only [List.mem_filter, decide_eq_true_eq] at isRest
    have once : ignored.Nodup :=
      perm.nodup_iff.mpr (sides.distinctSources.sublist List.filter_sublist)
    exact ⟨_, Specification.performAll_ignoreSource sides.distinctSources once
      fun n mem => ((isRest n).mp mem).1,
      (validateMapping_eq_ok_iff _ _).trans (sides.corresponding_iff isRest)⟩

end Discovered

/-! ## A field that is not read -/

/-- A property that reads a text. -/
def readText (label : String) : Property Code where
  getter? := some {
    label := label, result? := some (.standard .str), body := fun _ => return .text "none" }
  setter? := none

/-- A record with a number, a class that extends it by a text that can only be read, and
one where such a text takes the place of the number. -/
def counters : ClassTable Code where
  classes := #[
    { name := ⟨.declared 0, "models", "Counter", "Counter"⟩
      lineage := [.declared 0, .standard .object]
      annotations := [("count", .standard .int)]
      members := [("count", .constant (.number 0))]
      initializer? := some .record
      record? := some {
        fields := [{
          name := "count", kind := .stored, declared := .standard .int
          default? := some (.shared (.number 0)), accepted := true, nameOnly := false }]
        isFrozen := false, isSlotted := false, hasAfterInit := false } },
    { name := ⟨.declared 1, "models", "Labelled", "Labelled"⟩
      lineage := [.declared 1, .declared 0, .standard .object]
      members := [("label", .property (readText "Labelled.label"))] },
    { name := ⟨.declared 2, "models", "Worded", "Worded"⟩
      lineage := [.declared 2, .declared 0, .standard .object]
      members := [("count", .property (readText "Worded.count"))] }]

/-- The type of one of these classes. -/
def counterType (index : Nat) : TypeExpr :=
  counters.typeOf (.declared index)

theorem namesApart_counters : counters.NamesApart := by
  refine ClassTable.namesApart_of_declared fun c mem => ?_
  simp only [counters, List.mem_toArray, List.mem_cons, List.not_mem_nil, or_false] at mem
  rcases mem with rfl | rfl | rfl
  · exact ⟨by decide, by simp [Entries.keys], by simp, by simp, by simp⟩
  all_goals exact ⟨by decide, by simp [Entries.keys], by simp, by simp, by simp⟩

theorem sources_labelled [PackageReading] :
    (Registry.standard.sources counters (counterType 1)).outcome.1 =
      .ok (Provider.listedSources counters (counterType 1)
        [("count", .standard .int), ("label", .standard .str)]) := by
  cbv

theorem targets_labelled [Packages] :
    (Registry.standard.targets counters (counterType 1)).outcome.1 =
      .ok (Provider.listedTargets (counterType 1)
        (Provider.assigned [("count", .standard .int)])) := by
  cbv

open scoped RuntimePackages

/-- The class with a further text can be mapped onto itself once the text is ignored. -/
theorem sides_agree_iff_labelled :
    (counters.NamesApart ∧
      Registry.standard.resolve counters (counterType 1) = some .record ∧
      Provider.record ≠ .interface ∧ (counterType 1).classId? = some (.declared 1) ∧
      (counters.line (.declared 1)).all (·.isRepeatable) = true) ∧
    ∃ s, (Specification.ofTypes counters .standard (counterType 1) (counterType 1)).outcome.1 =
        .ok s ∧
      ∃ rest, s.performAll counters [.ignoreSource "label"] = .ok rest ∧
        validateMapping rest.targets rest.sources = .ok () := by
  refine ⟨⟨namesApart_counters, rfl, nofun, rfl, rfl⟩, ?_⟩
  obtain ⟨s, isMade, isSources, isTargets, -, -, ignoring⟩ :=
    sides_agree_iff namesApart_counters
      (show Registry.standard.resolve counters (counterType 1) = some .record from rfl) nofun
      (show (counterType 1).classId? = some (.declared 1) from rfl) rfl sources_labelled
  have isTargets := Except.ok.inj (isTargets.symm.trans targets_labelled)
  rw [isSources, isTargets] at ignoring
  obtain ⟨rest, isRest, valid⟩ := ignoring ["label"] (by decide)
  have unhidden : Provider.record.readInstead? counters (.declared 1) "count" = none := by cbv
  refine ⟨s, isMade, rest, isRest, valid.mpr fun t mem other instead => ?_⟩
  obtain rfl := List.mem_singleton.mp mem
  cases unhidden.symm.trans instead

theorem ofTypes_worded [Packages] :
    (Specification.ofTypes counters .standard (counterType 2) (counterType 2)).outcome.1 =
      .ok {
        target := counterType 2, source := counterType 2
        targets := Provider.listedTargets (counterType 2)
          (Provider.assigned [("count", .standard .int)])
        sources := Provider.listedSources counters (counterType 2)
          [("count", .standard .str)] } := by
  cbv

/-- A record is written by a field in the place of which something else is read, so that
what is discovered of it does not agree and it cannot be mapped onto itself. -/
theorem not_sidesAgree_worded :
    Registry.standard.resolve counters (counterType 2) = some .record ∧
    ∃ s, (Specification.ofTypes counters .standard (counterType 2) (counterType 2)).outcome.1 =
        .ok s ∧
      ¬ SidesAgree s.targets s.sources ∧
      s.targets.map (·.name) = s.sources.map (·.name) ∧
      validateMapping s.targets s.sources ≠ .ok () := by
  have apart : ∀ t ∈ Provider.listedTargets (counterType 2)
      (Provider.assigned [("count", .standard .int)]),
      ∀ p ∈ Provider.listedSources counters (counterType 2) [("count", .standard .str)],
        t.type.agrees p.type = false := by
    intro t target p source
    obtain rfl := List.mem_singleton.mp target
    obtain rfl := List.mem_singleton.mp source
    rfl
  refine ⟨rfl, _, ofTypes_worded, ?_, rfl, ?_⟩
  · intro agree
    obtain ⟨p, source, -, agrees⟩ := agree _ List.mem_cons_self
    rw [apart _ List.mem_cons_self p source] at agrees
    cases agrees
  · intro valid
    have agrees := ((validateMapping_eq_ok_iff _ _).mp valid).agreeing _ List.mem_cons_self _
      List.mem_cons_self rfl
    rw [apart _ List.mem_cons_self _ List.mem_cons_self] at agrees
    cases agrees

end ObjectMapping
