import ObjectMapping.Package.Runtime
import ObjectMapping.Proofs.Discovery.ByName
import ObjectMapping.Proofs.Discovery.DistinctNames
import ObjectMapping.Proofs.Discovery.Sides

/-!
# Declared types that cannot be evaluated

A text in a declared type may stand for nothing that is known. Records and plain classes use
their declared types as they are written then, and are listed all the same. An interface
evaluates the annotations of each interface that it extends by itself, and an annotation that
cannot be evaluated keeps it from being listed at all. `tolerable_class_listed_iff` says so of
every class of which nothing fails but for a tolerated reason, and with which types its names
are listed.
-/

namespace ObjectMapping

open Logged

/-! ## The types that are used -/

/-- The stored field of a record under a name, if it satisfies a condition. -/
def RecordLayout.fieldNamed? (layout : RecordLayout) (accepts : RecordField → Bool)
    (name : String) : Option RecordField :=
  layout.fields.find? fun f => (f.kind == .stored && accepts f) && f.name == name

/-- The type with which a declaration of an interface is used, if it can be: as
`OwnDeclaration.type?` tells, but for the result type of a property as it is used. -/
def OwnDeclaration.usedType? (writableOnly : Bool) : OwnDeclaration → Option TypeExpr
  | .property p => if writableOnly && !p.isWritable then none else p.usedType?
  | .annotated declared => declared.resolveSurface.toOption.filter (!·.isClassLevel)

namespace ClassTable

variable (classes : ClassTable Code) (c : ClassId)

/-- The type of the field of a record under a name, as it is used: that of the annotation of
the most derived class, or else the declared one. -/
def usedField? (layout : RecordLayout) (accepts : RecordField → Bool) (name : String) :
    Option TypeExpr :=
  (layout.fieldNamed? accepts name).map fun f =>
    (classes.usedAnnotation? c name).getD f.declared

/-- The type of the most derived declaration of an interface that can be used. -/
def usedMember? (writableOnly : Bool) (name : String) : Option TypeExpr :=
  (classes.interfaceLine c).findSome? fun a => (a.declares? name).bind (·.usedType? writableOnly)

end ClassTable

/-- The type with which a record, an interface or a plain class lists a name for reading. -/
def Provider.read? (classes : ClassTable Code) (provider : Provider) (c : ClassId)
    (name : String) : Option TypeExpr :=
  if isPublic name then
    match provider with
    | .plain => readByName? (classes.usedAnnotation? c name) (classes.property? c name)
    | .record =>
        (classes.recordLayout? c).bind fun layout =>
          ((classes.property? c name).bind (·.usedType?)).or
            (classes.usedField? c layout (fun _ => true) name)
    | .interface => classes.usedMember? c false name
    | _ => none
  else none

/-- The type with which a record, an interface or a plain class lists a name for writing. -/
def Provider.written? (classes : ClassTable Code) (provider : Provider) (c : ClassId)
    (name : String) : Option TypeExpr :=
  if isPublic name then
    match provider with
    | .plain => writtenByName? (classes.usedAnnotation? c name) (classes.property? c name)
    | .record =>
        (classes.recordLayout? c).bind fun layout =>
          if layout.isFrozen then
            classes.usedField? c layout (·.accepted) name
          else
            (((classes.property? c name).filter (·.isWritable)).bind (·.usedType?)).or
              (classes.usedField? c layout (fun _ => true) name)
    | .interface => classes.usedMember? c true name
    | _ => none
  else none

/-- A property that a class declares is one of its members. -/
theorem ClassInfo.property?_of_declares? {a : ClassInfo Code} {name : String} {p : Property Code}
    (declares : a.declares? name = some (.property p)) :
    (Entries.get? a.members name).bind Member.property? = some p := by
  rw [declares?] at declares
  split at declares
  · next q found =>
    obtain rfl : q = p := by simpa using declares
    exact (Option.filter_eq_some_iff.mp found).1
  · simp at declares

namespace ClassTable

variable {classes : ClassTable Code} {c : ClassId} {type : TypeExpr}

/-! ## Records -/

section Records

variable {layout : RecordLayout} {accepts : RecordField → Bool} {types : Entries String TypeExpr}

/-- Entries that are made of fields are found where the fields are. -/
theorem get?_map_fields (fields : List RecordField) (f : RecordField → TypeExpr)
    (name : String) :
    Entries.get? (fields.map fun field => (field.name, f field)) name =
      (fields.find? (·.name == name)).map f := by
  induction fields with
  | nil => rfl
  | cons field rest ih =>
    by_cases same : field.name = name
    · simp [Entries.get?, same]
    · simpa [Entries.get?, same] using ih

/-- A private name has no field among the public ones, and a public one has its own. -/
theorem find?_publicFields (fields : List RecordField) (name : String) :
    (fields.filter fun f => f.kind == .stored && isPublic f.name && accepts f).find?
        (·.name == name) =
      if isPublic name then
        fields.find? fun f => (f.kind == .stored && accepts f) && f.name == name
      else none := by
  rw [List.find?_filter]
  induction fields with
  | nil => simp
  | cons field rest ih =>
    rw [List.find?_cons, List.find?_cons, ih]
    by_cases same : field.name = name
    · subst same
      cases field.kind == .stored <;> cases accepts field <;> cases isPublic field.name <;> simp
    · have other : (field.name == name) = false := beq_false_of_ne same
      cases isPublic name <;> simp [other]

/-- The fields of a record are found with their types as they are used. -/
theorem get?_fieldTypes (apart : classes.NamesApart)
    (given : (classes.fieldTypes c layout accepts).value = .ok types) (name : String) :
    Entries.get? types name =
      if isPublic name then classes.usedField? c layout accepts name else none := by
  obtain ⟨annotations, isAnnotations, rfl⟩ := exists_of_value_bind_pure given
  rw [get?_map_fields, find?_publicFields]
  cases isPublic name with
  | false => rfl
  | true =>
    rw [if_pos rfl, if_pos rfl, usedField?, RecordLayout.fieldNamed?]
    cases isField : layout.fields.find? fun f => (f.kind == .stored && accepts f) && f.name == name
    with
    | none => rfl
    | some field =>
      -- The annotation is looked up by the name of the field that was found.
      have found := List.find?_some isField
      simp only [Bool.and_eq_true, beq_iff_eq] at found
      simp [found.2, get?_classAnnotations_eq (apart.nodup_annotations _) isAnnotations]

/-- The fields of a record are gathered where its annotations are. -/
theorem exists_fieldTypes_of_annotations
    (annotations : ∃ annotations, (classes.classAnnotations c).value = .ok annotations)
    (accepts : RecordField → Bool) :
    ∃ types, (classes.fieldTypes c layout accepts).value = .ok types := by
  obtain ⟨all, isAll⟩ := annotations
  rw [fieldTypes, value_bind_pure, isAll]
  exact ⟨_, rfl⟩

/-- A record lists both sides if its annotations and its properties are gathered. -/
theorem exists_record_lists [Packages] (isClass : type.classId? = some c)
    (isRecord : classes.recordLayout? c = some layout)
    (annotations : ∃ annotations, (classes.classAnnotations c).value = .ok annotations)
    (results : ∀ condition, ∃ results,
      (resultTypes condition (classes.publicProperties c)).value = .ok results) :
    (∃ discovered, (Provider.record.sources classes type).outcome.1 = .ok discovered) ∧
      ∃ discovered, (Provider.record.targets classes type).outcome.1 = .ok discovered := by
  rw [Provider.exists_sources_iff, Provider.exists_targets_iff]
  simp only [Provider.readable, Provider.writable, isClass, isRecord]
  have fields (accepts : RecordField → Bool) :
      ∃ types, (classes.fieldTypes c layout accepts).value = .ok types :=
    exists_fieldTypes_of_annotations annotations accepts
  refine ⟨exists_value_both (isSteady_resultTypes _ _) (fields _) (results _) _, ?_⟩
  rw [recordTargets]
  split
  · obtain ⟨accepted, isAccepted⟩ := fields (·.accepted)
    rw [value_bind_pure, isAccepted]
    exact ⟨_, rfl⟩
  · exact exists_value_both (isSteady_resultTypes _ _) (fields _) (results _) _

/-- What can be read off a record is found by its rule. -/
theorem get?_recordSources (apart : classes.NamesApart)
    (isRecord : classes.recordLayout? c = some layout)
    (given : (classes.recordSources c layout).value = .ok types) (name : String) :
    Entries.get? types name = Provider.record.read? classes c name := by
  obtain ⟨own, isOwn, given⟩ := exists_of_value_bind given fun _ =>
    (isSteady_resultTypes _ _).bind fun _ => isSteady_pure _
  obtain ⟨results, isResults, rfl⟩ := exists_of_value_bind_pure given
  have distinct := nodup_keys_resultTypes isResults (nodup_keys_publicProperties classes c)
  rw [Entries.get?_merge _ distinct, get?_usedResults apart isResults,
    get?_fieldTypes apart isOwn, Provider.read?, isRecord]
  cases isPublic name with
  | false => rfl
  | true => cases classes.property? c name <;> rfl

/-- What can be written on a record is found by its rule, and is assigned or replaced. -/
theorem get?_recordTargets [Packages] (apart : classes.NamesApart)
    (isRecord : classes.recordLayout? c = some layout) {entries : Entries String Writable}
    (given : (classes.recordTargets c layout).value = .ok entries) :
    (∀ entry ∈ entries, ∀ description write, entry.2.mode ≠ .custom description write) ∧
      ∀ name, (Entries.get? entries name).map (·.declared) =
        Provider.record.written? classes c name := by
  rw [recordTargets] at given
  cases isFrozen : layout.isFrozen with
  | true =>
    rw [isFrozen, if_pos rfl] at given
    obtain ⟨own, isOwn, rfl⟩ := exists_of_value_bind_pure given
    refine ⟨?_, fun name => ?_⟩
    · intro entry mem description write
      obtain ⟨typed, -, rfl⟩ := List.mem_map.mp mem
      simp
    · rw [Entries.get?_map fun _ type => Writable.mk type (.replacement classes.replaceField),
        Option.map_map, get?_fieldTypes apart isOwn, Provider.written?, isRecord]
      cases isPublic name with
      | false => rfl
      | true => simp [isFrozen, Function.comp_def]
  | false =>
    rw [isFrozen, if_neg Bool.false_ne_true] at given
    obtain ⟨own, isOwn, given⟩ := exists_of_value_bind given fun _ =>
      (isSteady_resultTypes _ _).bind fun _ => isSteady_pure _
    obtain ⟨results, isResults, rfl⟩ := exists_of_value_bind_pure given
    have distinct := nodup_keys_resultTypes isResults (nodup_keys_publicProperties classes c)
    refine ⟨Provider.ordinary_of_assigned _, fun name => ?_⟩
    refine (Provider.get?_declared_assigned _ name).trans ?_
    rw [Entries.get?_merge _ distinct, get?_usedResults apart isResults,
      get?_fieldTypes apart isOwn, Provider.written?, isRecord]
    cases isPublic name with
    | false => rfl
    | true => simp [isFrozen]

/-- What a record lists follows its rules. -/
theorem record_discovers [Packages] (apart : classes.NamesApart) (isClass : type.classId? = some c)
    (isRecord : classes.recordLayout? c = some layout) :
    Discovers (Provider.record.sources classes type) (Provider.record.targets classes type)
      (Provider.record.read? classes c) (Provider.record.written? classes c) := by
  have fields := apart.recordFields_of_layout isRecord
  refine Provider.discovers_of_get? (fun types given => ?_) fun entries given => ?_
  · simp only [Provider.readable, isClass, isRecord] at given
    exact ⟨nodup_keys_recordSources fields given, get?_recordSources apart isRecord given⟩
  · simp only [Provider.writable, isClass, isRecord] at given
    exact ⟨nodup_keys_recordTargets fields given, get?_recordTargets apart isRecord given⟩

end Records

/-! ## Interfaces -/

section Interfaces

variable {a : ClassInfo Code} {writableOnly : Bool} {name : String}

/-- What can be evaluated is used as it is evaluated. -/
theorem type?_eq_usedType? (apart : a.NamesApart) (evaluates : a.Evaluates writableOnly)
    (shown : isPublic name = true) {declaration : OwnDeclaration}
    (declares : a.declares? name = some declaration) :
    declaration.type? writableOnly = declaration.usedType? writableOnly := by
  cases declaration with
  | annotated declared => rfl
  | property p =>
    rw [OwnDeclaration.type?, OwnDeclaration.usedType?]
    split
    · rfl
    · next counts =>
      refine p.readType?_eq fun getter isGetter => ?_
      have isOwn : Entries.get? (ownPublicProperties a) name = some p := by
        rw [get?_ownPublicProperties apart, if_pos shown]
        exact a.property?_of_declares? declares
      refine evaluates.properties _ (Entries.mem_of_get?_eq_some isOwn) getter isGetter ?_
      intro isOnly
      simpa [isOnly] using counts

/-- Where nothing fails but for a tolerated reason, only annotations keep an interface from
being evaluated. -/
theorem evaluates_iff (tolerable : a.IsTolerable) :
    a.Evaluates writableOnly ↔ a.annotationsEvaluate = true := by
  rw [ClassInfo.annotationsEvaluate_iff]
  exact ⟨fun evaluates => evaluates.annotations, fun annotations =>
    ⟨annotations, fun entry mem getter isGetter _ =>
      tolerable.exists_resultType entry mem getter isGetter⟩⟩

/-- Where everything is evaluated that counts, the declarations are used as they are
evaluated. -/
theorem firstUsable?_eq_usedMember? (apart : classes.NamesApart)
    (evaluates : ∀ a ∈ classes.interfaceLine c, a.Evaluates writableOnly)
    (shown : isPublic name = true) :
    firstUsable? (classes.interfaceLine c) writableOnly name =
      classes.usedMember? c writableOnly name := by
  refine findSome?_congr fun a mem => ?_
  cases declares : a.declares? name with
  | none => rfl
  | some declaration =>
    exact type?_eq_usedType? (apart.of_mem_interfaceLine mem) (evaluates a mem) shown declares

/-- The members of an interface are found by its rules. -/
theorem get?_interfaceTypes (apart : classes.NamesApart) {gathered : Entries String TypeExpr}
    (given : (gatherMembers writableOnly [] (classes.interfaceLine c)).value = .ok gathered)
    (name : String) :
    Entries.get? gathered name =
      if isPublic name then classes.usedMember? c writableOnly name else none := by
  have evaluates := (exists_gatherMembers_iff []).mp ⟨gathered, given⟩
  rw [get?_gatherMembers (fun a mem => apart.of_mem_interfaceLine mem) given]
  cases shown : isPublic name with
  | false => rfl
  | true => exact firstUsable?_eq_usedMember? apart evaluates shown

/-- What an interface lists follows its rules. -/
theorem interface_discovers [Packages] (apart : classes.NamesApart)
    (isClass : type.classId? = some c) :
    Discovers (Provider.interface.sources classes type) (Provider.interface.targets classes type)
      (Provider.interface.read? classes c) (Provider.interface.written? classes c) :=
  interface_discovers_of_get? isClass fun _ _ given => get?_interfaceTypes apart given

end Interfaces

end ClassTable

/-! ## Tolerable classes -/

/-- A record, an interface or a plain class of which nothing fails but for a tolerated reason,
along its whole line, lists both sides; only that an interface lists nothing if an annotation
of an interface of the line cannot be evaluated. The names that are listed have the types that
are used: those that are evaluated, or as they are written where that fails. -/
theorem tolerable_class_listed_iff [Packages] {classes : ClassTable Code}
    (apart : classes.NamesApart) {type : TypeExpr} {c : ClassId} (isClass : type.classId? = some c)
    (tolerable : ∀ a ∈ classes.line c, a.IsTolerable) {provider : Provider}
    (resolved : Registry.standard.resolve classes type = some provider)
    (annotated : provider ∈ [.record, .interface, .plain]) :
    ((∃ sources, (Registry.standard.sources classes type).outcome.1 = .ok sources) ↔
      (provider = .interface →
        ∀ a ∈ classes.interfaceLine c, a.annotationsEvaluate = true)) ∧
    ((∃ targets, (Registry.standard.targets classes type).outcome.1 = .ok targets) ↔
      (provider = .interface →
        ∀ a ∈ classes.interfaceLine c, a.annotationsEvaluate = true)) ∧
    Discovers (Registry.standard.sources classes type) (Registry.standard.targets classes type)
      (provider.read? classes c) (provider.written? classes c) := by
  have annotations := ClassTable.exists_classAnnotations tolerable
  have results := ClassTable.exists_publicResults apart fun a mem =>
    (tolerable a mem).exists_resultType
  rw [Registry.outcome_sources resolved, Registry.outcome_targets resolved]
  simp only [List.mem_cons, List.not_mem_nil, or_false] at annotated
  rcases annotated with rfl | rfl | rfl
  · obtain ⟨-, isFor⟩ := Registry.isFor_of_resolve classes resolved
    simp only [Provider.isFor, isClass, Option.isSome_iff_exists] at isFor
    obtain ⟨layout, isRecord⟩ := isFor
    obtain ⟨read, written⟩ := ClassTable.exists_record_lists isClass isRecord annotations results
    exact ⟨iff_of_true read (by simp), iff_of_true written (by simp),
      Registry.discovers_of_resolve resolved
        (ClassTable.record_discovers apart isClass isRecord)⟩
  · -- An interface does not fall back on what is written, so that its annotations count.
    have each (writableOnly : Bool) :
        (∀ a ∈ classes.interfaceLine c, a.Evaluates writableOnly) ↔
          (Provider.interface = .interface →
            ∀ a ∈ classes.interfaceLine c, a.annotationsEvaluate = true) := by
      rw [forall_prop_of_true rfl]
      exact forall₂_congr fun a mem =>
        ClassTable.evaluates_iff (tolerable a (List.mem_filter.mp mem).1)
    exact ⟨(exists_sources_interface_iff isClass).trans (each false),
      (exists_targets_interface_iff isClass).trans (each true),
      Registry.discovers_of_resolve resolved (ClassTable.interface_discovers apart isClass)⟩
  · obtain ⟨read, written⟩ := ClassTable.exists_plain_lists isClass annotations results
    exact ⟨iff_of_true read (by simp), iff_of_true written (by simp),
      Registry.discovers_of_resolve resolved (ClassTable.plain_discovers apart isClass)⟩

/-! ## A title next to an owner -/

/-- The annotations of a draft: a title, and an owner of a class that is not known. -/
def draftAnnotations : Entries String TypeExpr :=
  [("title", .standard .str), ("owner", .unbound "Owner")]

/-- A record and an interface with these annotations. -/
def drafts : ClassTable Code where
  classes := #[
    { name := ⟨.declared 0, "models", "Draft", "Draft"⟩
      lineage := [.declared 0, .standard .object]
      annotations := draftAnnotations
      initializer? := some .record
      record? := some {
        fields := draftAnnotations.map fun entry => {
          name := entry.1, kind := .stored, declared := entry.2
          default? := none, accepted := true, nameOnly := false }
        isFrozen := false, isSlotted := false, hasAfterInit := false } },
    { name := ⟨.declared 1, "models", "Drafted", "Drafted"⟩
      lineage := [.declared 1, .standard .object]
      isInterface := true
      annotations := draftAnnotations }]

/-- The type of one of these classes. -/
def draftType (index : Nat) : TypeExpr :=
  drafts.typeOf (.declared index)

theorem namesApart_drafts : drafts.NamesApart := by
  refine ClassTable.namesApart_of_declared fun c mem => ?_
  simp only [drafts, List.mem_toArray, List.mem_cons, List.not_mem_nil, or_false] at mem
  rcases mem with rfl | rfl
  all_goals exact
    ⟨by simp [Entries.keys, draftAnnotations], by simp [Entries.keys],
      by simp [draftAnnotations], by simp, by simp⟩

theorem isTolerable_drafts {index : Nat} (bound : index < 2) :
    ∀ a ∈ drafts.line (.declared index), a.IsTolerable := by
  have isLine : drafts.line (.declared index) =
      [drafts.info (.declared index), drafts.info (.standard .object)] := by
    interval_cases index <;> rfl
  intro a mem
  rw [isLine] at mem
  simp only [List.mem_cons, List.not_mem_nil, or_false] at mem
  rcases mem with rfl | rfl
  · interval_cases index <;> exact ClassInfo.isTolerable_of_annotations rfl rfl
  · exact ClassInfo.isTolerable_of_annotations rfl rfl

open scoped RuntimePackages

/-- The record lists its owner on both sides as it is written. -/
theorem tolerable_class_listed_iff_draft :
    (drafts.NamesApart ∧ (draftType 0).classId? = some (.declared 0) ∧
      (∀ a ∈ drafts.line (.declared 0), a.IsTolerable) ∧
      Registry.standard.resolve drafts (draftType 0) = some .record ∧
      Provider.record ∈ [.record, .interface, .plain]) ∧
    (∃ sources, (Registry.standard.sources drafts (draftType 0)).outcome.1 = .ok sources ∧
      ("owner", .unbound "Owner") ∈ sources.map (·.typed)) ∧
    ∃ targets, (Registry.standard.targets drafts (draftType 0)).outcome.1 = .ok targets ∧
      ("owner", .unbound "Owner") ∈ targets.map (·.typed) := by
  refine ⟨⟨namesApart_drafts, rfl, isTolerable_drafts (by decide), rfl, List.mem_cons_self⟩, ?_⟩
  obtain ⟨read, written, discovers⟩ := tolerable_class_listed_iff namesApart_drafts
    (show (draftType 0).classId? = some (.declared 0) from rfl) (isTolerable_drafts (by decide))
    (show Registry.standard.resolve drafts (draftType 0) = some .record from rfl)
    List.mem_cons_self
  obtain ⟨sources, isSources⟩ := read.mpr (by simp)
  obtain ⟨targets, isTargets⟩ := written.mpr (by simp)
  refine ⟨⟨sources, isSources, ?_⟩, targets, isTargets, ?_⟩
  · rw [(discovers.sources sources isSources).mem_iff]
    cbv
  · rw [(discovers.targets targets isTargets).mem_iff]
    cbv

/-- The interface lists nothing, although the owner is a name that is not known, which
records and plain classes tolerate. -/
theorem not_listed_drafted :
    drafts.NamesApart ∧ Registry.standard.resolve drafts (draftType 1) = some .interface ∧
    (∀ a ∈ drafts.line (.declared 1), a.IsTolerable) ∧
    (Registry.standard.sources drafts (draftType 1)).outcome.1 = .error (.unboundName "Owner") ∧
    (Registry.standard.targets drafts (draftType 1)).outcome.1 = .error (.unboundName "Owner") :=
  ⟨namesApart_drafts, rfl, isTolerable_drafts (by decide), by cbv, by cbv⟩

end ObjectMapping
