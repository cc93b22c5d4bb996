import Mathlib
import ObjectMapping.Package.Runtime
import ObjectMapping.Proofs.Discovery.Listed

/-!
# What interfaces declare

An interface has the members of all interfaces that it extends. Where several of
them declare one name, the most derived declaration is documented to win. What
wins is the most derived declaration that can be used: one for the class itself,
and on the writable side a property without setter, gives way to what a less
derived interface declares. `interface_lists_firstUsable` says so of every
interface, and `firstUsable?_eq_documented?_iff` when that is the documented rule.
-/

namespace ObjectMapping

open Logged

/-- What a class itself declares under a name. -/
inductive OwnDeclaration where
  /-- A property that can be read. -/
  | property (p : Property Code)
  /-- An annotation, as it is written. -/
  | annotated (declared : TypeExpr)

/-- What a class itself declares under a name. A property that can be read stands in
front of an annotation. -/
def ClassInfo.declares? (c : ClassInfo Code) (name : String) : Option OwnDeclaration :=
  match ((Entries.get? c.members name).bind Member.property?).filter (·.getter?.isSome) with
  | some p => some (.property p)
  | none => (Entries.get? c.annotations name).map .annotated

/-- The type with which a declaration can be used, if it can: an annotation that is not
for the class itself, and a property, which where it is to be written needs a setter. -/
def OwnDeclaration.type? (writableOnly : Bool) : OwnDeclaration → Option TypeExpr
  | .property p => if writableOnly && !p.isWritable then none else p.readType?
  | .annotated declared => declared.resolveSurface.toOption.filter (!·.isClassLevel)

/-- The type under a name by the documented rule: that of the most derived declaration,
if it can be used. -/
def documented? (line : List (ClassInfo Code)) (writableOnly : Bool) (name : String) :
    Option TypeExpr :=
  (line.findSome? (·.declares? name)).bind (·.type? writableOnly)

/-- The type under a name of the most derived declaration that can be used. -/
def firstUsable? (line : List (ClassInfo Code)) (writableOnly : Bool) (name : String) :
    Option TypeExpr :=
  line.findSome? fun c => (c.declares? name).bind (·.type? writableOnly)

/-- All types can be evaluated that a class itself declares: those of its annotations,
and the result types of its public properties, as far as they count. -/
structure ClassInfo.Evaluates (c : ClassInfo Code) (writableOnly : Bool) : Prop where
  annotations : ∀ entry ∈ c.annotations, ∃ type, entry.2.resolveSurface = .ok type
  properties : ∀ entry ∈ ClassTable.ownPublicProperties c, ∀ getter,
    entry.2.getter? = some getter → (writableOnly = true → entry.2.isWritable = true) →
    ∃ type, (resultType getter).value = .ok type

/-- A declaration that can be used is found by either rule. The rules part where the
most derived declaration cannot be used and another one can. -/
theorem firstUsable?_eq_documented?_iff (line : List (ClassInfo Code)) (writableOnly : Bool)
    (name : String) :
    firstUsable? line writableOnly name = documented? line writableOnly name ↔
      (documented? line writableOnly name).isSome ∨ firstUsable? line writableOnly name = none := by
  induction line with
  | nil => simp [firstUsable?, documented?]
  | cons c rest ih =>
    simp only [firstUsable?, documented?, List.findSome?_cons] at ih ⊢
    cases c.declares? name with
    | none => exact ih
    | some declaration =>
      cases usable : declaration.type? writableOnly with
      | some type => simp [usable]
      | none => simp [usable]

namespace ClassTable

/-! ## One interface -/

section Members

variable {writableOnly : Bool} {properties : Entries String (Property Code)}
  {members result : Entries String TypeExpr}

/-- A property that can be read takes the place of an annotation, or takes it away. -/
theorem get?_addProperties
    (given : (interfaceMembers.addProperties writableOnly members properties).value = .ok result)
    (distinct : (Entries.keys properties).Nodup) (name : String) :
    Entries.get? result name =
      match (Entries.get? properties name).filter (·.getter?.isSome) with
      | some p => (OwnDeclaration.property p).type? writableOnly
      | none => Entries.get? members name := by
  fun_induction interfaceMembers.addProperties writableOnly members properties with
  | case1 =>
    cases given
    rfl
  | case2 members other p rest isGetter ih =>
    obtain ⟨notLater, distinctRest⟩ := List.nodup_cons.mp distinct
    rw [ih given distinctRest]
    by_cases same : other = name
    · have nothing : Entries.get? rest name = none :=
        (Entries.get?_eq_none_iff rest name).mpr (same ▸ notLater)
      simp [Entries.get?, same, nothing, Option.filter, isGetter]
    · simp [Entries.get?, same]
  | case3 members other p rest getter isGetter hidden ih =>
    obtain ⟨notLater, distinctRest⟩ := List.nodup_cons.mp distinct
    rw [ih given distinctRest, Entries.get?_erase]
    by_cases same : other = name
    · have nothing : Entries.get? rest name = none :=
        (Entries.get?_eq_none_iff rest name).mpr (same ▸ notLater)
      simp [Entries.get?, same, nothing, Option.filter, isGetter, OwnDeclaration.type?, hidden]
    · simp [Entries.get?, same]
  | case4 members other p rest getter isGetter shown ih =>
    obtain ⟨notLater, distinctRest⟩ := List.nodup_cons.mp distinct
    obtain ⟨type, isType, given⟩ := exists_of_value_bind given fun _ =>
      isSteady_addProperties writableOnly _ rest
    rw [ih type given distinctRest, Entries.put, Entries.get?_alter]
    by_cases same : other = name
    · have nothing : Entries.get? rest name = none :=
        (Entries.get?_eq_none_iff rest name).mpr (same ▸ notLater)
      simp [Entries.get?, same, nothing, Option.filter, isGetter, OwnDeclaration.type?, shown,
        Property.readType?, isType, Except.toOption]
    · simp [Entries.get?, same]

/-- Properties can be added whose types can be evaluated, as far as they count. -/
theorem exists_addProperties_iff (members : Entries String TypeExpr) :
    (∃ result, (interfaceMembers.addProperties writableOnly members properties).value =
        .ok result) ↔
      ∀ entry ∈ properties, ∀ getter, entry.2.getter? = some getter →
        (writableOnly = true → entry.2.isWritable = true) →
        ∃ type, (resultType getter).value = .ok type := by
  fun_induction interfaceMembers.addProperties writableOnly members properties with
  | case1 => simp
  | case2 members other p rest isGetter ih => simp [ih, isGetter]
  | case3 members other p rest getter isGetter hidden ih =>
    obtain ⟨isWritableOnly, notWritable⟩ := Bool.and_eq_true_iff.mp hidden
    rw [Bool.not_eq_true'] at notWritable
    rw [ih, List.forall_mem_cons]
    refine ⟨fun each => ⟨?_, each⟩, fun each => each.2⟩
    intro _ _ counts
    rw [counts isWritableOnly] at notWritable
    cases notWritable
  | case4 members other p rest getter isGetter shown ih =>
    have counts : writableOnly = true → p.isWritable = true := by
      intro isWritableOnly
      simpa [isWritableOnly] using shown
    rw [value_bind _ fun _ => isSteady_addProperties writableOnly _ rest, List.forall_mem_cons]
    cases isType : (resultType getter).value with
    | error e =>
      simp only [bind, Except.bind, reduceCtorEq, exists_false, false_iff, not_and]
      intro each
      obtain ⟨type, evaluated⟩ := each getter isGetter counts
      rw [isType] at evaluated
      cases evaluated
    | ok type =>
      rw [← ih type]
      refine ⟨fun given => ⟨?_, given⟩, fun given => given.2⟩
      rintro other isOther -
      obtain rfl : getter = other := Option.some.inj (isGetter.symm.trans isOther)
      exact ⟨type, isType⟩

variable {c : ClassInfo Code}

/-- An interface itself has a member under each public name under which it declares
something that can be used. -/
theorem get?_interfaceMembers (apart : c.NamesApart)
    (given : (interfaceMembers c writableOnly).value = .ok members) (name : String) :
    Entries.get? members name =
      if isPublic name then (c.declares? name).bind (·.type? writableOnly) else none := by
  obtain ⟨resolved, isResolved, given⟩ := exists_of_value_bind given fun _ =>
    isSteady_addProperties writableOnly _ _
  rw [value_mk] at isResolved
  have distinct : (Entries.keys resolved).Nodup :=
    keys_resolveEntries isResolved ▸ apart.annotations
  rw [get?_addProperties given (nodup_keys_ownPublicProperties apart),
    get?_ownPublicProperties apart, get?_instanceEntries distinct,
    get?_resolveEntries isResolved, ClassInfo.declares?]
  cases shown : isPublic name with
  | false =>
    cases (Entries.get? c.annotations name).bind fun type => type.resolveSurface.toOption <;>
      simp [Option.filter]
  | true =>
    simp only [if_true]
    cases ((Entries.get? c.members name).bind Member.property?).filter (·.getter?.isSome) with
    | some p => rfl
    | none => cases Entries.get? c.annotations name <;> simp [OwnDeclaration.type?]

/-- An interface itself has members if what it declares can be evaluated. -/
theorem exists_interfaceMembers_iff :
    (∃ members, (interfaceMembers c writableOnly).value = .ok members) ↔
      c.Evaluates writableOnly := by
  have parts : c.Evaluates writableOnly ↔
      (∃ resolved, resolveEntries c.annotations = .ok resolved) ∧
        ∃ members, (interfaceMembers.addProperties writableOnly []
          (ownPublicProperties c)).value = .ok members := by
    rw [exists_resolveEntries_iff, exists_addProperties_iff]
    exact ⟨fun evaluates => ⟨evaluates.annotations, evaluates.properties⟩,
      fun evaluates => ⟨evaluates.1, evaluates.2⟩⟩
  rw [parts, interfaceMembers, value_bind _ fun _ => isSteady_addProperties writableOnly _ _,
    value_mk]
  cases resolveEntries c.annotations with
  | error e => simp [bind, Except.bind]
  | ok resolved =>
    -- What stands in the place of the annotations does not decide whether properties evaluate.
    show (∃ members, (interfaceMembers.addProperties writableOnly (instanceEntries resolved)
      _).value = .ok members) ↔ _
    rw [exists_addProperties_iff, exists_addProperties_iff]
    simp

end Members

/-! ## All interfaces of a line -/

variable {classes : ClassTable Code} {writableOnly : Bool} {line : List (ClassInfo Code)}
  {found gathered : Entries String TypeExpr}

theorem NamesApart.of_mem_interfaceLine (apart : classes.NamesApart) {c : ClassId}
    {a : ClassInfo Code} (mem : a ∈ classes.interfaceLine c) : a.NamesApart := by
  obtain ⟨isAncestor, -⟩ := List.mem_filter.mp mem
  obtain ⟨ancestor, -, rfl⟩ := List.mem_map.mp isAncestor
  exact apart ancestor

theorem nodup_keys_gatherMembers
    (given : (gatherMembers writableOnly found line).value = .ok gathered)
    (distinct : (Entries.keys found).Nodup) : (Entries.keys gathered).Nodup := by
  induction line generalizing found with
  | nil =>
    cases given
    exact distinct
  | cons c rest ih =>
    obtain ⟨members, -, given⟩ := exists_of_value_bind given fun _ =>
      isSteady_gatherMembers writableOnly _ rest
    exact ih given (Entries.nodup_keys_mergeAbsent _ distinct)

/-- What was found before counts, and behind it the most derived declaration that can
be used. -/
theorem get?_gatherMembers (apart : ∀ c ∈ line, c.NamesApart)
    (given : (gatherMembers writableOnly found line).value = .ok gathered) (name : String) :
    Entries.get? gathered name =
      (Entries.get? found name).or
        (if isPublic name then firstUsable? line writableOnly name else none) := by
  induction line generalizing found with
  | nil =>
    cases given
    simp [firstUsable?]
  | cons c rest ih =>
    obtain ⟨apartFirst, apartRest⟩ := List.forall_mem_cons.mp apart
    obtain ⟨members, isMembers, given⟩ := exists_of_value_bind given fun _ =>
      isSteady_gatherMembers writableOnly _ rest
    rw [ih apartRest given, Entries.get?_mergeAbsent, get?_interfaceMembers apartFirst isMembers,
      firstUsable?, firstUsable?, List.findSome?_cons, Option.or_assoc]
    cases isPublic name with
    | false => simp
    | true => cases (c.declares? name).bind (·.type? writableOnly) <;> simp

theorem exists_gatherMembers_iff (found : Entries String TypeExpr) :
    (∃ gathered, (gatherMembers writableOnly found line).value = .ok gathered) ↔
      ∀ c ∈ line, c.Evaluates writableOnly := by
  induction line generalizing found with
  | nil => simp [gatherMembers]
  | cons c rest ih =>
    rw [gatherMembers, value_bind _ fun _ => isSteady_gatherMembers writableOnly _ rest,
      List.forall_mem_cons, ← exists_interfaceMembers_iff]
    cases (interfaceMembers c writableOnly).value with
    | error e => simp [bind, Except.bind]
    | ok members =>
      rw [← ih (Entries.mergeAbsent found members)]
      simp [bind, Except.bind]

end ClassTable

/-! ## What is listed -/

/-- The properties that are listed of an interface are those that a rule tells, each once
and with the type that the rule tells: on the one side what can be read, on the other
what can be written. -/
structure ListsByRule [Packages] (classes : ClassTable Code) (type : TypeExpr)
    (rule : Bool → String → Option TypeExpr) : Prop where
  sources : ∀ discovered, (Provider.interface.sources classes type).outcome.1 = .ok discovered →
    (discovered.map (·.name)).Nodup ∧ ∀ name t,
      (∃ s ∈ discovered, s.name = name ∧ s.type = t) ↔
        isPublic name = true ∧ (rule false name).map TypeExpr.core = some t
  targets : ∀ discovered, (Provider.interface.targets classes type).outcome.1 = .ok discovered →
    (discovered.map (·.name)).Nodup ∧ ∀ name t,
      (∃ p ∈ discovered, p.name = name ∧ p.type = t) ↔
        isPublic name = true ∧ (rule true name).map TypeExpr.core = some t

section Listing

variable {classes : ClassTable Code} {type : TypeExpr} {c : ClassId}

theorem value_readable_interface (isClass : type.classId? = some c) :
    (Provider.interface.readable classes type).value =
      (ClassTable.gatherMembers false [] (classes.interfaceLine c)).value := by
  rw [Provider.readable.eq_def, isClass]
  rfl

theorem value_writable_interface [Packages] (isClass : type.classId? = some c) :
    (Provider.interface.writable classes type).value =
      (ClassTable.gatherMembers true [] (classes.interfaceLine c)).value.map
        Provider.assigned := by
  rw [Provider.writable.eq_def, isClass]
  exact value_bind_pure _ _

/-- What an interface lists follows a rule if its gathered members do. -/
theorem interface_discovers_of_get? [Packages] (isClass : type.classId? = some c)
    {rule : Bool → String → Option TypeExpr}
    (found : ∀ writableOnly gathered,
      (ClassTable.gatherMembers writableOnly [] (classes.interfaceLine c)).value = .ok gathered →
        ∀ name, Entries.get? gathered name = rule writableOnly name) :
    Discovers (Provider.interface.sources classes type) (Provider.interface.targets classes type)
      (rule false) (rule true) := by
  refine Provider.discovers_of_get? (fun types given => ?_) fun entries given => ?_
  · rw [value_readable_interface isClass] at given
    exact ⟨ClassTable.nodup_keys_gatherMembers given List.nodup_nil, found false types given⟩
  · rw [Provider.writable.eq_def, isClass] at given
    obtain ⟨types, isTypes, rfl⟩ := exists_of_value_bind_pure given
    refine ⟨?_, Provider.ordinary_of_assigned types, fun name => ?_⟩
    · rw [Provider.keys_assigned]
      exact ClassTable.nodup_keys_gatherMembers isTypes List.nodup_nil
    · rw [Provider.get?_declared_assigned]
      exact found true types isTypes name

/-- An interface lists the properties of which a declaration can be used. -/
theorem listsByRule_firstUsable [Packages] (apart : classes.NamesApart)
    (isClass : type.classId? = some c) :
    ListsByRule classes type (firstUsable? (classes.interfaceLine c)) := by
  have discovers : Discovers (Provider.interface.sources classes type)
      (Provider.interface.targets classes type)
      (fun name =>
        if isPublic name then firstUsable? (classes.interfaceLine c) false name else none)
      (fun name => if isPublic name then firstUsable? (classes.interfaceLine c) true name
        else none) :=
    interface_discovers_of_get? isClass fun writableOnly gathered given name =>
      (ClassTable.get?_gatherMembers (fun a mem => apart.of_mem_interfaceLine mem) given name)
  have told (found? : Option TypeExpr) (name : String) (t : TypeExpr) :
      (if isPublic name then found? else none).map TypeExpr.core = some t ↔
        isPublic name = true ∧ found?.map TypeExpr.core = some t := by
    cases isPublic name <;> simp
  constructor
  · intro discovered given
    have follows := discovers.sources discovered given
    refine ⟨?_, fun name t => ?_⟩
    · simpa [Entries.keys, Function.comp_def, SourceProperty.typed] using follows.distinct
    · rw [← told, ← follows.mem_iff]
      simp [SourceProperty.typed]
  · intro discovered given
    have follows := discovers.targets discovered given
    refine ⟨?_, fun name t => ?_⟩
    · simpa [Entries.keys, Function.comp_def, TargetProperty.typed] using follows.distinct
    · rw [← told, ← follows.mem_iff]
      simp [TargetProperty.typed]

/-- The sources of an interface are listed if all can be evaluated that it declares. -/
theorem exists_sources_interface_iff [PackageReading] (isClass : type.classId? = some c) :
    (∃ discovered, (Provider.interface.sources classes type).outcome.1 = .ok discovered) ↔
      ∀ a ∈ classes.interfaceLine c, a.Evaluates false := by
  rw [← ClassTable.exists_gatherMembers_iff [], Provider.exists_sources_iff,
    value_readable_interface isClass]

/-- The targets of an interface are listed if all can be evaluated that counts for
writing. -/
theorem exists_targets_interface_iff [Packages] (isClass : type.classId? = some c) :
    (∃ discovered, (Provider.interface.targets classes type).outcome.1 = .ok discovered) ↔
      ∀ a ∈ classes.interfaceLine c, a.Evaluates true := by
  rw [← ClassTable.exists_gatherMembers_iff [], Provider.exists_targets_iff,
    value_writable_interface isClass]
  cases (ClassTable.gatherMembers true [] (classes.interfaceLine c)).value <;> simp [Except.map]

/-- What an interface lists: each side if all can be evaluated that counts for it, and
then under each public name the most derived declaration that can be used. That is the
documented rule except for names of which the most derived declaration cannot be used and
another one can. -/
theorem interface_lists_firstUsable [Packages] (apart : classes.NamesApart)
    (isClass : type.classId? = some c) :
    ((∃ discovered, (Provider.interface.sources classes type).outcome.1 = .ok discovered) ↔
      ∀ a ∈ classes.interfaceLine c, a.Evaluates false) ∧
    ((∃ discovered, (Provider.interface.targets classes type).outcome.1 = .ok discovered) ↔
      ∀ a ∈ classes.interfaceLine c, a.Evaluates true) ∧
    ListsByRule classes type (firstUsable? (classes.interfaceLine c)) ∧
    ∀ writableOnly name,
      firstUsable? (classes.interfaceLine c) writableOnly name =
          documented? (classes.interfaceLine c) writableOnly name ↔
        (documented? (classes.interfaceLine c) writableOnly name).isSome ∨
          firstUsable? (classes.interfaceLine c) writableOnly name = none :=
  ⟨exists_sources_interface_iff isClass, exists_targets_interface_iff isClass,
    listsByRule_firstUsable apart isClass, firstUsable?_eq_documented?_iff _⟩

end Listing

/-! ## Declarations that give way -/

/-- An interface with a name, and two that extend it: one where the name is for the class
itself, and one where it can only be read. -/
def namedInterfaces : ClassTable Code where
  classes := #[
    { name := ⟨.declared 0, "models", "Named", "Named"⟩
      lineage := [.declared 0, .standard .object]
      isInterface := true
      annotations := [("name", .standard .str)] },
    { name := ⟨.declared 1, "models", "Shared", "Shared"⟩
      lineage := [.declared 1, .declared 0, .standard .object]
      isInterface := true
      annotations := [("name", .qualified .classVar (.standard .str))] },
    { name := ⟨.declared 2, "models", "Shown", "Shown"⟩
      lineage := [.declared 2, .declared 0, .standard .object]
      isInterface := true
      members := [("name", .property {
        getter? := some {
          label := "Shown.name", result? := some (.standard .str)
          body := fun _ => return .text "shown" }
        setter? := none })] }]

/-- The type of one of these interfaces. -/
def namedType (index : Nat) : TypeExpr :=
  namedInterfaces.typeOf (.declared index)

theorem namesApart_namedInterfaces : namedInterfaces.NamesApart := by
  refine ClassTable.namesApart_of_declared fun c mem => ?_
  simp only [namedInterfaces, List.mem_toArray, List.mem_cons, List.not_mem_nil, or_false] at mem
  rcases mem with rfl | rfl | rfl
  all_goals exact ⟨by decide, by simp [Entries.keys], by simp, by simp, by simp⟩

open scoped RuntimePackages

/-- Under the name, the interface where it can only be read lists what it declares itself
for reading, and what the interface behind it declares for writing. -/
theorem interface_lists_firstUsable_shown :
    (namedInterfaces.NamesApart ∧ (namedType 2).classId? = some (.declared 2)) ∧
    ListsByRule namedInterfaces (namedType 2)
      (firstUsable? (namedInterfaces.interfaceLine (.declared 2))) ∧
    firstUsable? (namedInterfaces.interfaceLine (.declared 2)) true "name" =
      some (.standard .str) :=
  ⟨⟨namesApart_namedInterfaces, rfl⟩,
    (interface_lists_firstUsable namesApart_namedInterfaces rfl).2.2.1, rfl⟩

theorem sources_shared [PackageReading] :
    (Provider.interface.sources namedInterfaces (namedType 1)).outcome.1 =
      .ok (Provider.listedSources namedInterfaces (namedType 1) [("name", .standard .str)]) := by
  cbv

theorem targets_shown [Packages] :
    (Provider.interface.targets namedInterfaces (namedType 2)).outcome.1 =
      .ok (Provider.listedTargets (namedType 2)
        (Provider.assigned [("name", .standard .str)])) := by
  cbv

/-- The most derived declaration does not always win. A name that an interface declares for
the class itself, or only for reading, is listed as the interface behind it declares it. -/
theorem not_listsByRule_documented :
    ¬ ListsByRule namedInterfaces (namedType 1)
      (documented? (namedInterfaces.interfaceLine (.declared 1))) ∧
    ¬ ListsByRule namedInterfaces (namedType 2)
      (documented? (namedInterfaces.interfaceLine (.declared 2))) := by
  constructor
  · intro lists
    obtain ⟨-, isRule⟩ := (lists.sources _ sources_shared).2 "name" (.standard .str) |>.mp
      ⟨_, List.mem_cons_self, rfl, rfl⟩
    have hidden :
        documented? (namedInterfaces.interfaceLine (.declared 1)) false "name" = none := rfl
    rw [hidden] at isRule
    cases isRule
  · intro lists
    obtain ⟨-, isRule⟩ := (lists.targets _ targets_shown).2 "name" (.standard .str) |>.mp
      ⟨_, List.mem_cons_self, rfl, rfl⟩
    have hidden :
        documented? (namedInterfaces.interfaceLine (.declared 2)) true "name" = none := rfl
    rw [hidden] at isRule
    cases isRule

end ObjectMapping
