import ObjectMapping.Proofs.Discovery.Declared

/-!
# The lists that providers make

A provider makes one property of each entry that it finds. The names of the
properties are the keys of the entries, and their types are the declared ones
without wrappers, unless code of their own writes them. So a list can be told
name by name: `Follows` says that it has the types that a rule has, and
`Provider.discovers_of_get?` that what is discovered follows the rules by which
entries are found.
-/

namespace ObjectMapping

open Logged

/-- What is told of the elements of a list is told of them in order. -/
theorem List.map_mapIdx_eq {α β γ : Type} {f : Nat → α → β} {g : β → γ} {h : α → γ}
    (same : ∀ i a, g (f i a) = h a) (list : List α) : (list.mapIdx f).map g = list.map h := by
  refine List.ext_getElem (by simp) ?_
  intro i bound bound'
  simp [same]

/-- The name of a source property and the type of its values. -/
def SourceProperty.typed (s : SourceProperty) : String × TypeExpr :=
  (s.name, s.type)

/-- The name of a target property and the type of its values. -/
def TargetProperty.typed (t : TargetProperty) : String × TypeExpr :=
  (t.name, t.type)

namespace Provider

variable (classes : ClassTable Code) (type : TypeExpr)

/-- The source properties that are made of entries. -/
def listedSources [PackageReading] (entries : Entries String TypeExpr) : List SourceProperty :=
  entries.mapIdx fun identity entry =>
    SourceProperty.ofAttribute classes identity type entry.1 entry.2

/-- The target properties that are made of entries. -/
def listedTargets (entries : Entries String Writable) : List TargetProperty :=
  entries.mapIdx fun identity entry =>
    TargetProperty.declare identity type entry.1 entry.2.declared entry.2.mode

theorem value_sources [PackageReading] (provider : Provider) :
    (provider.sources classes type).value =
      (provider.readable classes type).value.map (listedSources classes type) :=
  value_bind_pure _ _

theorem value_targets [Packages] (provider : Provider) :
    (provider.targets classes type).value =
      (provider.writable classes type).value.map (listedTargets type) :=
  value_bind_pure _ _

theorem names_listedSources [PackageReading] (entries : Entries String TypeExpr) :
    (listedSources classes type entries).map (·.name) = Entries.keys entries := by
  have same (identity : Nat) (entry : String × TypeExpr) :
      (SourceProperty.ofAttribute classes identity type entry.1 entry.2).name = entry.1 := rfl
  rw [listedSources, List.map_mapIdx_eq same]
  rfl

theorem names_listedTargets (entries : Entries String Writable) :
    (listedTargets type entries).map (·.name) = Entries.keys entries := by
  have same (identity : Nat) (entry : String × Writable) :
      (TargetProperty.declare identity type entry.1 entry.2.declared entry.2.mode).name =
        entry.1 := rfl
  rw [listedTargets, List.map_mapIdx_eq same]
  rfl

theorem typed_listedSources [PackageReading] (entries : Entries String TypeExpr) :
    (listedSources classes type entries).map (·.typed) =
      entries.map fun entry => (entry.1, entry.2.core) := by
  have same (identity : Nat) (entry : String × TypeExpr) :
      (SourceProperty.ofAttribute classes identity type entry.1 entry.2).typed =
        (entry.1, entry.2.core) := rfl
  exact List.map_mapIdx_eq same entries

/-- Target properties that are not written by code of their own have the types of the
entries, without wrappers. -/
theorem typed_listedTargets {entries : Entries String Writable}
    (ordinary : ∀ entry ∈ entries, ∀ description write,
      entry.2.mode ≠ .custom description write) :
    (listedTargets type entries).map (·.typed) =
      entries.map fun entry => (entry.1, entry.2.declared.core) := by
  refine List.ext_getElem (by simp [listedTargets]) fun i bound _ => ?_
  have inside : i < entries.length := by simpa [listedTargets] using bound
  have mem : entries[i] ∈ entries := List.getElem_mem inside
  simp only [listedTargets, List.getElem_map, List.getElem_mapIdx, TargetProperty.typed,
    TargetProperty.declare]
  split
  · next isCustom => exact absurd isCustom (ordinary _ mem _ _)
  · rfl

/-- A source property stands for an entry, with the type of the entry unwrapped. -/
theorem exists_mem_listedSources_iff [PackageReading] (entries : Entries String TypeExpr)
    (name : String) (t : TypeExpr) :
    (∃ s ∈ listedSources classes type entries, s.name = name ∧ s.type = t) ↔
      ∃ entry ∈ entries, entry.1 = name ∧ entry.2.core = t := by
  have listed : (name, t) ∈ (listedSources classes type entries).map (·.typed) ↔
      (name, t) ∈ entries.map fun entry => (entry.1, entry.2.core) := by
    rw [typed_listedSources]
  simpa only [List.mem_map, SourceProperty.typed, Prod.mk.injEq] using listed

/-- A target property that is not written by code of its own stands for an entry, with
the type of the entry unwrapped. -/
theorem exists_mem_listedTargets_iff {entries : Entries String Writable}
    (ordinary : ∀ entry ∈ entries, ∀ description write,
      entry.2.mode ≠ .custom description write) (name : String) (t : TypeExpr) :
    (∃ p ∈ listedTargets type entries, p.name = name ∧ p.type = t) ↔
      ∃ entry ∈ entries, entry.1 = name ∧ entry.2.declared.core = t := by
  have listed : (name, t) ∈ (listedTargets type entries).map (·.typed) ↔
      (name, t) ∈ entries.map fun entry => (entry.1, entry.2.declared.core) := by
    rw [typed_listedTargets type ordinary]
  simpa only [List.mem_map, TargetProperty.typed, Prod.mk.injEq] using listed

/-- Assignment keeps the names of what is written. -/
theorem keys_assigned (types : Entries String TypeExpr) :
    Entries.keys (assigned types) = Entries.keys types := by
  simp [assigned, Entries.keys]

theorem get?_assigned (types : Entries String TypeExpr) (name : String) :
    Entries.get? (assigned types) name =
      (Entries.get? types name).map fun type => ⟨type, .assignment⟩ :=
  Entries.get?_map (fun _ type => Writable.mk type .assignment) types name

/-- Entries that are written by assignment are not written by code of their own. -/
theorem ordinary_of_assigned (types : Entries String TypeExpr) :
    ∀ entry ∈ assigned types, ∀ description write,
      entry.2.mode ≠ .custom description write := by
  intro entry mem description write
  obtain ⟨typed, -, rfl⟩ := List.mem_map.mp mem
  simp

end Provider

/-! ## Lists that follow a rule -/

/-- A list has each name once that a rule has a type for, with that type without wrappers,
and no other name. -/
structure Follows (rule : String → Option TypeExpr) (listed : Entries String TypeExpr) :
    Prop where
  distinct : (Entries.keys listed).Nodup
  types : ∀ name, Entries.get? listed name = (rule name).map TypeExpr.core

/-- What is discovered follows one rule for reading and one for writing. -/
structure Discovers (sources : Logged EvaluationError (List SourceProperty))
    (targets : Logged EvaluationError (List TargetProperty))
    (read written : String → Option TypeExpr) : Prop where
  sources : ∀ discovered, sources.outcome.1 = .ok discovered →
    Follows read (discovered.map (·.typed))
  targets : ∀ discovered, targets.outcome.1 = .ok discovered →
    Follows written (discovered.map (·.typed))

namespace Follows

variable {rule : String → Option TypeExpr} {listed : Entries String TypeExpr}

/-- A name is listed where the rule has a type for it. -/
theorem mem_keys_iff (follows : Follows rule listed) (name : String) :
    name ∈ Entries.keys listed ↔ (rule name).isSome = true := by
  rw [← Entries.contains_iff_mem_keys, Entries.contains, follows.types, Option.isSome_map]

/-- A name is listed with the type that the rule has for it. -/
theorem mem_iff (follows : Follows rule listed) (name : String) (type : TypeExpr) :
    (name, type) ∈ listed ↔ (rule name).map TypeExpr.core = some type := by
  rw [Entries.mem_iff_get? follows.distinct, follows.types]

/-- Entries that are found by a rule follow it once their types are unwrapped. -/
theorem of_get? {entries : Entries String TypeExpr} (distinct : (Entries.keys entries).Nodup)
    (found : ∀ name, Entries.get? entries name = rule name) :
    Follows rule (entries.map fun entry => (entry.1, entry.2.core)) where
  distinct := by simpa [Entries.keys, Function.comp_def] using distinct
  types name := by rw [Entries.get?_map (fun _ type => TypeExpr.core type), found]

end Follows

namespace Provider

variable {classes : ClassTable Code} {type : TypeExpr} {provider : Provider}

/-- A side is listed if its entries are found. -/
theorem exists_sources_iff [PackageReading] :
    (∃ discovered, (provider.sources classes type).outcome.1 = .ok discovered) ↔
      ∃ types, (provider.readable classes type).value = .ok types := by
  show (∃ discovered, (provider.sources classes type).value = .ok discovered) ↔ _
  rw [value_sources]
  cases (provider.readable classes type).value <;> simp [Except.map]

theorem exists_targets_iff [Packages] :
    (∃ discovered, (provider.targets classes type).outcome.1 = .ok discovered) ↔
      ∃ entries, (provider.writable classes type).value = .ok entries := by
  show (∃ discovered, (provider.targets classes type).value = .ok discovered) ↔ _
  rw [value_targets]
  cases (provider.writable classes type).value <;> simp [Except.map]

/-- What is discovered follows the rules by which the entries are found. -/
theorem discovers_of_get? [Packages] {read written : String → Option TypeExpr}
    (readable : ∀ types, (provider.readable classes type).value = .ok types →
      (Entries.keys types).Nodup ∧ ∀ name, Entries.get? types name = read name)
    (writable : ∀ entries, (provider.writable classes type).value = .ok entries →
      (Entries.keys entries).Nodup ∧
      (∀ entry ∈ entries, ∀ description write, entry.2.mode ≠ .custom description write) ∧
      ∀ name, (Entries.get? entries name).map (·.declared) = written name) :
    Discovers (provider.sources classes type) (provider.targets classes type) read written := by
  constructor
  · intro discovered given
    have lists := (value_sources classes type provider).symm.trans given
    cases isTypes : (provider.readable classes type).value with
    | error e => rw [isTypes] at lists; cases lists
    | ok types =>
      rw [isTypes] at lists
      obtain rfl := Except.ok.inj lists
      obtain ⟨distinct, found⟩ := readable types isTypes
      rw [typed_listedSources]
      exact .of_get? distinct found
  · intro discovered given
    have lists := (value_targets classes type provider).symm.trans given
    cases isEntries : (provider.writable classes type).value with
    | error e => rw [isEntries] at lists; cases lists
    | ok entries =>
      rw [isEntries] at lists
      obtain rfl := Except.ok.inj lists
      obtain ⟨distinct, ordinary, found⟩ := writable entries isEntries
      have isTyped : (listedTargets type entries).map (·.typed) =
          (entries.map fun entry => (entry.1, entry.2.declared)).map fun entry =>
            (entry.1, entry.2.core) := by
        rw [typed_listedTargets type ordinary, List.map_map]
        rfl
      rw [isTyped]
      refine .of_get? (by simpa [Entries.keys, Function.comp_def] using distinct) fun name => ?_
      rw [Entries.get?_map (fun _ (entry : Writable) => entry.declared), found]

/-- What is assigned is found as it was before. -/
theorem get?_declared_assigned (types : Entries String TypeExpr) (name : String) :
    (Entries.get? (assigned types) name).map (·.declared) = Entries.get? types name := by
  rw [get?_assigned, Option.map_map]
  cases Entries.get? types name <;> rfl

end Provider

namespace Registry

variable {classes : ClassTable Code} {type : TypeExpr} {registry : Registry}
  {provider : Provider} (resolved : registry.resolve classes type = some provider)

include resolved

/-- A registry discovers what its provider lists. -/
theorem outcome_sources [PackageReading] :
    (registry.sources classes type).outcome.1 = (provider.sources classes type).outcome.1 :=
  registry.value_discover classes type .source resolved

theorem outcome_targets [Packages] :
    (registry.targets classes type).outcome.1 = (provider.targets classes type).outcome.1 :=
  registry.value_discover classes type .target resolved

theorem discovers_of_resolve [Packages] {read written : String → Option TypeExpr}
    (lists : Discovers (provider.sources classes type) (provider.targets classes type)
      read written) :
    Discovers (registry.sources classes type) (registry.targets classes type) read written where
  sources := by
    rw [outcome_sources resolved]
    exact lists.sources
  targets := by
    rw [outcome_targets resolved]
    exact lists.targets

end Registry

end ObjectMapping
