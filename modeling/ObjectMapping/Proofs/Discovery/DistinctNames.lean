import Mathlib
import ObjectMapping.Package.Runtime
import ObjectMapping.Proofs.Declaration.DistinctFields
import ObjectMapping.Proofs.Discovery.Interfaces
import ObjectMapping.Proofs.Mapping.Building
import ObjectMapping.Proofs.Mapping.Creation

/-!
# Discovered names come once

What a class has under a name can be declared in many places: as an annotation, as a
field, as a column, as a property, and again by each ancestor. Every provider merges
these, so that it lists each name once, on either side. Building steps only take
properties away. So a specification of which both sides were discovered never fails to
compile because of a name that comes twice: `discovered_names_come_once` says so of the
types of every program.
-/

namespace ObjectMapping

open Logged

variable {classes : ClassTable Code} {type : TypeExpr} {c : ClassId}

/-! ## What providers list -/

namespace ClassTable

theorem nodup_keys_modelSources {layout : ModelLayout}
    (fields : (layout.fields.map (·.name)).Nodup) : (Entries.keys (modelSources layout)).Nodup := by
  refine Entries.nodup_keys_merge _ ?_
  simpa [Entries.keys, Function.comp_def] using fields

theorem nodup_keys_modelTargets [Packages] {layout : ModelLayout}
    (fields : (layout.fields.map (·.name)).Nodup) :
    (Entries.keys (classes.modelTargets layout)).Nodup := by
  simpa [modelTargets, Entries.keys, Function.comp_def] using fields

theorem nodup_keys_columnTypes {layout : EntityLayout} {types : Entries String TypeExpr}
    (given : (classes.columnTypes c layout).value = .ok types) : (Entries.keys types).Nodup := by
  obtain ⟨annotations, -, given⟩ := exists_of_value_bind given fun _ =>
    (isSteady_columnTypesOf _ _ _).bind fun _ => isSteady_pure _
  obtain ⟨columns, -, rfl⟩ := exists_of_value_bind_pure given
  exact Entries.nodup_keys_ofList columns

section Records

variable {layout : RecordLayout} (fields : (layout.fields.map (·.name)).Nodup)

include fields

theorem nodup_keys_fieldTypes {accepts : RecordField → Bool} {types : Entries String TypeExpr}
    (given : (classes.fieldTypes c layout accepts).value = .ok types) :
    (Entries.keys types).Nodup := by
  obtain ⟨annotations, -, rfl⟩ := exists_of_value_bind_pure given
  have sublist := (List.filter_sublist (l := layout.fields)
    (p := fun f => f.kind == .stored && isPublic f.name && accepts f)).map (·.name)
  simpa [Entries.keys, Function.comp_def] using fields.sublist sublist

theorem nodup_keys_recordSources {types : Entries String TypeExpr}
    (given : (classes.recordSources c layout).value = .ok types) : (Entries.keys types).Nodup := by
  obtain ⟨own, isOwn, given⟩ := exists_of_value_bind given fun _ =>
    (isSteady_resultTypes _ _).bind fun _ => isSteady_pure _
  obtain ⟨results, -, rfl⟩ := exists_of_value_bind_pure given
  exact Entries.nodup_keys_merge _ (nodup_keys_fieldTypes fields isOwn)

theorem nodup_keys_recordTargets [Packages] {entries : Entries String Writable}
    (given : (classes.recordTargets c layout).value = .ok entries) :
    (Entries.keys entries).Nodup := by
  rw [recordTargets] at given
  split at given
  · obtain ⟨own, isOwn, rfl⟩ := exists_of_value_bind_pure given
    simpa [Entries.keys, Function.comp_def] using nodup_keys_fieldTypes fields isOwn
  · obtain ⟨own, isOwn, given⟩ := exists_of_value_bind given fun _ =>
      (isSteady_resultTypes _ _).bind fun _ => isSteady_pure _
    obtain ⟨results, -, rfl⟩ := exists_of_value_bind_pure given
    have merged := Entries.nodup_keys_merge results (nodup_keys_fieldTypes fields isOwn)
    simpa [Entries.keys, Function.comp_def] using merged

end Records

end ClassTable

namespace Provider

variable (apart : classes.FieldsApart) {provider : Provider}

include apart

/-- No provider lists a name twice among what can be read. -/
theorem nodup_keys_readable {entries : Entries String TypeExpr}
    (given : (provider.readable classes type).value = .ok entries) :
    (Entries.keys entries).Nodup := by
  rw [readable.eq_def] at given
  split at given
  case h_1 =>
    cases given
    exact List.nodup_singleton _
  case h_2 =>
    cases given
    exact List.nodup_nil
  case h_3 c _ =>
    cases given
    cases isModel : classes.modelLayout? c with
    | none => exact List.nodup_nil
    | some layout => exact ClassTable.nodup_keys_modelSources (apart.modelLayout isModel)
  case h_4 c _ =>
    split at given
    · exact ClassTable.nodup_keys_columnTypes given
    · cases given
      exact List.nodup_nil
  case h_5 c _ =>
    split at given
    · next layout isRecord =>
      exact ClassTable.nodup_keys_recordSources (apart.recordLayout isRecord) given
    · cases given
      exact List.nodup_nil
  case h_6 c _ => exact ClassTable.nodup_keys_gatherMembers given List.nodup_nil
  case h_7 c _ => exact (ClassTable.exists_of_plainSources given).1

/-- No provider lists a name twice among what can be written. -/
theorem nodup_keys_writable [Packages] {entries : Entries String Writable}
    (given : (provider.writable classes type).value = .ok entries) :
    (Entries.keys entries).Nodup := by
  rw [writable.eq_def] at given
  split at given
  case h_1 =>
    cases given
    exact List.nodup_singleton _
  case h_2 =>
    cases given
    exact List.nodup_nil
  case h_3 c _ =>
    cases given
    cases isModel : classes.modelLayout? c with
    | none => exact List.nodup_nil
    | some layout => exact ClassTable.nodup_keys_modelTargets (apart.modelLayout isModel)
  case h_4 c _ =>
    split at given
    · obtain ⟨types, isTypes, rfl⟩ := exists_of_value_bind_pure given
      rw [keys_assigned]
      exact ClassTable.nodup_keys_columnTypes isTypes
    · cases given
      exact List.nodup_nil
  case h_5 c _ =>
    split at given
    · next layout isRecord =>
      exact ClassTable.nodup_keys_recordTargets (apart.recordLayout isRecord) given
    · cases given
      exact List.nodup_nil
  case h_6 c _ =>
    obtain ⟨types, isTypes, rfl⟩ := exists_of_value_bind_pure given
    rw [keys_assigned]
    exact ClassTable.nodup_keys_gatherMembers isTypes List.nodup_nil
  case h_7 c _ =>
    obtain ⟨types, isTypes, rfl⟩ := exists_of_value_bind_pure given
    rw [keys_assigned]
    exact (ClassTable.exists_of_plainTargets isTypes).1

end Provider

/-! ## What registries discover -/

namespace Registry

/-- What is discovered is nothing, or what a provider lists. -/
theorem exists_of_value_discover {α : Type} {registry : Registry} {side : Side}
    {list : Provider → Logged EvaluationError (List α)} {discovered : List α}
    (given : (registry.discover classes side type list).value = .ok discovered) :
    discovered = [] ∨ ∃ provider, (list provider).value = .ok discovered := by
  cases resolved : registry.resolve classes type with
  | none =>
    rw [discover, resolved] at given
    exact .inl (Except.ok.inj given).symm
  | some provider =>
    rw [registry.value_discover classes type side resolved] at given
    exact .inr ⟨provider, given⟩

variable (apart : classes.FieldsApart) {registry : Registry}

include apart

theorem nodup_names_targets [Packages] {discovered : List TargetProperty}
    (given : (registry.targets classes type).value = .ok discovered) :
    (discovered.map (·.name)).Nodup := by
  rcases exists_of_value_discover given with rfl | ⟨provider, listed⟩
  · exact List.nodup_nil
  · rw [Provider.value_targets] at listed
    cases isWritable : (provider.writable classes type).value with
    | error e => rw [isWritable] at listed; cases listed
    | ok entries =>
      rw [isWritable] at listed
      cases listed
      rw [Provider.names_listedTargets]
      exact Provider.nodup_keys_writable apart isWritable

theorem nodup_names_sources [PackageReading] {discovered : List SourceProperty}
    (given : (registry.sources classes type).value = .ok discovered) :
    (discovered.map (·.name)).Nodup := by
  rcases exists_of_value_discover given with rfl | ⟨provider, listed⟩
  · exact List.nodup_nil
  · rw [Provider.value_sources] at listed
    cases isReadable : (provider.readable classes type).value with
    | error e => rw [isReadable] at listed; cases listed
    | ok entries =>
      rw [isReadable] at listed
      cases listed
      rw [Provider.names_listedSources]
      exact Provider.nodup_keys_readable apart isReadable

end Registry

/-! ## Specifications -/

namespace Specification.NamesApart

variable {s : Specification} (apart : s.NamesApart)

/-- Both sides of a specification that was made of types are discovered. -/
theorem of_ofTypes [Packages] (fields : classes.FieldsApart) {registry : Registry}
    {target source : TypeExpr} {customs : List Stage} {factory? : Option Factory}
    (given : (ofTypes classes registry target source none none customs factory?).value = .ok s) :
    s.NamesApart := by
  obtain ⟨targets, areTargets, given⟩ := exists_of_value_bind given fun _ =>
    (registry.isSteady_discover classes source .source fun provider =>
      provider.isSteady_sources classes source).bind fun _ => isSteady_pure _
  obtain ⟨sources, areSources, rfl⟩ := exists_of_value_bind_pure given
  exact ⟨Registry.nodup_names_targets fields areTargets,
    Registry.nodup_names_sources fields areSources⟩

include apart

/-- Compiling does not fail because of a name that comes twice. -/
theorem kind_ne_of_creationFault [Packages] {e : MappingError} (fault : s.CreationFault classes e) :
    e.kind ≠ "DuplicatePropertyError" := by
  cases fault with
  | ofMatching fault =>
    cases fault with
    | duplicateTarget least =>
      exact absurd least.1 ((nodup_iff_no_repeatedNames _).mp apart.targets _)
    | duplicateSource _ least =>
      exact absurd least.1 ((nodup_iff_no_repeatedNames _).mp apart.sources _)
    | _ => simp [MappingError.kind]
  | noDefaultConstructor => simp [MappingError.kind]

end Specification.NamesApart

/-- Whatever two types of a program a specification is made of, and however it is built
from there, with or without a context, no name comes twice on either side of it, and
compiling it does not fail because of a name that does. -/
theorem discovered_names_come_once [Packages] {declarations : List ClassDeclaration}
    {blueprint : Blueprint}
    {w w' : World} (declared : (Blueprint.declareAll declarations).Ends w blueprint w')
    (changes : List (ClassId × ClassChange)) {target source : TypeExpr} {customs : List Stage}
    {factory? : Option Factory} {s : Specification}
    (discovered : (Specification.ofTypes (blueprint.runnable.changed changes) .standard target
      source none none customs factory?).outcome.1 = .ok s)
    (building compiling : ClassTable Code) :
    (∀ calls s', s.performAll building calls = .ok s' →
      s'.NamesApart ∧ ∀ e, (s'.create compiling).outcome.1 = .error e →
        e.kind ≠ "DuplicatePropertyError") ∧
    (∀ before context after c, s.performInContext building before context after = .ok c →
      c.inner.NamesApart ∧ ∀ e, (c.create compiling).outcome.1 = .error e →
        e.kind ≠ "DuplicatePropertyError") := by
  have fields : (blueprint.runnable.changed changes).FieldsApart :=
    (Blueprint.fieldsApart_runnable declared).changed changes
  have apart : s.NamesApart := .of_ofTypes fields discovered
  constructor
  · intro calls s' performed
    have apart' := apart.performAll performed
    refine ⟨apart', fun e failed => ?_⟩
    rw [s'.create_outcome, s'.compileWith_eq_error_iff] at failed
    exact apart'.kind_ne_of_creationFault failed
  · intro before context after c performed
    obtain ⟨s', plain, later⟩ := bind_eq_ok_iff.mp performed
    have apart' := ContextualSpecification.namesApart_of_performAll
      (s := s'.usingContext context) (apart.performAll plain) (mapError_eq_ok_iff.mp later)
    refine ⟨apart', fun e failed => ?_⟩
    rw [c.create_outcome, c.inner.compileWith_eq_error_iff] at failed
    exact apart'.kind_ne_of_creationFault failed

/-- A record with a count, and one that inherits it, declares it again with another type
and has a label besides. -/
def labelledCounters : List ClassDeclaration := [
  { name := ⟨.declared 0, "models", "Counter", "Counter"⟩
    kind := .record
    fields := [{ name := "count", declared? := some (.standard .int) }] },
  { name := ⟨.declared 1, "models", "Labelled", "Labelled"⟩
    kind := .record
    bases := [.declared 0]
    fields := [
      { name := "label", declared? := some (.standard .str) },
      { name := "count", declared? := some (.standard .bool) }] }]

open scoped RuntimePackages

/-- The two records, declared. -/
def labelledTable : Blueprint :=
  ((Blueprint.declareAll labelledCounters).run.run {}).1.toOption.getD ⟨#[]⟩

/-- The type of the second record. -/
def labelledType : TypeExpr :=
  ClassTable.typeOf labelledTable (.declared 1)

/-- The count that is declared again is listed once, in the place of the inherited one. -/
theorem names_ofTypes_labelled :
    ((Specification.ofTypes labelledTable.runnable .standard labelledType
      labelledType).outcome.1.map fun s =>
        (s.targets.map (·.name), s.sources.map (·.name))).toOption =
      some (["count", "label"], ["count", "label"]) := by
  decide +kernel

/-- Once a source property is ignored, the specification has no mapper, but not because of
a name that comes twice. -/
theorem discovered_names_come_once_labelled :
    ∃ s rest, (Specification.ofTypes labelledTable.runnable .standard labelledType
        labelledType).outcome.1 = .ok s ∧ s.targets.map (·.name) = ["count", "label"] ∧
      s.performAll {} [.ignoreSource "label"] = .ok rest ∧ rest.NamesApart ∧
      ∀ e, (rest.create {}).outcome.1 = .error e → e.kind ≠ "DuplicatePropertyError" := by
  have names := names_ofTypes_labelled
  cases discovered : (Specification.ofTypes labelledTable.runnable .standard labelledType
      labelledType).outcome.1 with
  | error e => rw [discovered] at names; cases names
  | ok s =>
    rw [discovered] at names
    obtain ⟨targets, sources⟩ := Prod.mk.inj (Option.some.inj names)
    have label : "label" ∈ s.sources.map (·.name) := by simp [sources]
    obtain ⟨p, isSource, isNamed⟩ := List.mem_map.mp label
    have exists_named : (s.sources.find? (·.name == "label")).isSome = true :=
      List.find?_isSome.mpr ⟨p, isSource, by simp [isNamed]⟩
    obtain ⟨first, found⟩ := Option.isSome_iff_exists.mp exists_named
    have performed : s.performAll {} [.ignoreSource "label"] =
        .ok { s with sources := withoutSource s.sources first } := by
      have step := (s.perform_eq_ok_iff {} _ _).mpr
        (.ignoreSource ((s.sourceNamed_eq_ok_iff first).mpr found))
      simp only [Specification.performAll, performAll, step, mapError_ok]
    have apart := (discovered_names_come_once (show (Blueprint.declareAll labelledCounters).Ends {}
      labelledTable {} from rfl) [] discovered {} {}).1 _ _ performed
    exact ⟨s, _, rfl, targets, performed, apart.1, apart.2⟩

end ObjectMapping
