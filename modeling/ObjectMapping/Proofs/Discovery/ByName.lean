import ObjectMapping.Package.Runtime
import ObjectMapping.Proofs.Discovery.Evaluation
import ObjectMapping.Proofs.Discovery.Interfaces

/-!
# What a plain class lists under a name

The properties of a plain class are gathered from its whole line of ancestors in two ways,
annotations and properties apart, and merged with one precedence for reading and another one
for writing. Name by name this comes to two simple rules, `readByName?` and `writtenByName?`,
about the annotation and the property of the most derived classes that have one.
`plain_class_lists_by_name` says so of every class whose annotations can be evaluated.
-/

namespace ObjectMapping

open Logged

/-! ## Plain classes -/

/-- What is read under a public name of which a class has an annotation and a property: the
property if it has a getter, and else what the annotation describes of each instance. -/
def readByName? (annotation? : Option TypeExpr) (property? : Option (Property Code)) :
    Option TypeExpr :=
  match property?.bind (·.getter?) with
  | some getter => some getter.usedType
  | none => annotation?.filter (!·.isClassLevel)

/-- What is written under a public name of which a class has an annotation and a property:
the property if it has a getter and a setter, and what the annotation describes of each
instance if there is no property. -/
def writtenByName? (annotation? : Option TypeExpr) (property? : Option (Property Code)) :
    Option TypeExpr :=
  match property? with
  | some p => if p.isWritable then p.usedType? else none
  | none => annotation?.filter (!·.isClassLevel)

namespace ClassTable

variable {classes : ClassTable Code} {c : ClassId} {types : Entries String TypeExpr}

/-- The annotations of each instance are those of public names that are not for the class
itself. -/
theorem get?_instanceAnnotations_eq (apart : classes.NamesApart)
    {annotations : Entries String TypeExpr}
    (given : (classes.instanceAnnotations c).value = .ok annotations) (name : String) :
    Entries.get? annotations name =
      if isPublic name then (classes.usedAnnotation? c name).filter (!·.isClassLevel)
      else none := by
  obtain ⟨all, isAll, rfl⟩ := exists_of_value_bind_pure given
  rw [get?_instanceEntries (nodup_keys_classAnnotations isAll),
    get?_classAnnotations_eq (apart.nodup_annotations c) isAll]
  cases isPublic name <;> simp

/-- A plain class lists for reading what the rule tells. -/
theorem get?_plainSources (apart : classes.NamesApart)
    (given : (classes.plainSources c).value = .ok types) (name : String) :
    Entries.get? types name =
      if isPublic name then
        readByName? (classes.usedAnnotation? c name) (classes.property? c name)
      else none := by
  obtain ⟨annotations, isAnnotations, given⟩ := exists_of_value_bind given fun _ =>
    (isSteady_resultTypes _ _).bind fun _ => isSteady_pure _
  obtain ⟨results, isResults, rfl⟩ := exists_of_value_bind_pure given
  have distinct := nodup_keys_resultTypes isResults (nodup_keys_publicProperties classes c)
  rw [Entries.get?_merge _ distinct, get?_usedResults apart isResults,
    get?_instanceAnnotations_eq apart isAnnotations]
  cases isPublic name with
  | false => rfl
  | true =>
    rw [if_pos rfl, if_pos rfl, if_pos rfl, readByName?]
    cases classes.property? c name with
    | none => rfl
    | some p =>
      rw [Option.filter_some_pos rfl, Option.bind_some, Option.bind_some, Property.usedType?]
      cases p.getter? <;> rfl

/-- A plain class lists for writing what the rule tells. -/
theorem get?_plainTargets (apart : classes.NamesApart)
    (given : (classes.plainTargets c).value = .ok types) (name : String) :
    Entries.get? types name =
      if isPublic name then
        writtenByName? (classes.usedAnnotation? c name) (classes.property? c name)
      else none := by
  obtain ⟨annotations, isAnnotations, given⟩ := exists_of_value_bind given fun _ =>
    (isSteady_resultTypes _ _).bind fun _ => isSteady_pure _
  obtain ⟨results, isResults, rfl⟩ := exists_of_value_bind_pure given
  have distinct := nodup_keys_resultTypes isResults (nodup_keys_publicProperties classes c)
  rw [Entries.get?_merge _ distinct, get?_usedResults apart isResults,
    Entries.get?_filter (nodup_keys_instanceAnnotations isAnnotations),
    get?_instanceAnnotations_eq apart isAnnotations]
  simp only [Entries.contains, get?_publicProperties_eq apart]
  cases isPublic name with
  | false => rfl
  | true =>
    simp only [if_true, writtenByName?]
    cases classes.property? c name with
    | none => simp
    | some p =>
      -- The property hides the annotation, also where it has no setter.
      have hidden (annotation? : Option TypeExpr) :
          (annotation?.filter fun _ => !(some p).isSome) = none := by
        cases annotation? <;> rfl
      rw [hidden, Option.or_none]
      cases writable : p.isWritable <;> simp [Option.filter, writable]

theorem value_readable_plain {type : TypeExpr} (isClass : type.classId? = some c) :
    (Provider.plain.readable classes type).value = (classes.plainSources c).value := by
  rw [Provider.readable.eq_def, isClass]

theorem value_writable_plain [Packages] {type : TypeExpr} (isClass : type.classId? = some c) :
    (Provider.plain.writable classes type).value =
      (classes.plainTargets c).value.map Provider.assigned := by
  rw [Provider.writable.eq_def, isClass]
  exact value_bind_pure _ _

/-- What a plain class lists follows the two rules, whatever of it is evaluated. -/
theorem plain_discovers [Packages] (apart : classes.NamesApart) {type : TypeExpr}
    (isClass : type.classId? = some c) :
    Discovers (Provider.plain.sources classes type) (Provider.plain.targets classes type)
      (fun name =>
        if isPublic name then
          readByName? (classes.usedAnnotation? c name) (classes.property? c name)
        else none)
      fun name =>
        if isPublic name then
          writtenByName? (classes.usedAnnotation? c name) (classes.property? c name)
        else none := by
  refine Provider.discovers_of_get? (fun types given => ?_) fun entries given => ?_
  · rw [value_readable_plain isClass] at given
    exact ⟨(exists_of_plainSources given).1, get?_plainSources apart given⟩
  · rw [Provider.writable.eq_def, isClass] at given
    obtain ⟨types, isTypes, rfl⟩ := exists_of_value_bind_pure given
    refine ⟨?_, Provider.ordinary_of_assigned types, fun name => ?_⟩
    · rw [Provider.keys_assigned]
      exact (exists_of_plainTargets isTypes).1
    · rw [Provider.get?_declared_assigned, get?_plainTargets apart isTypes]

/-- A plain class lists both sides if its annotations and its properties are gathered. -/
theorem exists_plain_lists [Packages] {type : TypeExpr} (isClass : type.classId? = some c)
    (annotations : ∃ annotations, (classes.classAnnotations c).value = .ok annotations)
    (results : ∀ accepts, ∃ results,
      (resultTypes accepts (classes.publicProperties c)).value = .ok results) :
    (∃ discovered, (Provider.plain.sources classes type).outcome.1 = .ok discovered) ∧
      ∃ discovered, (Provider.plain.targets classes type).outcome.1 = .ok discovered := by
  obtain ⟨all, isAll⟩ := annotations
  have isInstance : (classes.instanceAnnotations c).value = .ok (instanceEntries all) := by
    rw [instanceAnnotations, value_bind_pure, isAll]
    rfl
  rw [Provider.exists_sources_iff, Provider.exists_targets_iff, value_readable_plain isClass,
    value_writable_plain isClass]
  refine ⟨exists_value_both (isSteady_resultTypes _ _) ⟨_, isInstance⟩ (results _) _, ?_⟩
  obtain ⟨types, isTypes⟩ : ∃ types, (classes.plainTargets c).value = .ok types :=
    exists_value_both (isSteady_resultTypes _ _) ⟨_, isInstance⟩ (results _) _
  exact ⟨Provider.assigned types, congrArg (Except.map Provider.assigned) isTypes⟩

end ClassTable

namespace Registry

variable {classes : ClassTable Code} {type : TypeExpr} {c : ClassId} {registry : Registry}
  (apart : classes.NamesApart) (isClass : type.classId? = some c)
  (resolved : registry.resolve classes type = some .plain)

include apart isClass resolved

/-- A registry that takes a class for a plain one lists both sides of it if nothing but
tolerated errors is in the way. -/
theorem exists_plain_lists [Packages] (tolerable : ∀ a ∈ classes.line c, a.IsTolerable) :
    (∃ sources, (registry.sources classes type).outcome.1 = .ok sources) ∧
      ∃ targets, (registry.targets classes type).outcome.1 = .ok targets := by
  rw [outcome_sources resolved, outcome_targets resolved]
  exact ClassTable.exists_plain_lists isClass (ClassTable.exists_classAnnotations tolerable)
    (ClassTable.exists_publicResults apart fun a mem => (tolerable a mem).exists_resultType)

/-- What it lists under a public name for reading. -/
theorem mem_plain_sources_iff [Packages] {sources : List SourceProperty}
    (given : (registry.sources classes type).outcome.1 = .ok sources) {name : String}
    (shown : isPublic name = true) (t : TypeExpr) :
    (name, t) ∈ sources.map (·.typed) ↔
      (readByName? (classes.usedAnnotation? c name) (classes.property? c name)).map
        TypeExpr.core = some t := by
  have discovers := discovers_of_resolve resolved (ClassTable.plain_discovers apart isClass)
  rw [(discovers.sources sources given).mem_iff, if_pos shown]

/-- What it lists under a public name for writing. -/
theorem mem_plain_targets_iff [Packages] {targets : List TargetProperty}
    (given : (registry.targets classes type).outcome.1 = .ok targets) {name : String}
    (shown : isPublic name = true) (t : TypeExpr) :
    (name, t) ∈ targets.map (·.typed) ↔
      (writtenByName? (classes.usedAnnotation? c name) (classes.property? c name)).map
        TypeExpr.core = some t := by
  have discovers := discovers_of_resolve resolved (ClassTable.plain_discovers apart isClass)
  rw [(discovers.targets targets given).mem_iff, if_pos shown]

end Registry

/-! ## Classes of which the annotations can be evaluated -/

/-- A class evaluates if its annotations do and its properties have result types. -/
theorem ClassInfo.evaluates_of_results {c : ClassInfo Code}
    (annotations : c.annotationsEvaluate = true)
    (results : (ClassTable.resultTypes (fun _ => true)
      (ClassTable.ownPublicProperties c)).value.isOk = true) : c.Evaluates false where
  annotations := annotationsEvaluate_iff.mp annotations
  properties entry mem getter isGetter _ := by
    have given : ∃ results, (ClassTable.resultTypes (fun _ => true)
        (ClassTable.ownPublicProperties c)).value = .ok results := by
      cases isResults : (ClassTable.resultTypes (fun _ => true)
          (ClassTable.ownPublicProperties c)).value with
      | ok types => exact ⟨types, rfl⟩
      | error e => rw [isResults] at results; cases results
    exact ClassTable.exists_resultTypes_iff.mp given entry mem rfl getter isGetter

namespace ClassTable

variable {classes : ClassTable Code} {c : ClassId}

/-- The annotation under a name of the most derived class which annotates it, evaluated. -/
def evaluatedAnnotation? (classes : ClassTable Code) (c : ClassId) (name : String) :
    Option TypeExpr :=
  ((classes.line c).findSome? fun a => Entries.get? a.annotations name).bind fun declared =>
    declared.resolveSurface.toOption

/-- What can be evaluated is used as it is evaluated. -/
theorem usedAnnotation?_of_evaluates
    (evaluates : ∀ a ∈ classes.line c, a.annotationsEvaluate = true) (name : String) :
    classes.usedAnnotation? c name = classes.evaluatedAnnotation? c name := by
  rw [usedAnnotation?, evaluatedAnnotation?]
  generalize classes.line c = line at evaluates
  induction line with
  | nil => rfl
  | cons a rest ih =>
    obtain ⟨first, later⟩ := List.forall_mem_cons.mp evaluates
    have isUsed := ClassInfo.usedAnnotation?_isSome (c := a) name
    rw [List.findSome?_cons, List.findSome?_cons]
    rw [ClassInfo.usedAnnotation?, Entries.contains, first] at *
    cases found : Entries.get? a.annotations name with
    | none => exact ih later
    | some declared =>
      -- The annotation is used, so that evaluating it has a result.
      obtain ⟨type, isType⟩ := Option.isSome_iff_exists.mp (isUsed.trans (by rw [found]; rfl))
      rw [found] at isType
      simp only [Option.bind_some, if_true] at isType ⊢
      rw [isType]

end ClassTable

/-- A class of any line of which the annotations and the result types can be evaluated lists
both sides. For reading, a public name is listed once with the result type of its property,
if that has a getter, or else with its annotation, if that is not for the class itself; and
no other name is. For writing, it is listed once with the result type of its property, if
that has a getter and a setter, or with its annotation, if there is no property and the
annotation is not for the class itself; and no other name is. -/
theorem plain_class_lists_by_name [Packages] {classes : ClassTable Code}
    (apart : classes.NamesApart) {type : TypeExpr} {c : ClassId} (isClass : type.classId? = some c)
    (evaluates : ∀ a ∈ classes.line c, a.Evaluates false) :
    (∃ sources, (Provider.plain.sources classes type).outcome.1 = .ok sources ∧
      Follows (fun name =>
          if isPublic name then
            readByName? (classes.evaluatedAnnotation? c name) (classes.property? c name)
          else none)
        (sources.map (·.typed))) ∧
    ∃ targets, (Provider.plain.targets classes type).outcome.1 = .ok targets ∧
      Follows (fun name =>
          if isPublic name then
            writtenByName? (classes.evaluatedAnnotation? c name) (classes.property? c name)
          else none)
        (targets.map (·.typed)) := by
  have annotations : ∃ annotations, (classes.classAnnotations c).value = .ok annotations := by
    refine ClassTable.exists_classAnnotations_iff.mpr fun a mem => ?_
    obtain ⟨resolved, isResolved⟩ :=
      (exists_resolveEntries_iff a.annotations).mpr (evaluates a mem).annotations
    exact ⟨resolved, by rw [ClassTable.value_contributedAnnotations, isResolved]⟩
  have results := ClassTable.exists_publicResults apart fun a mem entry isOwn getter isGetter =>
    (evaluates a mem).properties entry isOwn getter isGetter nofun
  have used := ClassTable.usedAnnotation?_of_evaluates fun a mem =>
    ClassInfo.annotationsEvaluate_iff.mpr (evaluates a mem).annotations
  obtain ⟨⟨sources, isSources⟩, targets, isTargets⟩ :=
    ClassTable.exists_plain_lists isClass annotations results
  have discovers := ClassTable.plain_discovers apart isClass
  simp only [used] at discovers
  exact ⟨⟨sources, isSources, discovers.sources sources isSources⟩,
    targets, isTargets, discovers.targets targets isTargets⟩

/-! ## Three levels -/

/-- A class with a label of its own and with a total and a count that are computed, one that
extends it by annotations of the total and the count, and one that labels each instance. -/
def tallies : ClassTable Code where
  classes := #[
    { name := ⟨.declared 0, "models", "Tally", "Tally"⟩
      lineage := [.declared 0, .standard .object]
      annotations := [("label", .qualified .classVar (.standard .str))]
      members := [
        ("total", .property {
          getter? := some {
            label := "Tally.total", result? := some (.standard .int)
            body := fun _ => return .number 0 }
          setter? := none }),
        ("count", .property {
          getter? := some {
            label := "Tally.count", result? := some (.standard .int)
            body := fun _ => return .number 0 }
          setter? := some fun _ => return .null })] },
    { name := ⟨.declared 1, "models", "Noted", "Noted"⟩
      lineage := [.declared 1, .declared 0, .standard .object]
      annotations := [
        ("total", .standard .str),
        ("count", .qualified .classVar (.standard .str))] },
    { name := ⟨.declared 2, "models", "Titled", "Titled"⟩
      lineage := [.declared 2, .declared 1, .declared 0, .standard .object]
      annotations := [("label", .text .free "str" (.standard .str))] }]

/-- The type of the most derived of these classes. -/
def titledType : TypeExpr :=
  tallies.typeOf (.declared 2)

theorem namesApart_tallies : tallies.NamesApart := by
  refine ClassTable.namesApart_of_declared fun c mem => ?_
  simp only [tallies, List.mem_toArray, List.mem_cons, List.not_mem_nil, or_false] at mem
  rcases mem with rfl | rfl | rfl
  all_goals exact ⟨by simp [Entries.keys], by simp [Entries.keys], by simp, by simp, by simp⟩

theorem evaluates_tallies : ∀ a ∈ tallies.line (.declared 2), a.Evaluates false := by
  have isLine : tallies.line (.declared 2) =
      [tallies.info (.declared 2), tallies.info (.declared 1), tallies.info (.declared 0),
        tallies.info (.standard .object)] := rfl
  intro a mem
  rw [isLine] at mem
  simp only [List.mem_cons, List.not_mem_nil, or_false] at mem
  rcases mem with rfl | rfl | rfl | rfl
  all_goals exact ClassInfo.evaluates_of_results (by cbv) (by cbv)

open scoped RuntimePackages

/-- What is annotated on one level, a property on another and for the class itself on a third:
the total can only be read, the count is read and written as the property says, and the label
as the most derived class declares it. -/
theorem plain_class_lists_by_name_titled :
    (tallies.NamesApart ∧ titledType.classId? = some (.declared 2) ∧
      ∀ a ∈ tallies.line (.declared 2), a.Evaluates false) ∧
    (∃ sources, (Provider.plain.sources tallies titledType).outcome.1 = .ok sources ∧
      [("total", TypeExpr.standard .int), ("count", .standard .int), ("label", .standard .str)]
        ⊆ sources.map (·.typed)) ∧
    ∃ targets, (Provider.plain.targets tallies titledType).outcome.1 = .ok targets ∧
      [("count", TypeExpr.standard .int), ("label", .standard .str)] ⊆ targets.map (·.typed) ∧
      "total" ∉ Entries.keys (targets.map (·.typed)) := by
  refine ⟨⟨namesApart_tallies, rfl, evaluates_tallies⟩, ?_⟩
  obtain ⟨⟨sources, isSources, read⟩, targets, isTargets, written⟩ :=
    plain_class_lists_by_name namesApart_tallies
      (show titledType.classId? = some (.declared 2) from rfl) evaluates_tallies
  refine ⟨⟨sources, isSources, ?_⟩, targets, isTargets, ?_, ?_⟩
  · simp only [List.cons_subset, List.nil_subset, and_true, read.mem_iff]
    cbv
  · simp only [List.cons_subset, List.nil_subset, and_true, written.mem_iff]
    cbv
  · rw [written.mem_keys_iff, Bool.not_eq_true]
    cbv

end ObjectMapping
