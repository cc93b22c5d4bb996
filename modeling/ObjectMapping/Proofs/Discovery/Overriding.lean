import ObjectMapping.Package.Runtime
import ObjectMapping.Proofs.Discovery.ByName

/-!
# Attributes in the place of inherited properties

A class can have an attribute under a name under which a class behind it has a property.
Instances then have the attribute, but the properties of a plain class are gathered apart
from its annotations, and the inherited one still decides what is listed.
`inherited_property_decides` says what that is, and that the attribute is listed on both
sides with its own type exactly if the property has a setter and a result of that type.
-/

namespace ObjectMapping

/-- An annotated attribute of a class stands where a class behind it has a property: the
most derived class that has anything under the name has something else there than a property,
and annotates it with a type that is not for the class itself. -/
structure ClassTable.OverridesProperty (classes : ClassTable Code) (c : ClassId) (name : String)
    (type : TypeExpr) (p : Property Code) : Prop where
  shown : isPublic name = true
  declaring : ∃ a, (classes.line c).find? (fun a => Entries.contains a.members name) = some a ∧
    (∃ m, Entries.get? a.members name = some m ∧ m.property? = none) ∧
    a.usedAnnotation? name = some type
  ofInstances : type.isClassLevel = false
  inherited : classes.property? c name = some p

namespace ClassTable

variable {classes : ClassTable Code} {c : ClassId} {name : String} {type : TypeExpr}
  {p : Property Code}

/-- Instances have the attribute, and not the property. -/
theorem OverridesProperty.member?_eq (overrides : classes.OverridesProperty c name type p) :
    ∃ m, classes.member? c name = some m ∧ m.property? = none := by
  obtain ⟨a, isFirst, ⟨m, isMember, notProperty⟩, -⟩ := overrides.declaring
  refine ⟨m, ?_, notProperty⟩
  have owned : classes.owned? c name = some (a.name.id, m) := by
    refine findSome?_of_find? isFirst (fun other _ absent => ?_) (by rw [isMember]; rfl)
    rw [Option.map_eq_none_iff]
    exact Option.isNone_iff_eq_none.mp (by simpa [Entries.contains] using absent)
  rw [member?, owned]
  rfl

/-- A property that is written and read with a type is listed with that type for both. -/
theorem written_iff_both {annotation? : Option TypeExpr} {t : TypeExpr} :
    ((readByName? annotation? (some p)).map TypeExpr.core = some t ∧
        (writtenByName? annotation? (some p)).map TypeExpr.core = some t) ↔
      p.isWritable = true ∧ p.usedType?.map TypeExpr.core = some t := by
  simp only [readByName?, writtenByName?, Property.usedType?, Option.bind_some]
  cases isGetter : p.getter? with
  | none => cases p.isWritable <;> simp
  | some getter => cases p.isWritable <;> simp

end ClassTable

/-- An attribute that stands in the place of an inherited property is what instances have,
but what a plain class lists under its name is what the property tells: for reading its
result type, and an annotation only if it has no getter; for writing its result type, if it
has a setter, and nothing if not. So both sides have the name with the type of the attribute
exactly if the property has a setter and a result of that type. Both sides are listed
whenever what the classes declare can be evaluated, or fails for a tolerated reason. -/
theorem inherited_property_decides [Packages] {classes : ClassTable Code}
    (apart : classes.NamesApart) {type : TypeExpr} {c : ClassId} (isClass : type.classId? = some c)
    (resolved : Registry.standard.resolve classes type = some .plain)
    {name : String} {declared : TypeExpr} {p : Property Code}
    (overrides : classes.OverridesProperty c name declared p) :
    ((∀ a ∈ classes.line c, a.IsTolerable) →
      (∃ sources, (Registry.standard.sources classes type).outcome.1 = .ok sources) ∧
      ∃ targets, (Registry.standard.targets classes type).outcome.1 = .ok targets) ∧
    (∃ m, classes.member? c name = some m ∧ m.property? = none) ∧
    ∀ sources, (Registry.standard.sources classes type).outcome.1 = .ok sources →
    ∀ targets, (Registry.standard.targets classes type).outcome.1 = .ok targets →
      (∀ t, (name, t) ∈ sources.map (·.typed) ↔
        (readByName? (classes.usedAnnotation? c name) (some p)).map TypeExpr.core = some t) ∧
      (∀ t, (name, t) ∈ targets.map (·.typed) ↔
        (if p.isWritable then p.usedType? else none).map TypeExpr.core = some t) ∧
      ((name, declared.core) ∈ sources.map (·.typed) ∧
          (name, declared.core) ∈ targets.map (·.typed) ↔
        p.isWritable = true ∧ p.usedType?.map TypeExpr.core = some declared.core) := by
  refine ⟨Registry.exists_plain_lists apart isClass resolved, overrides.member?_eq,
    fun sources isSources targets isTargets => ?_⟩
  have read (t : TypeExpr) :=
    Registry.mem_plain_sources_iff apart isClass resolved isSources overrides.shown t
  have written (t : TypeExpr) :=
    Registry.mem_plain_targets_iff apart isClass resolved isTargets overrides.shown t
  rw [overrides.inherited] at read written
  refine ⟨read, written, ?_⟩
  rw [read, written]
  exact ClassTable.written_iff_both

/-! ## A number in the place of a text -/

/-- A property with a setter or without, of which the getter declares a result type. -/
def levelProperty (result : StandardClass) (setter? : Option Code) : Property Code where
  getter? := some {
    label := "Meter.level", result? := some (.standard result), body := fun _ => return .null }
  setter? := setter?

/-- A class with a text that can only be read, one with a number that can be read and
written, and one that extends each of them by a number of its own in the same place. -/
def meters : ClassTable Code where
  classes := #[
    { name := ⟨.declared 0, "models", "Meter", "Meter"⟩
      lineage := [.declared 0, .standard .object]
      members := [("level", .property (levelProperty .str none))] },
    { name := ⟨.declared 1, "models", "Dial", "Dial"⟩
      lineage := [.declared 1, .standard .object]
      members := [("level", .property (levelProperty .int (some fun _ => return .null)))] },
    { name := ⟨.declared 2, "models", "FixedMeter", "FixedMeter"⟩
      lineage := [.declared 2, .declared 0, .standard .object]
      annotations := [("level", .standard .int)]
      members := [("level", .constant (.number 5))] },
    { name := ⟨.declared 3, "models", "FixedDial", "FixedDial"⟩
      lineage := [.declared 3, .declared 1, .standard .object]
      annotations := [("level", .standard .int)]
      members := [("level", .constant (.number 5))] }]

/-- The type of one of these classes. -/
def meterType (index : Nat) : TypeExpr :=
  meters.typeOf (.declared index)

theorem namesApart_meters : meters.NamesApart := by
  refine ClassTable.namesApart_of_declared fun c mem => ?_
  simp only [meters, List.mem_toArray, List.mem_cons, List.not_mem_nil, or_false] at mem
  rcases mem with rfl | rfl | rfl | rfl
  all_goals exact ⟨by simp [Entries.keys], by simp [Entries.keys], by simp, by simp, by simp⟩

theorem overridesProperty_fixedMeter :
    meters.OverridesProperty (.declared 2) "level" (.standard .int) (levelProperty .str none) :=
  ⟨by cbv, ⟨_, rfl, ⟨_, rfl, rfl⟩, by cbv⟩, rfl, rfl⟩

theorem overridesProperty_fixedDial :
    meters.OverridesProperty (.declared 3) "level" (.standard .int)
      (levelProperty .int (some fun _ => return .null)) :=
  ⟨by cbv, ⟨_, rfl, ⟨_, rfl, rfl⟩, by cbv⟩, rfl, rfl⟩

theorem sources_fixedMeter [PackageReading] :
    (Registry.standard.sources meters (meterType 2)).outcome.1 =
      .ok (Provider.listedSources meters (meterType 2) [("level", .standard .str)]) := by
  cbv

theorem targets_fixedMeter [Packages] :
    (Registry.standard.targets meters (meterType 2)).outcome.1 = .ok [] := by
  cbv

theorem sources_fixedDial [PackageReading] :
    (Registry.standard.sources meters (meterType 3)).outcome.1 =
      .ok (Provider.listedSources meters (meterType 3) [("level", .standard .int)]) := by
  cbv

theorem targets_fixedDial [Packages] :
    (Registry.standard.targets meters (meterType 3)).outcome.1 =
      .ok (Provider.listedTargets (meterType 3)
        (Provider.assigned [("level", .standard .int)])) := by
  cbv

open scoped RuntimePackages

/-- Where the inherited property has a setter and the type of the attribute, the attribute is
listed as if it were declared alone. -/
theorem inherited_property_decides_fixedDial :
    (meters.NamesApart ∧ (meterType 3).classId? = some (.declared 3) ∧
      Registry.standard.resolve meters (meterType 3) = some .plain ∧
      meters.OverridesProperty (.declared 3) "level" (.standard .int)
        (levelProperty .int (some fun _ => return .null))) ∧
    ("level", .standard .int) ∈ (Provider.listedSources meters (meterType 3)
      [("level", .standard .int)]).map (·.typed) ∧
    ("level", .standard .int) ∈ (Provider.listedTargets (meterType 3)
      (Provider.assigned [("level", .standard .int)])).map (·.typed) := by
  refine ⟨⟨namesApart_meters, rfl, rfl, overridesProperty_fixedDial⟩, ?_⟩
  obtain ⟨-, -, lists⟩ := inherited_property_decides namesApart_meters
    (show (meterType 3).classId? = some (.declared 3) from rfl) rfl overridesProperty_fixedDial
  obtain ⟨-, -, both⟩ := lists _ sources_fixedDial _ targets_fixedDial
  exact both.mpr ⟨rfl, rfl⟩

/-- A number that stands in the place of an inherited text is listed as a text for reading,
and not at all for writing. -/
theorem not_listed_overriding_fixedMeter :
    meters.NamesApart ∧ Registry.standard.resolve meters (meterType 2) = some .plain ∧
    meters.OverridesProperty (.declared 2) "level" (.standard .int) (levelProperty .str none) ∧
    ∃ sources targets,
      (Registry.standard.sources meters (meterType 2)).outcome.1 = .ok sources ∧
      (Registry.standard.targets meters (meterType 2)).outcome.1 = .ok targets ∧
      ("level", .standard .int) ∉ sources.map (·.typed) ∧
      sources.map (·.typed) = [("level", .standard .str)] ∧
      "level" ∉ targets.map (·.name) := by
  have isTyped : (Provider.listedSources meters (meterType 2)
      [("level", .standard .str)]).map (·.typed) = [("level", .standard .str)] := rfl
  refine ⟨namesApart_meters, rfl, overridesProperty_fixedMeter, _, _, sources_fixedMeter,
    targets_fixedMeter, ?_, isTyped, List.not_mem_nil⟩
  rw [isTyped]
  exact List.not_mem_cons_of_ne_of_not_mem nofun List.not_mem_nil

end ObjectMapping
