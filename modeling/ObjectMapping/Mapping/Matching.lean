import ObjectMapping.Collection.Grouping
import ObjectMapping.Mapping.Error

/-!
# Matching properties by name

Target and source properties are joined by name. The two lists have to agree: no
name twice on a side, every name on both sides, and the same type for each name.
The checks run in that order, and of several properties at fault the one with
the least name is reported, so that the order of the lists does not decide.
-/

namespace ObjectMapping

/-- A target property and the source property of the same name. -/
structure PropertyPair where
  target : TargetProperty
  source : SourceProperty

/-- Properties in the order of their names; those of one name keep their order. -/
def byName {α : Type} (name : α → String) (properties : List α) : List α :=
  properties.mergeSort fun left right => decide (name left ≤ name right)

/-- Fails with an error when there is one. -/
def refuse (error? : Option MappingError) : Except MappingError Unit :=
  match error? with
  | some error => .error error
  | none => .ok ()

/-- The source property of a name. -/
def sourceNamed? (sources : List SourceProperty) (name : String) : Option SourceProperty :=
  sources.find? (·.name == name)

/-- The first target property, by name, that no source property is named like. -/
def unmatchedTarget? (targets : List TargetProperty) (sources : List SourceProperty) :
    Option TargetProperty :=
  (byName (·.name) targets).find? fun t => !sources.any (·.name == t.name)

/-- The first source property, by name, that no target property is named like. -/
def unmatchedSource? (targets : List TargetProperty) (sources : List SourceProperty) :
    Option SourceProperty :=
  (byName (·.name) sources).find? fun s => !targets.any (·.name == s.name)

/-- The first target property, by name, that differs in type from the source
property of its name. -/
def mismatch? (targets : List TargetProperty) (sources : List SourceProperty) :
    Option PropertyPair :=
  (byName (·.name) targets).findSome? fun t =>
    match sourceNamed? sources t.name with
    | some s => if t.type.agrees s.type then none else some ⟨t, s⟩
    | none => none

/-- Checks that target and source properties correspond. -/
def validateMapping (targets : List TargetProperty) (sources : List SourceProperty) :
    Except MappingError Unit := do
  refuse <| (firstDuplicate? (·.name) targets).map fun d => .duplicateTarget d.1 d.2
  refuse <| (firstDuplicate? (·.name) sources).map fun d => .duplicateSource d.1 d.2
  refuse <| (unmatchedTarget? targets sources).map .unmatchedTarget
  refuse <| (unmatchedSource? targets sources).map .unmatchedSource
  refuse <| (mismatch? targets sources).map fun pair => .incompatible pair.target pair.source

/-- The pairs of corresponding properties, in the order of their names. -/
def matchProperties (targets : List TargetProperty) (sources : List SourceProperty) :
    Except MappingError (List PropertyPair) := do
  validateMapping targets sources
  return (byName (·.name) targets).zipWith PropertyPair.mk (byName (·.name) sources)

end ObjectMapping
