import ObjectMapping.Discovery.Provider
import ObjectMapping.Mapping.Specification

/-!
# Registries of providers

A registry asks its providers in order, and the first one that is for a type
lists its properties. A type that no provider is for has no properties; that
comes to light when a specification is compiled.
-/

namespace ObjectMapping

/-- Providers in the order in which they are asked. -/
structure Registry where
  providers : List Provider

/-- The part of the program that reports registries. -/
def registryLogger : String := "fluentmap.discovery.registry"

namespace Registry

/-- The registry that is used when none is given. The provider for plain classes
is for every class and so comes last. -/
def standard : Registry :=
  ⟨[.model, .entity, .record, .interface, .plain]⟩

variable (classes : ClassTable Code)

/-- The first provider that is for a type. -/
def resolve (registry : Registry) (type : TypeExpr) : Option Provider :=
  registry.providers.find? fun provider => provider.isFor classes type

/-- Lists one side of a type with the provider that is for it. -/
def discover {α : Type} (registry : Registry) (side : Side) (type : TypeExpr)
    (list : Provider → Logged EvaluationError (List α)) : Logged EvaluationError (List α) := do
  match registry.resolve classes type with
  | none =>
      Logged.record .debug registryLogger
        ("No value provider matches " ++ side.word ++ " type " ++ type.written)
      return []
  | some provider =>
      let properties ← list provider
      Logged.record .debug registryLogger
        ("Discovered " ++ toString properties.length ++ " " ++ side.word ++ " values on " ++
          type.written ++ " using " ++ provider.label)
      return properties

/-- The source properties of a type. -/
def sources [PackageReading] (registry : Registry) (type : TypeExpr) :
    Logged EvaluationError (List SourceProperty) :=
  registry.discover classes .source type fun provider => provider.sources classes type

/-- The target properties of a type. -/
def targets [Packages] (registry : Registry) (type : TypeExpr) :
    Logged EvaluationError (List TargetProperty) :=
  registry.discover classes .target type fun provider => provider.targets classes type

end Registry

namespace Specification

/-- A specification of how to map a source type onto a target type. Properties
that are not given are discovered, those of the target first. -/
def ofTypes [Packages] (classes : ClassTable Code) (registry : Registry) (target source : TypeExpr)
    (targets? : Option (List TargetProperty) := none)
    (sources? : Option (List SourceProperty) := none)
    (customs : List Stage := []) (factory? : Option Factory := none) :
    Logged EvaluationError Specification := do
  let targets ← match targets? with
    | some targets => pure targets
    | none => registry.targets classes target
  let sources ← match sources? with
    | some sources => pure sources
    | none => registry.sources classes source
  return {
    target := target, source := source, targets := targets, sources := sources
    customs := customs, factory? := factory? }

end Specification

end ObjectMapping
