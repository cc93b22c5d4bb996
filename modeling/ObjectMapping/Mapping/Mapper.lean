import ObjectMapping.Mapping.Composition
import ObjectMapping.Mapping.Factory

/-!
# Mappers

What a specification is compiled into: a factory of targets and one composed
transformation. A mapper has no state of its own, so it can be used any number
of times.
-/

namespace ObjectMapping

/-- A mapper of sources. -/
structure Mapper where
  factory : Factory
  transform : Stage

/-- A mapper of sources that takes a context with each of them. -/
structure ContextualMapper where
  factory : Factory
  transform : ContextualStage

namespace Mapper

/-- Makes a target and fills it from a source. -/
def map (mapper : Mapper) (source : Value) : Run Value := do
  let target ← mapper.factory
  mapper.transform target source

/-- Fills a given target from a source. -/
def mapInto (mapper : Mapper) (target source : Value) : Run Value :=
  mapper.transform target source

end Mapper

namespace ContextualMapper

/-- Makes a target and fills it from a source and a context. -/
def map (mapper : ContextualMapper) (source context : Value) : Run Value := do
  let target ← mapper.factory
  mapper.transform target source context

/-- Fills a given target from a source and a context. -/
def mapInto (mapper : ContextualMapper) (target source context : Value) : Run Value :=
  mapper.transform target source context

end ContextualMapper

end ObjectMapping
