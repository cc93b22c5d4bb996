import ObjectMapping.Mapping.Specification

/-!
# Contextual specifications

A specification whose mapper takes a context with each source. Matching and
checking are those of the specification inside. Stages that take the context run
behind all stages of the specification inside.
-/

namespace ObjectMapping

/-- A specification whose mapper takes a context. -/
structure ContextualSpecification where
  inner : Specification
  context : TypeExpr
  customs : List ContextualStage := []

/-- A target property that waits for a value made from source and context. -/
structure ContextualSetter where
  specification : ContextualSpecification
  target : TargetProperty

/-- Lets the mapper of a specification take a context. -/
def Specification.usingContext (s : Specification) (context : TypeExpr) :
    ContextualSpecification :=
  { inner := s, context := context }

namespace ContextualSpecification

/-- Leaves a target property as the factory set it. -/
def ignoringTarget (s : ContextualSpecification) (name : String) :
    Except MappingError ContextualSpecification := do
  return { s with inner := ← s.inner.ignoringTarget name }

/-- Does not read a source property. -/
def ignoringSource (s : ContextualSpecification) (name : String) :
    Except MappingError ContextualSpecification := do
  return { s with inner := ← s.inner.ignoringSource name }

/-- Makes targets with a factory. -/
def withFactory (s : ContextualSpecification) (factory : Factory) : ContextualSpecification :=
  { s with inner := s.inner.withFactory factory }

/-- Selects a target property to give it a value made from source and context. -/
def thatSets (s : ContextualSpecification) (name : String) :
    Except MappingError ContextualSetter := do
  return { specification := s, target := ← s.inner.targetNamed name }

/-- Adds a contextual stage behind all others. -/
def withCustom (s : ContextualSpecification) (stage : ContextualStage) :
    ContextualSpecification :=
  { s with customs := s.customs ++ [stage] }

/-- The text that sums up a specification. -/
def summary (s : ContextualSpecification) : String :=
  "ContextualTypeMappingSpec(" ++ s.inner.summary ++ ", context=" ++ s.context.written ++
  ", contextual_mappings=" ++ toString s.customs.length ++ ")"

/-- Checks the specification and compiles it into a contextual mapper. -/
def create [Packages] (classes : ClassTable Code) (s : ContextualSpecification) :
    Logged MappingError ContextualMapper := do
  let setters ← s.inner.compileSetters classes
  let transform := composeContextual classes (setters ++ s.inner.customs) s.customs
  let factory ← resolveFactory classes s.inner.target s.inner.factory?
  Logged.record .debug specificationLogger
    ("Compiled contextual mapper " ++ s.inner.target.written ++ " <- " ++
      s.inner.source.written ++ " (context " ++ s.context.written ++ ")" ++
      Specification.stageCounts setters.length (s.inner.customs.length + s.customs.length))
  return { factory := factory, transform := transform }

end ContextualSpecification

namespace ContextualSetter

/-- A reader of the pair of a source and a context. -/
def pairReader (reader : Value → Value → Run Value) : Reader :=
  fun pair =>
    match pair with
    | .tuple [source, context] _ => reader source context
    | _ => throw .badCall

/-- Writes what a reader reads off source and context, behind the contextual
stages that are there already. To the property the source is the pair of both. -/
def fromReader [Packages] (classes : ClassTable Code) (setter : ContextualSetter)
    (reader : Value → Value → Run Value) : ContextualSpecification :=
  let s := setter.specification
  let write := setter.target.setter classes (pairReader reader)
  { s with
    inner := { s.inner with targets := withoutTarget s.inner.targets setter.target }
    customs := s.customs ++ [fun target source context => do
      write target (← Run.pair source context)] }

/-- Reads the value from the source property of another name, whatever the
context. Neither property is matched any longer. -/
def fromSource [Packages] (classes : ClassTable Code) (setter : ContextualSetter) (name : String) :
    Except MappingError ContextualSpecification := do
  let source ← setter.specification.inner.sourceNamed name
  if setter.target.type.agrees source.type then
    let s := setter.fromReader classes fun value _ => source.reader value
    return { s with inner := { s.inner with sources := withoutSource s.inner.sources source } }
  else
    throw (.incompatible setter.target source)

end ContextualSetter

end ObjectMapping
