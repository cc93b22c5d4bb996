import ObjectMapping.Mapping.Mapper

/-!
# Mapping specifications

A specification lists the properties to write and to read, custom stages that
follow the matched properties, and optionally the factory of targets. Building
steps make a new specification and leave the old one as it is. Compiling checks
that the two lists correspond and gives a mapper.
-/

namespace ObjectMapping

/-- How a source type is mapped onto a target type. -/
structure Specification where
  target : TypeExpr
  source : TypeExpr
  targets : List TargetProperty
  sources : List SourceProperty
  customs : List Stage := []
  factory? : Option Factory := none

/-- A target property of a specification that waits for the value to write. -/
structure Setter where
  specification : Specification
  target : TargetProperty

/-- The part of the program that reports compiled mappers. -/
def specificationLogger : String := "fluentmap.spec"

/-- The list without one of its properties; others of the same name stay. -/
def withoutTarget (targets : List TargetProperty) (removed : TargetProperty) :
    List TargetProperty :=
  targets.filter fun t => !t.isOne removed

/-- The list without one of its properties; others of the same name stay. -/
def withoutSource (sources : List SourceProperty) (removed : SourceProperty) :
    List SourceProperty :=
  sources.filter fun s => !s.isOne removed

namespace Specification

/-- The first target property of a name. -/
def targetNamed (s : Specification) (name : String) : Except MappingError TargetProperty :=
  match s.targets.find? (·.name == name) with
  | some t => .ok t
  | none => .error (.unknownProperty .target name s.target (s.targets.map (·.name)))

/-- The first source property of a name. -/
def sourceNamed (s : Specification) (name : String) : Except MappingError SourceProperty :=
  match s.sources.find? (·.name == name) with
  | some p => .ok p
  | none => .error (.unknownProperty .source name s.source (s.sources.map (·.name)))

/-- Leaves a target property as the factory set it. -/
def ignoringTarget (s : Specification) (name : String) : Except MappingError Specification := do
  let removed ← s.targetNamed name
  return { s with targets := withoutTarget s.targets removed }

/-- Does not read a source property. -/
def ignoringSource (s : Specification) (name : String) : Except MappingError Specification := do
  let removed ← s.sourceNamed name
  return { s with sources := withoutSource s.sources removed }

/-- Selects a target property to give it a value of its own. -/
def thatSets (s : Specification) (name : String) : Except MappingError Setter := do
  return { specification := s, target := ← s.targetNamed name }

/-- Adds a stage behind all others. -/
def withCustom (s : Specification) (stage : Stage) : Specification :=
  { s with customs := s.customs ++ [stage] }

/-- Makes targets with a factory. -/
def withFactory (s : Specification) (factory : Factory) : Specification :=
  { s with factory? := some factory }

/-- The setters of the matched properties. -/
def compileSetters [Packages] (classes : ClassTable Code) (s : Specification) :
    Except MappingError (List Stage) := do
  return createSetters classes (← matchProperties s.targets s.sources)

/-- The text that sums up a specification. -/
def summary (s : Specification) : String :=
  "TypeMappingSpec(" ++ s.target.written ++ " <- " ++ s.source.written ++
  ", targets=" ++ Text.quotedList (s.targets.map (·.name)) ++
  ", sources=" ++ Text.quotedList (s.sources.map (·.name)) ++
  ", custom_mappings=" ++ toString s.customs.length ++ ")"

/-- The counts of stages in the report of a compiled mapper. -/
def stageCounts (setters customs : Nat) : String :=
  " with " ++ toString setters ++ " property setters and " ++ toString customs ++
  " custom mappings"

/-- Checks the specification and compiles it into a mapper. -/
def create [Packages] (classes : ClassTable Code) (s : Specification) :
    Logged MappingError Mapper := do
  let setters ← s.compileSetters classes
  let transform := compose classes (setters ++ s.customs)
  let factory ← resolveFactory classes s.target s.factory?
  Logged.record .debug specificationLogger
    ("Compiled mapper " ++ s.target.written ++ " <- " ++ s.source.written ++
      stageCounts setters.length s.customs.length)
  return { factory := factory, transform := transform }

end Specification

namespace Setter

/-- Writes what a reader reads, behind the stages that are there already. The
property is no longer matched; a source property of its name stays. -/
def fromReader [Packages] (classes : ClassTable Code) (setter : Setter) (reader : Reader) :
    Specification :=
  let s := setter.specification
  { s with
    targets := withoutTarget s.targets setter.target
    customs := s.customs ++ [setter.target.setter classes reader] }

/-- Reads the value from the source property of another name. Neither property
is matched any longer. -/
def fromSource [Packages] (classes : ClassTable Code) (setter : Setter) (name : String) :
    Except MappingError Specification := do
  let source ← setter.specification.sourceNamed name
  if setter.target.type.agrees source.type then
    let s := setter.fromReader classes source.reader
    return { s with sources := withoutSource s.sources source }
  else
    throw (.incompatible setter.target source)

end Setter

end ObjectMapping
