import ObjectMapping.Mapping.Property
import ObjectMapping.Text.LetterCase

/-!
# Errors of mapping specifications

What can be wrong with a specification, and the text that reports it. Each error
carries the properties that it is about.
-/

namespace ObjectMapping

/-- The two sides of a mapping. -/
inductive Side where
  | target | source
  deriving DecidableEq, Repr, Inhabited

/-- The word for a side in messages. -/
def Side.word : Side → String
  | .target => "target"
  | .source => "source"

/-- Why a class cannot be called without arguments. -/
inductive ConstructionObstacle where
  | notAClass
  | interface
  | isAbstract
  /-- Parameters that have to be given, in the order of the signature. -/
  | requires (parameters : List String)
  deriving DecidableEq, Repr, Inhabited

/-- The text of an obstacle. -/
def ConstructionObstacle.message : ConstructionObstacle → String
  | .notAClass => "it is not a class"
  | .interface => "it is a Protocol"
  | .isAbstract => "it is abstract"
  | .requires parameters =>
      "its constructor requires " ++ ", ".intercalate (parameters.map Text.quoted)

/-- What is wrong with a specification. -/
inductive MappingError where
  /-- No source property has the name of the target property. -/
  | unmatchedTarget (target : TargetProperty)
  /-- No target property has the name of the source property. -/
  | unmatchedSource (source : SourceProperty)
  /-- The two properties of a name differ in the type of their values. -/
  | incompatible (target : TargetProperty) (source : SourceProperty)
  | noDefaultConstructor (type : TypeExpr) (obstacle : ConstructionObstacle)
  | duplicateTarget (first second : TargetProperty)
  | duplicateSource (first second : SourceProperty)
  /-- A builder names a property that the specification does not hold. -/
  | unknownProperty (side : Side) (name : String) (owner : TypeExpr) (known : List String)

namespace MappingError

/-- The text for an unmatched target property. -/
def unmatchedTargetMessage (name description : String) : String :=
  "Target " ++ description ++ " is unmatched.\n" ++
  "Hint: add a source value named '" ++ name ++ "', set it explicitly with " ++
  "that_sets('" ++ name ++ "'), or drop it with " ++
  "ignoring_target_property('" ++ name ++ "')."

/-- The text for an unmatched source property. -/
def unmatchedSourceMessage (name description : String) : String :=
  "Source " ++ description ++ " is unmatched.\n" ++
  "Hint: drop it with ignoring_source_property('" ++ name ++ "')."

/-- The text for properties of different types. -/
def incompatibleMessage (target source : String) : String :=
  "Cannot map [" ++ target ++ "] from [" ++ source ++ "]."

/-- The text for a type that cannot be called without arguments. -/
def noDefaultConstructorMessage (type : TypeExpr) (reason : String) : String :=
  "Cannot construct " ++ type.written ++ " without arguments: " ++ reason ++ ".\n" ++
  "Hint: supply a factory with with_constructor(lambda: " ++ type.written ++ "(...))."

/-- The text for a property that is declared twice. -/
def duplicateMessage (side name first second : String) : String :=
  Text.capitalized side ++ " property '" ++ name ++ "' is declared more than once: [" ++
  first ++ "] and [" ++ second ++ "]."

/-- The text for a property that a specification does not hold. -/
def unknownPropertyMessage (side name : String) (owner : TypeExpr) (known : List String) :
    String :=
  let names := ", ".intercalate known
  owner.written ++ " has no " ++ side ++ " property '" ++ name ++ "'. " ++
  "Known " ++ side ++ " properties: " ++ (if names.isEmpty then "(none)" else names) ++ "."

/-- The name of the kind of an error. -/
def kind : MappingError → String
  | .unmatchedTarget _ => "UnmatchedTargetPropertyError"
  | .unmatchedSource _ => "UnmatchedSourcePropertyError"
  | .incompatible _ _ => "IncompatibleTypesError"
  | .noDefaultConstructor _ _ => "NoParameterlessConstructorError"
  | .duplicateTarget _ _ | .duplicateSource _ _ => "DuplicatePropertyError"
  | .unknownProperty _ _ _ _ => "UnknownPropertyError"

/-- The text of an error. -/
def message : MappingError → String
  | .unmatchedTarget t => unmatchedTargetMessage t.name t.description
  | .unmatchedSource s => unmatchedSourceMessage s.name s.description
  | .incompatible t s => incompatibleMessage t.description s.description
  | .noDefaultConstructor type obstacle => noDefaultConstructorMessage type obstacle.message
  | .duplicateTarget first second =>
      duplicateMessage Side.target.word first.name first.description second.description
  | .duplicateSource first second =>
      duplicateMessage Side.source.word first.name first.description second.description
  | .unknownProperty side name owner known =>
      unknownPropertyMessage side.word name owner known

end MappingError

end ObjectMapping
