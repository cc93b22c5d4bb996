import ObjectMapping.Log
import ObjectMapping.Mapping.Error

/-!
# Factories of targets

A factory makes a new target each time it is run. A given factory is taken as it
is. Otherwise the target type itself is called without arguments, if that can
work: the type has to be a class that has instances, and none of its parameters
may need an argument.
-/

namespace ObjectMapping

/-- Makes a new target. -/
abbrev Factory := Run Value

/-- The class that a type is. The type of all values counts as a class without
members. -/
def TypeExpr.classId? : TypeExpr → Option ClassId
  | .named c => some c.id
  | .any => some (.standard .object)
  | _ => Option.none

/-- Why a class cannot be called without arguments. -/
def classObstacle? [Packages] (classes : ClassTable Code) (c : ClassId) :
    Option ConstructionObstacle :=
  if (classes.info c).isInterface then some .interface
  else if classes.isAbstract c then some .isAbstract
  else
    match classes.parameters? c with
    | none => none
    | some parameters =>
        match (parameters.filter (·.isRequired)).map (·.name) with
        | [] => none
        | names => some (.requires names)

/-- Why a type cannot be called without arguments. -/
def constructionObstacle? [Packages] (classes : ClassTable Code) (type : TypeExpr) :
    Option ConstructionObstacle :=
  match type.classId? with
  | none => some .notAClass
  | some c => classObstacle? classes c

/-- The part of the program that reports factories. -/
def constructionLogger : String := "fluentmap.construction"

/-- The factory of a mapping: the given one, or calling the target type. -/
def resolveFactory [Packages] (classes : ClassTable Code) (type : TypeExpr)
    (given? : Option Factory) : Logged MappingError Factory :=
  match given? with
  | some factory => return factory
  | none => do
      match constructionObstacle? classes type with
      | some obstacle => throw (.noDefaultConstructor type obstacle)
      | none =>
          Logged.record .debug constructionLogger
            ("Using " ++ type.written ++ "() as the default target factory")
          return classes.callType {} type

end ObjectMapping
