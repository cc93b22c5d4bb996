import ObjectMapping.Discovery.Annotations
import ObjectMapping.Session.Basic

/-!
# Declared types of any type

Any type can be asked for the annotations and properties of its class. A form
has no line of ancestors to ask. A form that can be called has no annotations
of its own, and any other cannot be asked for them either.
-/

namespace ObjectMapping

namespace TypeExpr

/-- The class of which a type has the members. -/
def memberClass? : TypeExpr → Option ClassId
  | .generic (.container c) _ => some (.standard c.standardClass)
  | t => t.classId?

/-- A form can be called, even though the call may fail. -/
def isCallable : TypeExpr → Bool
  | .form _ | .generic _ _ | .union .brackets _ | .annotated _ _ | .literal _ => true
  | t => t.isClass

end TypeExpr

namespace Session

variable (classes : ClassTable Code)

/-- The class of which a type has the members; any other type has no line. -/
def memberClass (type : TypeExpr) : Session ClassId :=
  match type.memberClass? with
  | some c => return c
  | none => unsupported "__mro__"

/-- The annotations of the class of a type and its ancestors. -/
def classAnnotations (type : TypeExpr) : Session (Entries String TypeExpr) := do
  ofLogged .evaluation (classes.classAnnotations (← memberClass type))

/-- The annotations that the class of a type declares itself. -/
def ownAnnotations (type : TypeExpr) : Session (Entries String TypeExpr) :=
  match type.memberClass? with
  | some c => ofLogged .evaluation (ExceptT.mk (pure (classes.ownAnnotations c)))
  | none => if type.isCallable then return [] else throw (.fault .badOperand)

/-- The public annotations that describe each instance. -/
def instanceAnnotations (type : TypeExpr) : Session (Entries String TypeExpr) := do
  ofLogged .evaluation (classes.instanceAnnotations (← memberClass type))

/-- The public properties, each with its result type if it can be read, and
whether it can be written. -/
def publicProperties (type : TypeExpr) : Session (List (String × Option TypeExpr × Bool)) := do
  let c ← memberClass type
  ofLogged .evaluation <| (classes.publicProperties c).mapM fun entry => do
    let result? ← match entry.2.getter? with
      | some getter => do pure (some (← resultType getter))
      | none => pure none
    return (entry.1, result?, entry.2.isWritable)

/-- The interfaces among the class of a type and its ancestors. -/
def interfaces (type : TypeExpr) : Session (List ClassName) := do
  return (classes.interfaceLine (← memberClass type)).map (·.name)

end Session

end ObjectMapping
