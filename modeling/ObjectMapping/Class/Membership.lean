import ObjectMapping.Class.Table

/-!
# Classes of values

Every value is an instance of one class, and by that of all ancestors of the
class. A class is an instance of a class too, and so is a type that is no class.
-/

namespace ObjectMapping

/-- Code that does nothing. -/
instance : Inhabited Code := ⟨fun _ => pure .null⟩

namespace ClassTable

variable {β : Type} [Inhabited β] (classes : ClassTable β)

/-- The class of which a type is an instance. -/
def classOfType (t : TypeExpr) : StandardClass :=
  match t with
  | .named c => (classes.info c.id).metaclass
  | t => t.formClass

/-- The class of a value. -/
def classOf (v : Value) : Run ClassId :=
  match v with
  | .null => return .standard .noneType
  | .bool _ => return .standard .bool
  | .int _ _ => return .standard .int
  | .float _ _ => return .standard .float
  | .bytes _ _ => return .standard .bytes
  | .str _ _ => return .standard .str
  | .tuple _ _ => return .standard .tuple
  | .type t _ => return .standard (classes.classOfType t)
  | .standard c _ _ => return .standard c
  | .member kind _ _ => return .standard kind
  | .object address => do
      match ← Run.object? address with
      | some (.list _) => return .standard .list
      | some (.dict _) => return .standard .dict
      | some (.set _) => return .standard .set
      | some (.record r) => return r.classId
      | none => return .standard .object

/-- A value is an instance of a class. An interface cannot tell its instances, apart
from those that are of no other class. -/
def isInstance (v : Value) (c : ClassId) : Run Bool := do
  let own ← classes.classOf v
  if own == c then return true
  if (classes.info c).isInterface then throw .badOperand
  return classes.isSubclass own c

/-- The type whose instances belong to a class. -/
def typeOf (c : ClassId) : TypeExpr :=
  .named (classes.info c).name

/-- The class is a model. -/
def isModel (c : ClassId) : Bool :=
  classes.isSubclass c (.standard .modelBase)

end ClassTable

end ObjectMapping
