import ObjectMapping.Value.Heap
import ObjectMapping.Value.Snapshot

/-!
# Runs

A run reads and changes the heap, may leave traces, and ends with a value or a
fault. What it did before a fault stays done.
-/

namespace ObjectMapping

/-- Why a run ends without a value. -/
inductive Fault where
  /-- An error that the program raised itself, with its kind and its text. -/
  | raised (kind text : String)
  | noAttribute (name : String)
  /-- The attribute exists or could exist, but may not be stored. -/
  | notWritable (name : String)
  /-- The instance does not allow any change. -/
  | frozen
  /-- A model refuses missing or changed fields. -/
  | invalidModel
  /-- A model has no field of this name. -/
  | unknownField (name : String)
  /-- A constructor-only parameter has no value to be called with again. -/
  | missingInitOnly (name : String)
  | noKey
  | indexOutOfRange
  /-- A text or a number is not one that can be converted. -/
  | badValue
  /-- A number is too large for its kind. -/
  | overflow
  /-- A text does not write a decimal number. -/
  | badDecimal
  /-- Some declared type of a model does not resolve even now. -/
  | unusableModel
  /-- The arguments of a call do not fit, or the thing cannot be called. -/
  | badCall
  /-- An operation does not apply to a value of this kind. -/
  | badOperand
  | unboundVariable (name : String)
  /-- Calls are nested beyond the limit. -/
  | nestedTooDeep
  deriving Repr, Inhabited, DecidableEq

/-- The run could not find an attribute, or could not store one. -/
def Fault.concernsAttribute : Fault → Bool
  | .noAttribute _ | .notWritable _ | .frozen => true
  | _ => false

/-- What a run changes about a class. -/
inductive ClassChange where
  /-- A value is stored under a name of the class itself. -/
  | stored (name : String) (value : Value)
  /-- Instances are filled in the way that another class declares, or in none. -/
  | filledLike (ancestor? : Option ClassId)
  /-- Texts in declared types that had no meaning yet have got one. -/
  | completed
  deriving Inhabited

/-- What runs share: the objects, the traces left so far, the changes of classes
in order, and the number of values made. -/
structure World where
  heap : Heap := {}
  trace : List Snapshot := []
  changes : List (ClassId × ClassChange) := []
  makings : Nat := 0
  deriving Inhabited

/-- The world in which a session takes its next step: no trace is left yet, and
what the step makes is not mistaken for what an earlier one made. -/
def World.atNextStep (world : World) : World :=
  { world with trace := [], makings := world.makings + 1 }

/-- A computation on the world. A fault keeps the world it happened in. -/
abbrev Run (α : Type) := ExceptT Fault (StateM World) α

/-- A piece of program: it takes the values of its parameters. -/
abbrev Code := List Value → Run Value

namespace Run

/-- The object at an address. -/
def object? (address : Nat) : Run (Option Object) := do
  return (← get).heap.get? address

/-- Allocates an object and refers to it. -/
def allocate (object : Object) : Run Value := do
  let world ← get
  set { world with heap := world.heap.allocate object }
  return .object world.heap.next

/-- Replaces the object at an address. -/
def replace (address : Nat) (object : Object) : Run Unit :=
  modify fun world => { world with heap := world.heap.set address object }

/-- Changes a class. -/
def change (c : ClassId) (change : ClassChange) : Run Unit :=
  modify fun world => { world with changes := world.changes ++ [(c, change)] }

/-- Makes a plain value. -/
def make (value : Making → Value) : Run Value :=
  modifyGet fun world =>
    (value (.made world.makings), { world with makings := world.makings + 1 })

/-- The pair of a source and its context. It is no making of its own: the pairs
that stand between two makings are told apart by what they hold. -/
def pair (source context : Value) : Run Value := do
  return .tuple [source, context] (.paired (← get).makings)

/-- Leaves a trace. -/
def leave (snapshot : Snapshot) : Run Unit :=
  modify fun world => { world with trace := world.trace ++ [snapshot] }

end Run

end ObjectMapping
