import ObjectMapping.Discovery.Registry
import ObjectMapping.Mapping.Contextual
import ObjectMapping.Script.Callable

/-!
# Sessions

A session builds specifications step by step, compiles them and runs the
mappers. Each step reads what an earlier step left in a register and leaves its
own result in one. A step that fails leaves its register as it was; what it did
to objects stays done. A step whose register is empty is skipped.
-/

namespace ObjectMapping

/-- What a register holds. -/
inductive Register where
  | specification (specification : Specification)
  | contextual (specification : ContextualSpecification)
  | setter (setter : Setter)
  | contextualSetter (setter : ContextualSetter)
  | mapper (mapper : Mapper)
  | contextualMapper (mapper : ContextualMapper)
  | value (value : Value)

/-- Why a step or an operation fails. -/
inductive Failure where
  /-- The specification is wrong. -/
  | mapping (error : MappingError)
  /-- A declared type does not resolve. -/
  | evaluation (error : EvaluationError)
  /-- A run ended without a value. -/
  | fault (fault : Fault)

/-- What a step does. -/
inductive Action where
  | start (target source : TypeExpr) (targets? : Option (List TargetProperty))
      (sources? : Option (List SourceProperty)) (customs : List Script)
      (factory? : Option Script) (registry : Registry)
  | ignoreTarget (name : String)
  | ignoreSource (name : String)
  | custom (script : Script)
  | factory (script : Script)
  | usingContext (context : TypeExpr)
  | thatSets (name : String)
  | fromReader (script : Script)
  | fromSource (name : String)
  | create
  | summary
  | overview
  | targetNamed (name : String)
  | sourceNamed (name : String)
  | evaluate (value : Expression)
  /-- Shows a value and leaves no result. -/
  | inspect (value : Expression)
  | map (source context : Expression)
  | mapInto (target source context : Expression)

/-- A step: what it does, the register it reads, and the one it leaves its
result in. -/
structure Step where
  action : Action
  on : String
  result : String

/-- What a step answers. -/
inductive Answer where
  | text (text : String)
  | skipped (register : String)
  | overview (specification : Specification)
  | contextualOverview (specification : ContextualSpecification)
  | target (property : TargetProperty)
  | source (property : SourceProperty)
  | value (shown : Snapshot)
  | mapped (result : Snapshot)
  /-- The result, whether it is the given target, and the given target afterwards. -/
  | mappedInto (result : Snapshot) (isSame : Bool) (target : Snapshot)

/-- What a session knows between steps. -/
structure SessionState where
  registers : Entries String Register := []
  world : World := {}
  records : List LogRecord := []

/-- A computation of a session. -/
abbrev Session (α : Type) := ExceptT Failure (StateM SessionState) α

/-- What a step leaves to see: its outcome, its traces and its log records. -/
structure Entry where
  outcome : Except Failure Answer
  trace : List Snapshot
  records : List LogRecord

namespace Session

variable {α : Type}

/-- Runs a computation on the objects of the session. -/
def ofRun (run : Run α) : Session α := do
  let state ← get
  let (outcome, world) := ExceptT.run run |>.run state.world
  set { state with world := world }
  match outcome with
  | .ok a => return a
  | .error fault => throw (.fault fault)

/-- A check of the session. -/
def ofExcept (check : Except MappingError α) : Session α :=
  match check with
  | .ok a => return a
  | .error error => throw (.mapping error)

/-- A computation that leaves log records. -/
def ofLogged {ε : Type} (failure : ε → Failure) (computation : Logged ε α) : Session α := do
  let (outcome, records) := computation.outcome
  modify fun state => { state with records := state.records ++ records }
  match outcome with
  | .ok a => return a
  | .error error => throw (failure error)

/-- The classes as runs have left them by now. -/
def current (classes : ClassTable Code) : Session (ClassTable Code) := do
  return classes.changed (← get).world.changes

/-- What a register holds. -/
def register? (name : String) : Session (Option Register) := do
  return Entries.get? (← get).registers name

/-- Leaves something in a register. -/
def leave (name : String) (register : Register) : Session Unit :=
  modify fun state => { state with registers := Entries.put state.registers name register }

/-- The registers that expressions can refer to. -/
def environment : Session Environment := do
  return (← get).registers.filterMap fun entry =>
    match entry.2 with
    | .value v => if entry.1.startsWith "$" then some (entry.1, v) else none
    | _ => none

/-- The failure of asking something for what it does not have. -/
def unsupported (name : String) : Session α :=
  throw (.fault (.noAttribute name))

end Session

end ObjectMapping
