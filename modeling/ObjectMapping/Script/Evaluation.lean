import ObjectMapping.Script.Basic

/-!
# Running scripts

Expressions are evaluated, and statements run, over a class table whose code can
be run. The code of classes calls other code of classes, so the table is built
in levels: the code of a level sees the table of the level below, and the code
of the lowest level fails because calls are nested too deep.
-/

namespace ObjectMapping

/-- The sum of two values: numbers are added, texts, bytes, lists and tuples
joined. Joining nothing to a value that cannot change gives that value itself. -/
def addValues (left right : Value) : Run Value := do
  match left, right with
  | .str s _, .str t _ =>
      if s.isEmpty then return right
      if t.isEmpty then return left
      Run.make (.str (s ++ t))
  | .bytes digits _, .bytes others _ =>
      if digits.isEmpty then return right
      if others.isEmpty then return left
      Run.make (.bytes (digits ++ others))
  | .tuple items _, .tuple others _ =>
      if items.isEmpty then return right
      if others.isEmpty then return left
      Run.make (.tuple (items ++ others))
  | .object a, .object b =>
      match ← Run.object? a, ← Run.object? b with
      | some (.list items), some (.list others) => Run.allocate (.list (items ++ others))
      | _, _ => throw .badOperand
  | _, _ =>
      match left.number?, right.number? with
      | some m, some n => Run.make (.int (m + n))
      | _, _ => throw .badOperand

/-- A list repeated a number of times, none for a number below zero. -/
def repeated {α : Type} (items : List α) (count : Int) : List α :=
  (List.replicate count.toNat items).flatten

/-- A text, tuple, list or bytes repeated a number of times. -/
def repeatValue (v : Value) (count : Int) : Run Value := do
  match v with
  | .str s _ =>
      if count == 1 then return v
      Run.make (.str (String.ofList (repeated s.toList count)))
  | .bytes digits _ =>
      if count == 1 then return v
      Run.make (.bytes (String.ofList (repeated digits.toList count)))
  | .tuple items _ =>
      if count == 1 then return v
      Run.make (.tuple (repeated items count))
  | .object address =>
      match ← Run.object? address with
      | some (.list items) => Run.allocate (.list (repeated items count))
      | _ => throw .badOperand
  | _ => throw .badOperand

/-- The product of two values: numbers are multiplied, all else is repeated. -/
def multiplyValues (left right : Value) : Run Value :=
  match left.number?, right.number? with
  | some m, some n => Run.make (.int (m * n))
  | some m, none => repeatValue right m
  | none, some n => repeatValue left n
  | none, none => throw .badOperand

/-- Combines the values of a list from left to right. -/
def combine (operation : Value → Value → Run Value) : List Value → Run Value
  | [] => throw .badOperand
  | first :: rest => rest.foldlM operation first

/-- The place of an element, counted from the end when the index is below zero. -/
def placeOf? (count : Nat) (index : Int) : Option Nat :=
  let place := if index < 0 then index + count else index
  if 0 ≤ place && place < count then some place.toNat else none

/-- The element at an index. -/
def elementAt (items : List Value) (key : Value) : Run Value :=
  match key.number? with
  | none => throw .badOperand
  | some index =>
      match (placeOf? items.length index).bind (items[·]?) with
      | some v => return v
      | none => throw .indexOutOfRange

namespace ClassTable

variable (classes : ClassTable Code)

/-- The element of a container under a key. -/
def itemOf (subject key : Value) : Run Value := do
  match subject with
  | .object address =>
      match ← Run.object? address with
      | some (.dict entries) =>
          classes.requireKey key
          match Entries.get? entries key with
          | some v => return v
          | none => throw .noKey
      | some (.list items) => elementAt items key
      | _ => throw .badOperand
  | .tuple items _ => elementAt items key
  | .str s _ => do
      let found ← elementAt (s.toList.map fun c => .text (String.singleton c)) key
      match found with
      | .str c _ => Run.make (.str c)
      | v => return v
  | .bytes _ _ | .standard .range _ _ => elementAt (← elements subject) key
  | _ => throw .badOperand

/-- The number of elements of a container. -/
def lengthOf (v : Value) : Run Value := do
  let count ← match v with
    | .str s _ => pure s.length
    | .bytes _ _ | .tuple _ _ | .standard .frozenset _ _ | .standard .range _ _ => do
        pure (← elements v).length
    | .object address =>
        match ← Run.object? address with
        | some (.list items) | some (.set items) => pure items.length
        | some (.dict entries) => pure entries.length
        | _ => throw .badOperand
    | _ => throw .badOperand
  Run.make (.int count)

/-- Adds an element at the end of a list. -/
def appendValue (subject v : Value) : Run Unit := do
  match subject with
  | .object address =>
      match ← Run.object? address with
      | some (.list items) => Run.replace address (.list (items ++ [v]))
      | _ => throw (.noAttribute "append")
  | _ => throw (.noAttribute "append")

/-- Puts an element into a container under a key. -/
def putValue (subject key v : Value) : Run Unit := do
  let .object address := subject | throw .badOperand
  match ← Run.object? address with
  | some (.dict entries) =>
      classes.requireKey key
      Run.replace address (.dict (Entries.put entries key v))
  | some (.list items) =>
      match key.number? with
      | some index =>
          match placeOf? items.length index with
          | some place => Run.replace address (.list (items.set place v))
          | none => throw .indexOutOfRange
      | none => throw .badOperand
  | _ => throw .badOperand

end ClassTable

namespace Expression

variable [Packages] (classes : ClassTable Code) (environment : Environment)

mutual

/-- The value of an expression. -/
def evaluate : Expression → Run Value
  | .constant v => return v
  | .float text => ClassTable.ofText ((Floating.read? text).map Value.float)
  | .bytes text =>
      ClassTable.ofText ((hexPairs? text.toList).map fun digits => .bytes (String.ofList digits))
  | .type t => Run.make (.type t)
  | .list items => do Run.allocate (.list (← evaluateAll items))
  | .tuple items => do
      let values ← evaluateAll items
      Run.make (.tuple values)
  | .dict entries => do Run.allocate (.dict (Entries.ofList (← evaluateEntries entries)))
  | .variable name =>
      match Entries.get? environment name with
      | some v => return v
      | none => throw (.unboundVariable name)
  | .attribute subject name => do classes.readAttribute (← evaluate subject) name
  | .item subject key => do
      let container ← evaluate subject
      classes.itemOf container (← evaluate key)
  | .sum items => do combine addValues (← evaluateAll items)
  | .product items => do combine multiplyValues (← evaluateAll items)
  | .length subject => do ClassTable.lengthOf (← evaluate subject)
  | .traced shown result => do
      Run.leave (← classes.capture (← evaluate shown))
      evaluate result
  | .raise kind text => throw (.raised kind text)
  | .create t positional named attributes => do
      let positional ← evaluateAll positional
      let named ← evaluateNamed named
      let made ← classes.callType ⟨positional, named⟩ t
      storeInTurn made attributes
      return made
  | .copyWith subject name value => do
      let copied ← evaluate subject
      let name ← evaluate name
      let v ← evaluate value
      let copy ← classes.shallowCopy copied
      match name with
      | .str name _ => classes.storeUnguarded copy name v
      | _ => throw .badOperand
      return copy
termination_by structural e => e

/-- The values of some expressions, in order. -/
def evaluateAll : List Expression → Run (List Value)
  | [] => return []
  | first :: rest => do
      let v ← evaluate first
      return v :: (← evaluateAll rest)

/-- Keys and values of some entries, in order. Each key has to serve as one. -/
def evaluateEntries : List (Expression × Expression) → Run (List (Value × Value))
  | [] => return []
  | (key, value) :: rest => do
      let k ← evaluate key
      let v ← evaluate value
      classes.requireKey k
      return (k, v) :: (← evaluateEntries rest)

/-- The values of named expressions, in order. -/
def evaluateNamed : List (String × Expression) → Run (List (String × Value))
  | [] => return []
  | (name, value) :: rest => do
      let v ← evaluate value
      return (name, v) :: (← evaluateNamed rest)

/-- Evaluates named expressions and stores each value at once. -/
def storeInTurn (target : Value) : List (String × Expression) → Run Unit
  | [] => return
  | (name, value) :: rest => do
      let v ← evaluate value
      classes.writeAttribute target name v
      storeInTurn target rest

end

end Expression

namespace Statement

variable [Packages] (classes : ClassTable Code) (environment : Environment)

/-- Runs a statement. -/
def run : Statement → Run Unit
  | .set subject name value => do
      let target ← subject.evaluate classes environment
      let v ← value.evaluate classes environment
      classes.writeAttribute target name v
  | .force subject name value => do
      let target ← subject.evaluate classes environment
      let v ← value.evaluate classes environment
      classes.storeUnguarded target name v
  | .append subject value => do
      let target ← subject.evaluate classes environment
      ClassTable.appendValue target (← value.evaluate classes environment)
  | .put subject key value => do
      let target ← subject.evaluate classes environment
      let k ← key.evaluate classes environment
      classes.putValue target k (← value.evaluate classes environment)
  | .trace value => do
      Run.leave (← classes.capture (← value.evaluate classes environment))
  | .raise kind text => throw (.raised kind text)

end Statement

/-- Runs the statements of a script and gives its result. -/
def Script.run [Packages] (classes : ClassTable Code) (environment : Environment)
    (script : Script) : Run Value := do
  script.statements.forM fun statement => statement.run classes environment
  script.result.evaluate classes environment

/-- Code as it runs over a class table: the values of the parameters become
variables. -/
def Body.code [Packages] (classes : ClassTable Code) : Body → Code
  | .script parameters written => fun values => written.run classes (parameters.zip values)
  | .path names => fun values =>
      match values with
      | v :: _ => classes.readPath v names
      | [] => throw .badCall

/-- The classes of a program as they are written. -/
abbrev Blueprint := ClassTable Body

namespace Blueprint

/-- The class table whose code may nest calls to the given depth. -/
def atDepth [Packages] (blueprint : Blueprint) : Nat → ClassTable Code
  | 0 => blueprint.map fun _ _ => throw .nestedTooDeep
  | depth + 1 => blueprint.map fun body values => body.code (atDepth blueprint depth) values

/-- The depth to which calls may nest. -/
def depthLimit : Nat := 400

/-- The class table of a program that runs. -/
def runnable [Packages] (blueprint : Blueprint) : ClassTable Code :=
  atDepth blueprint depthLimit

end Blueprint

end ObjectMapping
