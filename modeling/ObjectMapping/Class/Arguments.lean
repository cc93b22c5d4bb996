import ObjectMapping.Class.Copying

/-!
# Binding arguments

How the arguments of a call reach the parameters. Arguments by position fill
the parameters in their order; those that are left over go to a parameter that
collects them, and without one the call fails. Arguments by name go to the
parameter of that name, which must not be filled yet. A parameter that gets
nothing takes its default, and a call that leaves one without value fails.
-/

namespace ObjectMapping

namespace Parameter

/-- The parameter collects arguments and so needs none. -/
def isCollecting (p : Parameter) : Bool :=
  p.kind == .rest || p.kind == .restByName

/-- A call has to give the parameter a value. -/
def isRequired (p : Parameter) : Bool :=
  p.default?.isNone && !p.isCollecting

/-- The parameter takes an argument by position. -/
def byPosition (p : Parameter) : Bool :=
  p.kind == .positionalOnly || p.kind == .standard

/-- The parameter takes an argument by name. -/
def byName (p : Parameter) : Bool :=
  p.kind == .standard || p.kind == .nameOnly

end Parameter

/-- The arguments of a call. -/
structure Arguments where
  positional : List Value := []
  named : Entries String Value := []
  deriving Inhabited

/-- What a parameter is bound to. -/
inductive Binding where
  | value (value : Value)
  | default (value : Default)
  | collected (values : List Value)
  | collectedByName (values : Entries String Value)
  deriving Inhabited

/-- Binds the parameters in order. The positional arguments are those that no
earlier parameter took; the named ones are those that `surplus` names are taken
from at the end. -/
def bindParameters (named surplus : Entries String Value) :
    List Parameter → List Value → Option (List Binding)
  | [], [] => some []
  | [], _ :: _ => none
  | p :: rest, positional =>
      match p.kind, positional with
      | .rest, _ => (bindParameters named surplus rest []).map (.collected positional :: ·)
      | .restByName, _ =>
          (bindParameters named surplus rest positional).map (.collectedByName surplus :: ·)
      | _, _ =>
          let byName? := if p.byName then Entries.get? named p.name else none
          if p.byPosition then
            match positional, byName? with
            | v :: others, none =>
                (bindParameters named surplus rest others).map (.value v :: ·)
            | _ :: _, some _ => none
            | [], some v => (bindParameters named surplus rest []).map (.value v :: ·)
            | [], none => bindDefault p (bindParameters named surplus rest [])
          else
            match byName? with
            | some v => (bindParameters named surplus rest positional).map (.value v :: ·)
            | none => bindDefault p (bindParameters named surplus rest positional)
where
  /-- Binds a parameter without argument. -/
  bindDefault (p : Parameter) (others : Option (List Binding)) : Option (List Binding) :=
    match p.default? with
    | some d => others.map (.default d :: ·)
    | none => none

/-- The arguments by name that no parameter takes. -/
def surplusOf (parameters : List Parameter) (named : Entries String Value) :
    Entries String Value :=
  named.filter fun entry => !parameters.any fun p => p.byName && p.name == entry.1

/-- The name by which code of a class knows the instance. -/
def selfVariable : String := "self"

/-- The instance itself is given by name again. Before parameters that only take
arguments by position it has no name. -/
def givesSelf (parameters : List Parameter) (arguments : Arguments) : Bool :=
  Entries.contains arguments.named selfVariable &&
    !parameters.any fun p => p.name == selfVariable || p.kind == .positionalOnly

/-- Binds the parameters of a call, in order; nothing when the arguments do not fit. -/
def bindArguments? (parameters : List Parameter) (arguments : Arguments) :
    Option (List Binding) :=
  let surplus := surplusOf parameters arguments.named
  if givesSelf parameters arguments then
    none
  else if surplus.isEmpty || parameters.any (·.kind == .restByName) then
    bindParameters arguments.named surplus parameters arguments.positional
  else
    none

namespace ClassTable

variable {β : Type} [Inhabited β] (classes : ClassTable β)

/-- The value of a bound parameter. -/
def createBound : Binding → Run Value
  | .value v => return v
  | .default d => d.create classes
  | .collected values => Run.make (.tuple values)
  | .collectedByName values =>
      Run.allocate (.dict (values.map fun entry => (.text entry.1, entry.2)))

/-- The values of all parameters of a call, in order. -/
def bindAll (parameters : List Parameter) (arguments : Arguments) : Run (List Value) :=
  match bindArguments? parameters arguments with
  | some bindings => bindings.mapM classes.createBound
  | none => throw .badCall

end ClassTable

end ObjectMapping
