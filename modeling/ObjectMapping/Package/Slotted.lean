import ObjectMapping.Class.Package

/-!
# Slotted classes as their package fills them

The constructor that a slotted class gets takes one argument for each field that it
accepts and stores it past all guards. Fields without argument take their defaults.
-/

namespace ObjectMapping

/-- The name of the parameter for a field: without underscores in front. -/
def SlottedField.parameterName (f : SlottedField) : String :=
  String.ofList (f.name.toList.dropWhile (· == '_'))

/-- The parameter for a field. -/
def SlottedField.parameter (f : SlottedField) : Parameter where
  name := f.parameterName
  kind := if f.nameOnly then .nameOnly else .standard
  default? := f.default?

namespace SlottedLayout

/-- The fields of a slotted class in the order of their parameters: those by
position come before those by name. -/
def acceptedFields (layout : SlottedLayout) : List SlottedField :=
  let accepted := layout.fields.filter (·.accepted)
  accepted.filter (!·.nameOnly) ++ accepted.filter (·.nameOnly)

/-- The parameters of a slotted class. -/
def parameters (layout : SlottedLayout) : List Parameter :=
  layout.acceptedFields.map (·.parameter)

/-- Sets the fields of a slotted class from given values, or else from their defaults. -/
def fillFields (classes : ClassTable Code) (store : String → Value → Run Unit)
    (given : Entries String Value) : List SlottedField → Run Unit
  | [] => return
  | f :: rest => do
      match Entries.get? given f.name, f.default? with
      | some v, _ => store f.name v
      | none, some d => store f.name (← d.create classes)
      | none, none => pure ()
      fillFields classes store given rest

/-- Sets the fields of a slotted class from the values of its parameters. -/
def fill (classes : ClassTable Code) (layout : SlottedLayout) (values : List Value)
    (store : String → Value → Run Unit) : Run Unit :=
  let given := (layout.acceptedFields.map (·.name)).zip values
  fillFields classes store given layout.fields

/-- A frozen slotted instance stores nothing at all. -/
def storeFrozen (_ : Instance) (_ : Nat) (_ : String) (_ : Value) : Run Unit :=
  throw .frozen

end SlottedLayout

end ObjectMapping
