import ObjectMapping.Class.Storing

/-!
# Mapped attributes and entities

A mapped attribute reads as null, and a mapped list as an empty list, while nothing is
stored. What is stored in a mapped list is a copy. Entities take the values of any
attributes that they have, by name.
-/

namespace ObjectMapping

/-- Reads a mapped attribute. -/
def readMapped (r : Instance) (name : String) : Run Value :=
  return (Entries.get? r.attributes name).getD .null

/-- Reads a mapped list. It is kept apart as long as nothing was stored. -/
def readMappedList (address : Nat) (r : Instance) (name : String) : Run Value := do
  match (Entries.get? r.attributes name).or (Entries.get? r.apart name) with
  | some v => return v
  | none =>
      let made ← Run.allocate (.list [])
      Run.replace address (.record { r with apart := Entries.put r.apart name made })
      return made

namespace ClassTable

variable (classes : ClassTable Code)

/-- Stores a copy of a list as a mapped list. Its elements have to be instances. -/
def putMappedList (address : Nat) (name : String) (v : Value) : Run Unit := do
  let .object source := v | throw .badOperand
  match ← Run.object? source with
  | some (.list items) =>
      for item in items do
        let c ← classes.classOf item
        if (classes.entityLayout? c).isNone then throw (.noAttribute name)
      putAttribute address name (← Run.allocate (.list items))
  | _ => throw .badOperand

/-- Stores the arguments of an entity by name. -/
def fillMapped (c : ClassId) (store : String → Value → Run Unit) :
    Entries String Value → Run Unit
  | [] => return
  | (name, v) :: rest => do
      if (classes.member? c name).isNone then throw .badCall
      store name v
      fillMapped c store rest

end ClassTable

/-- The parameters of a constructor that takes anything by name. -/
def namedParameters : List Parameter :=
  [{ name := "kwargs", kind := .restByName }]

end ObjectMapping
