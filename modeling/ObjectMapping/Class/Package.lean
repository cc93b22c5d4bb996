import ObjectMapping.Class.Arguments

/-!
# Packages

Models, slotted classes and entities do not follow the general rules for classes
alone: packages decide how their instances are filled, read, stored and copied.
What packages do is given by an instance of `Packages`, which everything that runs
code of classes takes along. Nothing is assumed of it here.

A package is handed what it cannot know by itself: the classes, how to make an
instance from the values of its fields, and how to store an attribute in the
ordinary way.
-/

namespace ObjectMapping

/-- Makes an instance of a class from the values of its fields. -/
abbrev Maker := ClassId → Entries String Value → Run Value

/-- How attributes that packages provide are read. -/
class PackageReading where
  /-- Reads what every model tells of its instances, beyond their fields. -/
  readFact (r : Instance) (name : String) : Run Value
  /-- Reads a mapped attribute. -/
  readColumn (r : Instance) (name : String) : Run Value
  /-- Reads a mapped list of the instance at an address. -/
  readCollection (address : Nat) (r : Instance) (name : String) : Run Value
  /-- Goes on after a property of a model could not be read. -/
  readAgain (read : Run Value) (fault : Fault) : Run Value

/-- What packages do for their classes. -/
class Packages extends PackageReading where
  /-- Stores a mapped attribute of the instance at an address. -/
  storeColumn (address : Nat) (name : String) (v : Value) : Run Unit
  /-- Stores a mapped list of the instance at an address. -/
  storeCollection (classes : ClassTable Code) (address : Nat) (name : String) (v : Value) : Run Unit
  /-- Stores an attribute of the model at an address, where `ordinary` stores it as that
  of any other object. -/
  storeModel (classes : ClassTable Code) (layout : ModelLayout) (r : Instance) (address : Nat)
    (name : String) (v : Value) (ordinary : Run Unit) : Run Unit
  /-- Stores an attribute of a frozen slotted instance at an address. -/
  storeFrozen (r : Instance) (address : Nat) (name : String) (v : Value) : Run Unit
  /-- Makes a copy of the model at an address with one value changed. -/
  copyModel (classes : ClassTable Code) (address : Nat) (name : String) (v : Value) : Run Value
  /-- Fills the empty model at an address, which may be made inside another one. -/
  fillModel (classes : ClassTable Code) (make : Maker) (isInner : Bool) (c : ClassId)
    (address : Nat) (arguments : Arguments) : Run Unit
  /-- Fills an empty slotted instance from the values of its parameters. -/
  fillSlotted (classes : ClassTable Code) (layout : SlottedLayout) (values : List Value)
    (store : String → Value → Run Unit) : Run Unit
  /-- Fills an empty entity from arguments by name. -/
  fillEntity (classes : ClassTable Code) (c : ClassId) (given : Entries String Value)
    (store : String → Value → Run Unit) : Run Unit
  /-- Makes a record for a field of a model from the values of its own fields, and
  finishes it. -/
  makeRecord (classes : ClassTable Code) (make : Maker) (layout : RecordLayout) (c : ClassId)
    (given : Entries String Value) (finish : Value → Run Unit) : Run Value
  /-- The parameters that a model shows. -/
  modelParameters (classes : ClassTable Code) (c : ClassId) : List Parameter
  /-- The parameters of the constructor that a slotted class gets. -/
  slottedParameters (layout : SlottedLayout) : List Parameter
  /-- The parameters of the constructor that entities get. -/
  entityParameters : List Parameter

end ObjectMapping
