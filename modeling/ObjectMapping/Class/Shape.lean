import ObjectMapping.Class.Table

/-!
# Shapes of instances

An object can only become an instance of a class whose instances have the same
shape. A class builds on the shape of one of its bases, and may add places to it:
slots, or a place for attributes of any name. Two classes shape their instances
alike if they add the same to the same class.
-/

namespace ObjectMapping

/-- The places that a class adds to those of the class that it builds on. -/
structure AddedPlaces where
  /-- A place for attributes of any name. -/
  opens : Bool
  /-- The names of slots, in their order. -/
  slots : List String
  /-- A slotted class with slots of its own is like no other class. -/
  only? : Option ClassId
  deriving DecidableEq, Repr

namespace ClassTable

variable {β : Type} [Inhabited β] (classes : ClassTable β)

/-- The slots that a class declares itself, in the order of their names. -/
def ownSlots (c : ClassId) : List String :=
  let names := (classes.info c).members.filterMap fun entry =>
    match entry.2 with
    | .slot => some entry.1
    | _ => none
  names.mergeSort fun left right => decide (left ≤ right)

/-- The class gives its instances places of a fixed kind. -/
def isSolid (c : ClassId) : Bool :=
  c == .standard .modelBase || !(classes.ownSlots c).isEmpty

/-- The base on whose shape a class builds: the first one that has all places of a
fixed kind. -/
def shapedOn? (c : ClassId) : Option ClassId :=
  let solid := ((classes.info c).lineage.drop 1).filter classes.isSolid
  (classes.info c).directBases.find? fun base => solid.all (classes.isSubclass base)

/-- The places that a class adds. -/
def addedPlaces (c : ClassId) : AddedPlaces :=
  let slots := classes.ownSlots c
  { opens := (classes.info c).isOpen && !(classes.shapedOn? c).any classes.isOpen
    slots := slots
    only? := if (classes.info c).slotted?.isSome && !slots.isEmpty then some c else none }

/-- The class that gives the instances of a class their shape, at most so many
bases away. -/
def shapingClass (c : ClassId) : Nat → ClassId
  | 0 => c
  | steps + 1 =>
      match classes.shapedOn? c with
      | none => c
      | some base =>
          if classes.addedPlaces c == ⟨false, [], none⟩ then shapingClass base steps else c

/-- The instances of two classes have the same shape. -/
def isShapedLike (c c' : ClassId) : Bool :=
  let shaping (c : ClassId) : ClassId := classes.shapingClass c (classes.info c).lineage.length
  shaping c == shaping c' ||
    (classes.shapedOn? (shaping c) == classes.shapedOn? (shaping c') &&
      classes.addedPlaces (shaping c) == classes.addedPlaces (shaping c'))

end ClassTable

end ObjectMapping
