import ObjectMapping.Class.Attribute
import ObjectMapping.Class.Shape

/-!
# Storing attributes

Storing goes through the write guards of the class first, and then into the
instance: through a property, into a slot or, if the instance is open, under any
name at all. Packages store what is mapped, and the attributes of models. Storing
the class of an instance makes it an instance of another class. A declared class can
store attributes of its own, in which case the class changes for all its instances.
-/

namespace ObjectMapping

namespace ClassTable

variable (classes : ClassTable Code)

/-- Replaces what is stored under a name, whatever the class says. -/
def putAttribute (address : Nat) (name : String) (v : Value) : Run Unit := do
  match ← Run.object? address with
  | some (.record r) =>
      Run.replace address (.record { r with attributes := Entries.put r.attributes name v })
  | _ => throw (.notWritable name)

/-- Stores an attribute of an instance under any name, if the class allows that. -/
def putOpen (address : Nat) (r : Instance) (name : String) (v : Value) : Run Unit :=
  if classes.isOpen r.classId then putAttribute address name v
  else throw (.notWritable name)

/-- Makes an object an instance of another class, whose instances have the same shape. -/
def changeClass (address : Nat) (r : Instance) (v : Value) : Run Unit :=
  match v with
  | .type (.named c) _ =>
      match c.id with
      | .declared _ =>
          if classes.isShapedLike r.classId c.id then
            Run.replace address (.record { r with classId := c.id })
          else throw .badOperand
      | .standard _ => throw .badOperand
  | _ => throw .badOperand

/-- Refuses to store an attribute of a value that stores none. -/
def refuseStore (name : String) : Run Unit :=
  throw (if name == classAttribute then .badOperand else .notWritable name)

section

variable [Packages]

/-- Stores an attribute past all write guards. -/
def storeUnguarded (target : Value) (name : String) (v : Value) : Run Unit := do
  let classes ← classes.now
  match target with
  | .object address =>
      match ← Run.object? address with
      | some (.record r) =>
          match classes.member? r.classId name with
          | some (.property p) =>
              match p.setter? with
              | some setter => discard (setter [target, v])
              | none => throw (.notWritable name)
          | some .slot => putAttribute address name v
          | some .column => Packages.storeColumn address name v
          | some .collection => Packages.storeCollection classes address name v
          | some _ => classes.putOpen address r name v
          | none =>
              if name == classAttribute then classes.changeClass address r v
              else classes.putOpen address r name v
      | _ => refuseStore name
  | .type t _ => if t.isClass then throw .badOperand else refuseStore name
  | _ => refuseStore name

/-- Stores an attribute of an instance of a class, past the guards of the
classes that are left of its line. -/
def storeGuarded (r : Instance) (address : Nat) (name : String) (v : Value) :
    List (ClassInfo Code) → Run Unit
  | [] => classes.storeUnguarded (.object address) name v
  | ancestor :: rest =>
      match ancestor.guard? with
      | none => storeGuarded r address name v rest
      | some .frozenSlotted => Packages.storeFrozen r address name v
      | some (.frozenRecord fields isSlotted) =>
          if fields.contains name || (ancestor.name.id == r.classId && !isSlotted) then
            throw .frozen
          else if isSlotted then
            throw .badCall
          else
            storeGuarded r address name v rest
      | some .model =>
          match classes.modelLayout? r.classId with
          | some layout =>
              Packages.storeModel classes layout r address name v
                (classes.storeUnguarded (.object address) name v)
          | none => classes.storeUnguarded (.object address) name v

end

/-- The standard class is open to attributes of its own. -/
def isOpenClass (c : StandardClass) : Bool :=
  [.uuid, .mapped, .annotated, .abstractBase, .interfaceBase, .genericBase, .modelBase,
   .entityBase].contains c

/-- Stores an attribute of a type. A form passes on to the type that it is built
from. -/
def storeOnType (name : String) (v : Value) : TypeExpr → Run Unit
  | .named c =>
      match c.id with
      | .declared _ => Run.change c.id (.stored name v)
      | .standard s => if isOpenClass s then return else throw .badOperand
  | .any | .typeVar _ | .generic .callable _ => return
  | .annotated inner _ => if isReserved name then return else storeOnType name v inner
  | .generic .listAlias _ | .generic .dictAlias _ | .form .list | .form .dict =>
      if isReserved name then return else throw .badOperand
  | .generic (.qualifier .mapped) _ => return
  | .generic (.qualifier _) _ | .literal _ | .union .brackets _ =>
      if isReserved name then return else throw (.notWritable name)
  | _ => throw (.notWritable name)

/-- Stores an attribute of a value. -/
def writeAttribute [Packages] (target : Value) (name : String) (v : Value) : Run Unit := do
  let classes ← classes.now
  match target with
  | .object address =>
      match ← Run.object? address with
      | some (.record r) => classes.storeGuarded r address name v (classes.line r.classId)
      | _ => refuseStore name
  | .type t _ => if name == classAttribute then throw .badOperand else storeOnType name v t
  | _ => refuseStore name

end ClassTable

end ObjectMapping
