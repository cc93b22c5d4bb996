import ObjectMapping.Class.Package
import ObjectMapping.Class.StandardMember
import ObjectMapping.TypeExpr.Origin

/-!
# Reading attributes

What an attribute of a value is. A property decides for itself what it reads. A
slot is read from the instance alone, and packages read what is mapped and what
models tell of themselves. Any other member of the class is shared: the instance
may store a value of its own in front of it.

A class has attributes too: what the classes of its line hold under the name,
which for code and places in instances is the member itself.
-/

namespace ObjectMapping

/-- The attribute that tells the class of a value. -/
def classAttribute : String := "__class__"

/-- The attribute that holds all stored attributes of an instance. -/
def storeAttribute : String := "__dict__"

/-- The attribute that tells the module of a class. -/
def moduleAttribute : String := "__module__"

/-- The attribute that describes a class. -/
def descriptionAttribute : String := "__doc__"

/-- The kind of the member itself, where reading it off the class gives that. -/
def Member.kind {β : Type} : Member β → StandardClass
  | .property _ => .property
  | .slot => .slotMember
  | .column | .collection => .mappedMember
  | .constant _ | .abstractMethod => .code

namespace ClassTable

variable (classes : ClassTable Code)

/-- A stored attribute of an instance, also one that is stored apart. -/
def stored (r : Instance) (name : String) : Run Value :=
  match (Entries.get? r.attributes name).or (Entries.get? r.apart name) with
  | some v => return v
  | none => throw (.noAttribute name)

/-- A type as a value among other values. Only a text that stands alone is a
plain text. -/
def argumentValue (t : TypeExpr) : Value :=
  match t with
  | .text .free source _ | .brokenText .free source _ => .text source
  | .none => .null
  | t => .type t .shared

/-- The annotations of a declared class by their names. -/
def annotationEntries? (c : ClassId) (name : String) : Option (Entries Value Value) :=
  match c with
  | .declared _ =>
      if name == "__annotations__" then
        some ((classes.info c).annotations.map fun entry =>
          (.text entry.1, argumentValue entry.2))
      else none
  | .standard _ => none

/-- Reads an attribute that every instance of a declared class has. -/
def readCommon (r : Instance) (name : String) : Run Value := do
  if name == classAttribute then
    return .type (classes.typeOf r.classId) .shared
  else if name == storeAttribute && classes.isOpen r.classId then
    Run.allocate (.dict (r.attributes.map fun entry => (.text entry.1, entry.2)))
  else
    match r.classId, Entries.get? r.attributes name with
    | .declared _, none =>
        if name == moduleAttribute then return .text (classes.info r.classId).name.module
        else if name == descriptionAttribute then return .null
        else
          match classes.annotationEntries? r.classId name with
          | some entries => Run.allocate (.dict entries)
          | none => stored r name
    | _, _ => stored r name

/-- What a class tells of itself. -/
def classFact? (c : ClassName) (name : String) : Option Value :=
  match name with
  | "__name__" => some (.text c.name)
  | "__qualname__" => some (.text c.qualname)
  | "__module__" => some (.text c.module)
  | "__doc__" => some .null
  | "__class__" => some (.ofClass (classes.info c.id).metaclass.className)
  | "__mro__" => some (.tuple ((classes.line c.id).map fun a => .ofClass a.name) .shared)
  | "__bases__" =>
      let bases := (classes.info c.id).directBases
      some (.tuple (bases.map fun base => .ofClass (classes.info base).name) .shared)
  | _ => none

/-- Reads an attribute of a class itself. -/
def readClass (c : ClassName) (name : String) : Run Value :=
  match classes.classFact? c name, classes.annotationEntries? c.id name with
  | some fact, _ => return fact
  | none, some entries => Run.allocate (.dict entries)
  | none, none =>
      match classes.owned? c.id name, c.id with
      | some (_, .constant shared), _ => return shared
      | some (owner, m), _ => return .member m.kind owner name
      | none, .standard s =>
          match s.partMember? name with
          | some kind => return .member kind c.id name
          | none =>
              if s.methodNames.contains name then return .member .methodMember c.id name
              else if s.ownMethodNames.contains name then return .member .function c.id name
              else throw (.noAttribute name)
      | none, .declared _ => throw (.noAttribute name)

/-- A name that is reserved for what a value tells of itself. -/
def isReserved (name : String) : Bool :=
  name.startsWith "__" && name.endsWith "__"

/-- A constant as a value. -/
def Scalar.value : Scalar → Value
  | .null => .null
  | .bool b => .bool b
  | .int n => .number n
  | .str s => .text s

/-- What a type that is no class tells of itself. -/
def typeFact? (t : TypeExpr) (name : String) : Option Value :=
  let tuple (items : List Value) : Value := .tuple items .shared
  match name, t with
  | "__class__", _ => some (.ofClass t.formClass.className)
  | "__name__", .typeVar v => some (.text v)
  | "__name__", _ | "__qualname__", _ => t.formName?.map .text
  | "__module__", _ => t.formModule?.map .text
  | "__origin__", _ => t.origin?.map (.type · .shared)
  | "__args__", .literal values => some (tuple (values.map Scalar.value))
  | "__args__", _ => t.arguments?.map fun arguments => tuple (arguments.map argumentValue)
  | "__metadata__", .annotated _ metadata => some (tuple (metadata.map Scalar.value))
  | "type", .initOnly _ inner => some (argumentValue inner)
  | _, _ => none

/-- Reads an attribute of a type. A form passes on to the type that it is built
from what is not its own and not reserved; a container type passes on all that
is not its own. -/
def readType (t : TypeExpr) (name : String) : Run Value :=
  match t with
  | .named c => classes.readClass c name
  | .annotated inner _ =>
      match typeFact? t name with
      | some fact => return fact
      | none => if isReserved name then throw (.noAttribute name) else readType inner name
  | .generic (.container c) _ =>
      let own := [classAttribute, "__origin__", "__args__"]
      match typeFact? t name with
      | some fact =>
          if own.contains name then return fact
          else classes.readClass c.standardClass.className name
      | none => classes.readClass c.standardClass.className name
  | _ =>
      match typeFact? t name, t.origin? with
      | some fact, _ => return fact
      | none, some (.named c) =>
          if isReserved name then throw (.noAttribute name) else classes.readClass c name
      | none, _ => throw (.noAttribute name)

/-- Reads an attribute of a value that stores none. -/
def readPlain (v : Value) (name : String) : Run Value := do
  let c ← classes.classOf v
  match v.part? name, c with
  | some part, _ => return part
  | none, .standard s =>
      if name == classAttribute then return .type (classes.typeOf c) .shared
      else if (s.methodNames ++ s.ownMethodNames).contains name then
        return .member .function c name
      else throw (.noAttribute name)
  | none, .declared _ => throw (.noAttribute name)

section

variable [PackageReading]

/-- Reads a property. A model may go on when that fails. -/
def readProperty (r : Instance) (v : Value) (name : String) (p : Property Code) : Run Value :=
  match p.getter? with
  | none => throw (.noAttribute name)
  | some getter =>
      tryCatch (getter.body [v]) fun fault =>
        if classes.isModel r.classId then PackageReading.readAgain (getter.body [v]) fault
        else throw fault

/-- Reads an attribute of an instance. -/
def readInstance (address : Nat) (r : Instance) (name : String) : Run Value :=
  match classes.owned? r.classId name with
  | some (.standard .modelBase, _) => PackageReading.readFact r name
  | some (_, .property p) => classes.readProperty r (.object address) name p
  | some (_, .column) => PackageReading.readColumn r name
  | some (_, .collection) => PackageReading.readCollection address r name
  | some (_, .constant shared) => return (Entries.get? r.attributes name).getD shared
  | some (_, .slot) => stored r name
  | some (owner, .abstractMethod) =>
      return (Entries.get? r.attributes name).getD (.member .boundCode owner name)
  | none => classes.readCommon r name

/-- Reads an attribute of a value. -/
def readAttribute (v : Value) (name : String) : Run Value := do
  let classes ← classes.now
  match v with
  | .object address =>
      match ← Run.object? address with
      | some (.record r) => classes.readInstance address r name
      | _ => classes.readPlain v name
  | .type t _ => classes.readType t name
  | _ => classes.readPlain v name

/-- Reads an attribute of an attribute, for each name of a path in turn. -/
def readPath (v : Value) (path : List String) : Run Value :=
  path.foldlM (fun current name => classes.readAttribute current name) v

end

end ClassTable

end ObjectMapping
