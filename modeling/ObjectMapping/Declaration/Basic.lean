import ObjectMapping.Script.Evaluation
import ObjectMapping.Text.Path
import ObjectMapping.Text.Quoted

/-!
# Class declarations

A class as it is written: its kind, bases, fields, properties and constants,
with all code as scripts. Declaring a class evaluates the defaults and constants
once, in order, and settles the line of ancestors and the layout of instances.
-/

namespace ObjectMapping

/-- The kinds of class declarations. -/
inductive ClassKind where
  | plain | record | model | interface | slotted | entity
  /-- A plain class that is mapped to a table afterwards. -/
  | mappedPlain
  deriving DecidableEq, Repr, Inhabited

/-- The database types of columns. -/
inductive DatabaseType where
  | integer | string | float | numeric | boolean | dateTime | date | largeBinary | json
  | uuid | interval
  /-- A type of which the values are not known. -/
  | unknown
  deriving DecidableEq, Repr, Inhabited

/-- The class of the values of a database type. -/
def DatabaseType.native? : DatabaseType → Option TypeExpr
  | .integer => some (.standard .int)
  | .string => some (.standard .str)
  | .float => some (.standard .float)
  | .numeric => some (.standard .decimal)
  | .boolean => some (.standard .bool)
  | .dateTime => some (.standard .datetime)
  | .date => some (.standard .date)
  | .largeBinary => some (.standard .bytes)
  | .json => some (.standard .dict)
  | .uuid => some (.standard .uuid)
  | .interval => some (.standard .timedelta)
  | .unknown => none

/-- What an entity keeps under the name of a field. -/
inductive Storage where
  | column (type? : Option DatabaseType)
  /-- A text that is put together from other columns. -/
  | concatenation
  /-- Other entities; no column of its own. -/
  | relation (target : ClassName)
  deriving Repr, Inhabited

/-- A field of a class declaration. -/
structure FieldDeclaration where
  name : String
  declared? : Option TypeExpr := none
  default? : Option Expression := none
  /-- Whether the generated constructor accepts the field, when that is said. -/
  accepted? : Option Bool := none
  /-- Whether the constructor takes the field by name only, when that is said. -/
  nameOnly? : Option Bool := none
  isFrozen : Bool := false
  storage : Storage := .column none
  /-- The table of the column that a column refers to. -/
  refersTo? : Option String := none
  deriving Inhabited

/-- Something is said of the field beyond its type. -/
def FieldDeclaration.hasOptions (f : FieldDeclaration) : Bool :=
  f.default?.isSome || f.accepted?.isSome || f.nameOnly?.isSome || f.isFrozen

/-- A property of a class declaration. -/
structure PropertyDeclaration where
  name : String
  result? : Option TypeExpr := none
  /-- The getter, a script over the instance. -/
  getter? : Option Script := none
  /-- The attribute path that the getter reads, in place of a script. -/
  path? : Option String := none
  /-- The setter, statements over the instance and the value. -/
  setter? : Option (List Statement) := none
  isComputed : Bool := false
  isAbstract : Bool := false
  deriving Inhabited

/-- A parameter of a declared constructor. -/
structure ParameterDeclaration where
  name : String
  kind : ParameterKind
  default? : Option Expression := none
  deriving Inhabited

/-- A class as it is written. -/
structure ClassDeclaration where
  name : ClassName
  kind : ClassKind
  bases : List ClassId := []
  fields : List FieldDeclaration := []
  properties : List PropertyDeclaration := []
  constants : List (String × Expression) := []
  /-- The constructor: parameters, and statements over the instance and these. -/
  constructor? : Option (List ParameterDeclaration × List Statement) := none
  /-- Statements that follow the generated constructor of a record. -/
  afterInit? : Option (List Statement) := none
  abstractMethods : List String := []
  /-- The class keeps account of abstract members. -/
  tracksAbstract : Bool := false
  isFrozen? : Option Bool := none
  isSlotted : Bool := false
  nameOnly : Bool := false
  /-- The columns of the table that a plain class is mapped to. -/
  columns : List (String × DatabaseType) := []
  deriving Inhabited

/-- The variable for the value in a setter. -/
def valueVariable : String := "value"

namespace PropertyDeclaration

/-- The name of the getter in messages: the property within its class, or the
path that is read. -/
def label (p : PropertyDeclaration) (owner : ClassName) : String :=
  match p.path? with
  | some path => "operator.attrgetter(" ++ Text.quoted path ++ ")"
  | none => owner.qualname ++ "." ++ p.name

/-- The property that is declared. A path declares no result type. -/
def property (p : PropertyDeclaration) (owner : ClassName) : Property Body where
  getter? :=
    match p.path?, p.getter? with
    | some path, _ =>
        some { label := p.label owner, result? := none, body := .path (Text.attributePath path) }
    | none, some script =>
        some { label := p.label owner, result? := p.result?, body := .script [selfVariable] script }
    | none, none => none
  setter? := p.setter?.map fun statements =>
    .script [selfVariable, valueVariable] { statements := statements }
  isAbstract := p.isAbstract

end PropertyDeclaration

/-- A field with the value of its default. -/
structure EvaluatedField where
  field : FieldDeclaration
  default? : Option Default
  deriving Inhabited

/-- A value as the default of a field: containers are copied for each use. -/
def Default.ofField (v : Value) : Run Default := do
  match v with
  | .object address =>
      match ← Run.object? address with
      | some (.list _) | some (.dict _) => return .copied v
      | _ => return .shared v
  | _ => return .shared v

/-- What a declaration assigns to the name of a field. -/
inductive Assigned where
  | nothing
  /-- What is said of the field itself, with its default if it has one. -/
  | options (default? : Option Default)
  | value (value : Value)
  /-- A member of the class itself. -/
  | member (kind : StandardClass)

/-- What a declaration with the given values of its constants assigns to the name
of a field. Constants come before what is said of the field, and properties
before constants. -/
def ClassDeclaration.assigned (d : ClassDeclaration) (constants : List (String × Value))
    (e : EvaluatedField) : Assigned :=
  let name := e.field.name
  if d.properties.any (·.name == name) then .member .property
  else
    match constants.lookup name with
    | some v => .value v
    | none =>
        if e.field.hasOptions then .options e.default?
        else if d.abstractMethods.contains name then .member .code
        else .nothing

/-- The default that an assigned value is, where values are shared as the kind of
the class says. -/
def Assigned.default? (owner : ClassId) (name : String) (share : Value → Default) :
    Assigned → Option Default
  | .nothing => none
  | .options default? => default?
  | .value v => some (share v)
  | .member kind => some (.shared (.member kind owner name))

end ObjectMapping
