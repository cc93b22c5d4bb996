import ObjectMapping.TypeExpr.Mention
import ObjectMapping.Value.Run

/-!
# Classes

What is known of a class once it is declared: its line of ancestors, its own
annotations and members, and how its instances are made and written. A class
describes its code by a type parameter, so that one description serves code as
it is written and code that can be run.

There are six kinds of classes. Plain classes only follow the general rules.
Records are made from their fields and may be frozen. Models check what they
hold. Interfaces only declare members and have no instances of their own.
Slotted classes hold their fields and nothing else. Entities are mapped to the
columns of a table.
-/

namespace ObjectMapping

/-- A value for a parameter or a field that is not given one. -/
inductive Default where
  /-- One value for all. -/
  | shared (value : Value)
  /-- A value that is copied for each use, with all that it holds. -/
  | copied (value : Value)
  /-- A value that is copied for each use if it cannot serve as a key. -/
  | keyOrCopied (value : Value)
  deriving Inhabited

/-- The value that a default is made from. -/
def Default.value : Default → Value
  | .shared v | .copied v | .keyOrCopied v => v

/-- How a parameter takes its argument. -/
inductive ParameterKind where
  | positionalOnly
  /-- By position or by name. -/
  | standard
  | nameOnly
  /-- All further arguments by position. -/
  | rest
  /-- All further arguments by name. -/
  | restByName
  deriving DecidableEq, Repr, Inhabited

/-- A parameter of a constructor. -/
structure Parameter where
  name : String
  kind : ParameterKind := .standard
  default? : Option Default := none
  deriving Inhabited

/-- How a property is read. -/
structure Getter (β : Type) where
  /-- The name of the getter in messages. -/
  label : String
  /-- The declared type of the result. -/
  result? : Option TypeExpr
  body : β

/-- A member that is read and written by code. -/
structure Property (β : Type) where
  getter? : Option (Getter β)
  setter? : Option β
  isAbstract : Bool := false

/-- What a class holds under a name. -/
inductive Member (β : Type) where
  | property (property : Property β)
  /-- A value that all instances share unless they store one of their own. -/
  | constant (value : Value)
  /-- A method that subclasses have to define. -/
  | abstractMethod
  /-- A place in each instance, empty at first. -/
  | slot
  /-- A mapped attribute, which reads as null while nothing is stored. -/
  | column
  /-- A mapped list, which reads as an empty list while nothing is stored. -/
  | collection

/-- What kind of field an entry of a record is. -/
inductive RecordFieldKind where
  | stored
  /-- Only a parameter of the constructor. -/
  | initOnly
  /-- Declared for the class itself; no field, but it hides an inherited one. -/
  | classLevel
  deriving DecidableEq, Repr, Inhabited

/-- A field of a record. -/
structure RecordField where
  name : String
  kind : RecordFieldKind
  /-- The type as it is declared. -/
  declared : TypeExpr
  default? : Option Default
  /-- The constructor has a parameter for the field. -/
  accepted : Bool
  nameOnly : Bool
  deriving Inhabited

/-- What a record declares beyond a plain class. -/
structure RecordLayout where
  /-- All fields, inherited ones included, in the order of their first declaration. -/
  fields : List RecordField
  isFrozen : Bool
  /-- Instances hold their own fields in slots. -/
  isSlotted : Bool
  /-- Code runs after the generated constructor has set all fields. -/
  hasAfterInit : Bool
  deriving Inhabited

/-- A field of a slotted class. -/
structure SlottedField where
  name : String
  default? : Option Default
  /-- The constructor has a parameter for the field. -/
  accepted : Bool := true
  nameOnly : Bool := false
  /-- The field comes from an ancestor. -/
  isInherited : Bool := false
  deriving Inhabited

/-- What a slotted class declares beyond a plain class: all its fields. -/
structure SlottedLayout where
  fields : List SlottedField
  deriving Inhabited

/-- A field of a model. -/
structure ModelField where
  name : String
  /-- The type with texts resolved and annotations taken off. -/
  type : TypeExpr
  default? : Option Default
  isFrozen : Bool
  /-- Every text in the declared type had a meaning. -/
  isResolved : Bool := true
  deriving Inhabited

/-- What a model declares beyond a plain class. -/
structure ModelLayout where
  fields : List ModelField
  /-- Whether instances refuse changes, as far as the class or one it inherits
  from says so. -/
  isFrozen? : Option Bool
  /-- The computed fields with their result types. -/
  computed : Entries String TypeExpr
  /-- Attributes that are kept apart from the fields. -/
  concealed : Entries String (Option Default)
  /-- Names that belong to the class itself. -/
  classLevel : List String
  /-- All types that the fields lead to are known, so that values can be checked. -/
  isComplete : Bool := true
  deriving Inhabited

namespace ModelLayout

/-- Instances refuse changes. -/
def isFrozen (layout : ModelLayout) : Bool :=
  layout.isFrozen?.getD false

/-- The layout with every text in declared types resolved. -/
def completed (layout : ModelLayout) : ModelLayout :=
  { layout with
    fields := layout.fields.map fun f =>
      { f with type := f.type.withResolvedTexts.fieldCore.1, isResolved := true }
    isComplete := true }

end ModelLayout

/-- A column attribute of an entity. -/
structure EntityColumn where
  name : String
  /-- The type of the values of the column, when its database type tells it. -/
  native? : Option TypeExpr
  deriving Inhabited

/-- What an entity declares beyond a plain class. -/
structure EntityLayout where
  columns : List EntityColumn
  /-- Subclasses are entities too. -/
  isInherited : Bool
  deriving Inhabited

/-- How new instances are filled. -/
inductive Initializer (β : Type) where
  /-- By code, which takes the instance and then the parameters. -/
  | code (parameters : List Parameter) (body : β)
  /-- Field by field, as the record layout of the same class says. -/
  | record
  /-- Field by field, as the slotted layout of the same class says. -/
  | slotted
  | model
  /-- By name, each a mapped attribute. -/
  | entity
  /-- The placeholder of an interface, which gives way to any other. -/
  | placeholder
  /-- In the way that another class declares; without one, there is nothing to fill. -/
  | like (ancestor? : Option ClassId)

/-- What a class checks before an attribute of an instance is stored. -/
inductive WriteGuard where
  /-- A frozen record refuses its fields, and everything on its own instances. -/
  | frozenRecord (fields : List String) (isSlotted : Bool)
  /-- The slotted instances of the class are frozen. -/
  | frozenSlotted
  | model
  deriving Inhabited

/-- What is known of a class. -/
structure ClassInfo (β : Type) where
  name : ClassName
  /-- The class and all its ancestors, the most derived first. -/
  lineage : List ClassId
  /-- The classes that the class directly inherits from. -/
  bases : List ClassId := []
  /-- The class of which the class is an instance. -/
  metaclass : StandardClass := .type
  isInterface : Bool := false
  /-- The abstract members that the class leaves undefined, where account is kept
  of them. -/
  abstractNames : List String := []
  /-- The annotations of the class itself, in order. -/
  annotations : Entries String TypeExpr := []
  /-- The members of the class itself, in order. -/
  members : Entries String (Member β) := []
  initializer? : Option (Initializer β) := none
  afterInit? : Option β := none
  guard? : Option WriteGuard := none
  /-- Instances can store attributes under any name. -/
  isOpen : Bool := true
  record? : Option RecordLayout := none
  slotted? : Option SlottedLayout := none
  model? : Option ModelLayout := none
  entity? : Option EntityLayout := none

/-- The classes that a class directly inherits from, of which every class but
the first of all has at least one. -/
def ClassInfo.directBases {β : Type} (c : ClassInfo β) : List ClassId :=
  if c.bases.isEmpty then (c.lineage.drop 1).take 1 else c.bases

namespace Member

/-- A member with its code replaced. -/
def map {β γ : Type} (f : β → γ) : Member β → Member γ
  | .property p =>
      .property {
        getter? := p.getter?.map fun g =>
          { label := g.label, result? := g.result?, body := f g.body }
        setter? := p.setter?.map f
        isAbstract := p.isAbstract }
  | .constant value => .constant value
  | .abstractMethod => .abstractMethod
  | .slot => .slot
  | .column => .column
  | .collection => .collection

/-- The property that a member is. -/
def property? {β : Type} : Member β → Option (Property β)
  | .property p => some p
  | _ => none

/-- Subclasses have to define the member. -/
def isAbstract {β : Type} : Member β → Bool
  | .property p => p.isAbstract
  | .abstractMethod => true
  | _ => false

end Member

/-- An initializer with its code replaced. -/
def Initializer.map {β γ : Type} (f : β → γ) : Initializer β → Initializer γ
  | .code parameters body => .code parameters (f body)
  | .record => .record
  | .slotted => .slotted
  | .model => .model
  | .entity => .entity
  | .placeholder => .placeholder
  | .like ancestor? => .like ancestor?

/-- A class with its code replaced. -/
def ClassInfo.map {β γ : Type} (f : β → γ) (c : ClassInfo β) : ClassInfo γ where
  name := c.name
  lineage := c.lineage
  bases := c.bases
  metaclass := c.metaclass
  isInterface := c.isInterface
  abstractNames := c.abstractNames
  annotations := c.annotations
  members := c.members.map fun entry => (entry.1, entry.2.map f)
  initializer? := c.initializer?.map (·.map f)
  afterInit? := c.afterInit?.map f
  guard? := c.guard?
  isOpen := c.isOpen
  record? := c.record?
  slotted? := c.slotted?
  model? := c.model?
  entity? := c.entity?

end ObjectMapping
