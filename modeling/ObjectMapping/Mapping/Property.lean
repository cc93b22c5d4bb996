import ObjectMapping.Class.Instantiation
import ObjectMapping.Text.Path
import ObjectMapping.TypeExpr.Unwrapping

/-!
# Source and target properties

A mapping reads properties of a source and writes properties of a target. A
property knows the type that owns it, its name, by which sources and targets are
matched, and the type of its values, without wrappers. It also knows how it is
read or written.

A target is written in one of three ways: by storing an attribute, by building a
new target in which the property is replaced, or by code of its own, which is
given the reader and decides when to use it.
-/

namespace ObjectMapping

/-- Reads a value off a source. -/
abbrev Reader := Value → Run Value

/-- One step of a mapping: from the target so far and the source to a result. -/
abbrev Stage := Value → Value → Run Value

/-- A property that can be read off a source. -/
structure SourceProperty where
  /-- Tells the property apart from others of its name in the same list. -/
  identity : Nat
  owner : TypeExpr
  name : String
  type : TypeExpr
  reader : Reader

/-- How a target property is written. -/
inductive TargetMode where
  /-- The attribute of the property's name is stored in the target. -/
  | assignment
  /-- A new target takes the place of the old one. -/
  | replacement (replacer : Value → String → Value → Run Value)
  /-- Code makes the stage from the reader of the value. -/
  | custom (description : String) (createSetter : Reader → Stage)

/-- A property that can be written on a target. -/
structure TargetProperty where
  /-- Tells the property apart from others of its name in the same list. -/
  identity : Nat
  owner : TypeExpr
  name : String
  type : TypeExpr
  mode : TargetMode

/-- The text that describes a property: the type of its values, its owner and
its name. -/
def describe (type owner : TypeExpr) (name : String) : String :=
  type.written ++ " " ++ owner.written ++ "." ++ name

namespace SourceProperty

/-- A source property with a declared type and a reader. -/
def declare (identity : Nat) (owner : TypeExpr) (name : String) (declared : TypeExpr)
    (reader : Reader) : SourceProperty :=
  { identity := identity, owner := owner, name := name, type := declared.core, reader := reader }

/-- A source property that is read along the attribute path of its name. -/
def ofAttribute [PackageReading] (classes : ClassTable Code) (identity : Nat) (owner : TypeExpr)
    (name : String) (declared : TypeExpr) : SourceProperty :=
  declare identity owner name declared fun source =>
    classes.readPath source (Text.attributePath name)

/-- The text that describes the property. -/
def description (s : SourceProperty) : String :=
  describe s.type s.owner s.name

/-- The two are one entry of a list. -/
def isOne (s s' : SourceProperty) : Bool :=
  s.identity == s'.identity && s.name == s'.name

/-- Two source properties say the same of their owner, name and type. -/
def agrees (s s' : SourceProperty) : Bool :=
  s.owner.same s'.owner && s.name == s'.name && s.type.same s'.type

end SourceProperty

namespace TargetProperty

/-- A target property with a declared type. Code of its own keeps the type as it
is declared. -/
def declare (identity : Nat) (owner : TypeExpr) (name : String) (declared : TypeExpr)
    (mode : TargetMode) : TargetProperty :=
  let type :=
    match mode with
    | .custom _ _ => declared
    | _ => declared.core
  { identity := identity, owner := owner, name := name, type := type, mode := mode }

/-- The text that describes the property. -/
def description (t : TargetProperty) : String :=
  match t.mode with
  | .custom text _ => text
  | _ => describe t.type t.owner t.name

/-- The two are one entry of a list. -/
def isOne (t t' : TargetProperty) : Bool :=
  t.identity == t'.identity && t.name == t'.name

/-- Two target properties say the same of their owner, name and type, and are
written in the same way. Code of its own is never the same. -/
def agrees (t t' : TargetProperty) : Bool :=
  let isAlike :=
    match t.mode, t'.mode with
    | .assignment, .assignment => true
    | .replacement _, .replacement _ => true
    | _, _ => false
  isAlike && t.owner.same t'.owner && t.name == t'.name && t.type.same t'.type

/-- The stage that writes what a reader reads off the source. The value is read
once, before anything is written, except by code of its own. -/
def setter [Packages] (classes : ClassTable Code) (t : TargetProperty) (reader : Reader) : Stage :=
  match t.mode with
  | .assignment => fun target source => do
      classes.writeAttribute target t.name (← reader source)
      return target
  | .replacement replacer => fun target source => do
      replacer target t.name (← reader source)
  | .custom _ createSetter => createSetter reader

/-- Writes a value on a target; the result may be another target. -/
def write [Packages] (classes : ClassTable Code) (t : TargetProperty) (target source v : Value) :
    Run Value :=
  t.setter classes (fun _ => return v) target source

end TargetProperty

end ObjectMapping
