import ObjectMapping.Class.Basic
import ObjectMapping.Class.Linearization

/-!
# The class table

All declared classes at their positions, together with the standard classes.
What a class has under a name is what the first class of its line has; an
ancestor counts only where no class before it declares the name.

Runs can change classes. A table takes the changes up one after another, and
taking them up again changes nothing.
-/

namespace ObjectMapping

/-- The declared classes by position. -/
structure ClassTable (β : Type) where
  classes : Array (ClassInfo β) := #[]

/-- The properties of a standard class, with the types that they declare. -/
def StandardClass.properties : StandardClass → List (String × Option TypeExpr)
  | .uuid =>
      ["bytes", "bytes_le", "fields", "time_low", "time_mid", "time_hi_version",
       "clock_seq_hi_variant", "clock_seq_low", "time", "clock_seq", "node", "hex", "urn",
       "variant", "version"].map fun name => (name, none)
  | .modelBase =>
      [("model_extra", some (.union .bars
          [.generic (.container .dict) [.standard .str, .any], .noneType])),
       ("model_fields_set", some (.generic (.container .set) [.standard .str]))]
  | _ => []

/-- The way in which the classes of a kind fill instances. -/
def StandardClass.initializer? {β : Type} : StandardClass → Option (Initializer β)
  | .modelBase => some .model
  | .entityBase => some .entity
  | _ => none

/-- What is known of a standard class. Its instances are plain values or have
no stored attributes. -/
def StandardClass.info {β : Type} (inert : β) (c : StandardClass) : ClassInfo β where
  name := c.className
  lineage := c.lineage
  metaclass := c.metaclass
  members := c.properties.map fun entry =>
    (entry.1, .property {
      getter? := some {
        label := c.className.qualname ++ "." ++ entry.1
        result? := entry.2
        body := inert }
      setter? := none })
  initializer? := c.initializer?
  isOpen := false

namespace ClassTable

variable {β : Type} [Inhabited β]

/-- What is known of a class. A position without a declaration counts as a
class without members. -/
def info (table : ClassTable β) : ClassId → ClassInfo β
  | .standard c => c.info default
  | .declared index =>
      match table.classes[index]? with
      | some c => c
      | none => {
          name := ⟨.declared index, builtinModule, "", ""⟩
          lineage := [.declared index, .standard .object] }

/-- The class and its ancestors, the most derived first. -/
def line (table : ClassTable β) (c : ClassId) : List (ClassInfo β) :=
  (table.info c).lineage.map table.info

/-- The first class of the line that has something under a name, and what it has. -/
def owned? (table : ClassTable β) (c : ClassId) (name : String) :
    Option (ClassId × Member β) :=
  (table.line c).findSome? fun ancestor =>
    (Entries.get? ancestor.members name).map fun m => (ancestor.name.id, m)

/-- What the first class of the line has under a name. -/
def member? (table : ClassTable β) (c : ClassId) (name : String) : Option (Member β) :=
  (table.owned? c name).map (·.2)

/-- A class is a subclass of itself and of each class of its line. -/
def isSubclass (table : ClassTable β) (c ancestor : ClassId) : Bool :=
  c == ancestor || (table.info c).lineage.contains ancestor

/-- The record layout that a class has or inherits. -/
def recordLayout? (table : ClassTable β) (c : ClassId) : Option RecordLayout :=
  (table.line c).findSome? (·.record?)

/-- The slotted layout that a class has or inherits. -/
def slottedLayout? (table : ClassTable β) (c : ClassId) : Option SlottedLayout :=
  (table.line c).findSome? (·.slotted?)

/-- The model layout that a class has; subclasses of models have their own. -/
def modelLayout? (table : ClassTable β) (c : ClassId) : Option ModelLayout :=
  (table.info c).model?

/-- The entity layout that a class has. -/
def entityLayout? (table : ClassTable β) (c : ClassId) : Option EntityLayout :=
  (table.info c).entity?

/-- A member that subclasses have to define: an abstract member itself, or a
value of the class that is one. -/
def isUndefined (table : ClassTable β) : Member β → Bool
  | .constant (.member .property owner name) =>
      ((Entries.get? (table.info owner).members name).map Member.isAbstract).getD false
  | m => m.isAbstract

/-- Some member that the class has is still abstract. -/
def isAbstract (table : ClassTable β) (c : ClassId) : Bool :=
  !(table.info c).abstractNames.isEmpty

/-- Instances can store attributes under any name. -/
def isOpen (table : ClassTable β) (c : ClassId) : Bool :=
  (table.line c).any (·.isOpen)

/-- The table with its code replaced. -/
def map {γ : Type} (f : β → γ) (table : ClassTable β) : ClassTable γ :=
  ⟨table.classes.map (·.map f)⟩

end ClassTable

/-- A class after a change. -/
def ClassInfo.changed {β : Type} (c : ClassInfo β) : ClassChange → ClassInfo β
  | .stored name v => { c with members := Entries.put c.members name (.constant v) }
  | .filledLike ancestor? => { c with initializer? := some (.like ancestor?) }
  | .completed => { c with model? := c.model?.map (·.completed) }

namespace ClassTable

variable {β : Type}

/-- The table after some changes. -/
def changed (table : ClassTable β) (changes : List (ClassId × ClassChange)) : ClassTable β :=
  changes.foldl
    (fun table entry =>
      match entry.1 with
      | .declared index => ⟨table.classes.modify index (·.changed entry.2)⟩
      | .standard _ => table)
    table

/-- The table as runs have left it by now. -/
def now (table : ClassTable β) : Run (ClassTable β) := do
  return table.changed (← get).changes

end ClassTable

end ObjectMapping
