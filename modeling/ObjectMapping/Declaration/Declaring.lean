import ObjectMapping.Class.Completeness
import ObjectMapping.Declaration.EntityLayout
import ObjectMapping.Declaration.ModelLayout

/-!
# Declaring classes

How a declaration becomes an entry of the class table. Members come in the order
of fields with defaults, constants and properties; the kind of the class then
decides which of them stay. A subclass of a model is a model, and a subclass of
a declared entity an entity, whatever it is declared as.
-/

namespace ObjectMapping

/-- A declaration with the values of its defaults and constants. -/
structure EvaluatedClass where
  declaration : ClassDeclaration
  fields : List EvaluatedField
  constants : List (String × Value)
  /-- The parameters of the declared constructor. -/
  parameters : List Parameter

/-- The members of the given names are taken away. -/
def membersWithout (members : Entries String (Member Body)) (names : List String) :
    Entries String (Member Body) :=
  members.filter fun entry => !names.contains entry.1

/-- Slots for some names. -/
def slotsFor (names : List String) : Entries String (Member Body) :=
  names.map fun name => (name, .slot)

namespace Heritage

/-- Some class behind the new class has a slot of the name. -/
def hasSlot (heritage : Heritage) (name : String) : Bool :=
  heritage.ancestors.any fun ancestor =>
    match Entries.get? ancestor.members name with
    | some .slot => true
    | _ => false

/-- Some class behind the new class fills instances in a way of its own. -/
def fillsInstances (heritage : Heritage) : Bool :=
  heritage.ancestors.any (·.initializer?.isSome)

/-- What is behind the new class refuses to store anything at all. -/
def isFrozenSlotted (heritage : Heritage) : Bool :=
  let nearest? : Option WriteGuard := heritage.ancestors.findSome? (·.guard?)
  match nearest? with
  | some .frozenSlotted => true
  | _ => false

/-- The layouts of the records behind the new class. -/
def recordLayouts (heritage : Heritage) : List RecordLayout :=
  heritage.line.filterMap heritage.blueprint.recordLayout?

/-- The new class is a frozen record and the records behind it are not, or the other
way round. -/
def mixesFrozen (heritage : Heritage) (layout : RecordLayout) : Bool :=
  !heritage.recordLayouts.isEmpty &&
    heritage.recordLayouts.any (·.isFrozen) != layout.isFrozen

/-- A parameter by position without default stands behind one that has a default. -/
def isOutOfOrder (parameters : List Parameter) : Bool :=
  ((parameters.filter (·.kind == .standard)).dropWhile (·.default?.isNone)).any
    (·.default?.isNone)

/-- The new class cannot be a record as it is declared. -/
def refuses (heritage : Heritage) (c : ClassInfo Body) : Bool :=
  c.record?.any fun layout => heritage.mixesFrozen layout || isOutOfOrder layout.parameters

end Heritage

namespace EvaluatedClass

variable (e : EvaluatedClass) (heritage : Heritage)

/-- The members that the declaration itself names. -/
def writtenMembers : Entries String (Member Body) :=
  let d := e.declaration
  let defaults := e.fields.filterMap fun f =>
    f.default?.map fun v => (f.field.name, Member.constant v.value)
  let constants := e.constants.map fun entry => (entry.1, Member.constant entry.2)
  let properties := d.properties.map fun p => (p.name, Member.property (p.property d.name))
  let methods := d.abstractMethods.map fun name => (name, Member.abstractMethod)
  Entries.mergeAbsent (Entries.ofList (defaults ++ constants ++ properties)) methods

/-- The class without what its kind adds. -/
def base : ClassInfo Body where
  name := e.declaration.name
  lineage := heritage.lineage
  bases := heritage.bases
  metaclass := heritage.metaclass
  abstractNames := heritage.abstractNames e.writtenMembers
  annotations := Entries.ofList <| e.declaration.fields.filterMap fun f =>
    f.declared?.map fun declared => (f.name, declared)
  members := e.writtenMembers
  initializer? := e.declaration.constructor?.map fun c =>
    .code e.parameters
      (.script (selfVariable :: e.parameters.map (·.name)) { statements := c.2 })
  afterInit? := e.declaration.afterInit?.map fun statements =>
    .script [selfVariable] { statements := statements }

/-- The class with other members. -/
def withMembers (c : ClassInfo Body) (members : Entries String (Member Body)) :
    ClassInfo Body :=
  { c with members := members, abstractNames := heritage.abstractNames members }

/-- A record. -/
def asRecord (c : ClassInfo Body) : ClassInfo Body :=
  let d := e.declaration
  let own := d.ownRecordFields heritage e.constants e.fields
  let all := ClassDeclaration.recordFields heritage own
  let isFrozen := d.isFrozen?.getD false
  let names := (all.filter (·.kind == .stored)).map (·.name)
  let copied := own.filterMap fun f =>
    match f.default? with
    | some (.copied _) => some f.name
    | _ => none
  let members :=
    if d.isSlotted then
      membersWithout c.members names ++ slotsFor (names.filter (!heritage.hasSlot ·))
    else
      membersWithout c.members copied
  { withMembers heritage c members with
    initializer? := c.initializer?.or (some .record)
    guard? := if isFrozen then some (.frozenRecord names d.isSlotted) else none
    isOpen := !d.isSlotted
    record? := some {
      fields := all
      isFrozen := isFrozen
      isSlotted := d.isSlotted
      hasAfterInit :=
        c.afterInit?.isSome || heritage.ancestors.any (·.afterInit?.isSome) } }

/-- A slotted class. -/
def asSlotted (c : ClassInfo Body) : ClassInfo Body :=
  let d := e.declaration
  let own := d.ownSlottedFields e.constants e.fields
  let all := ClassDeclaration.slottedFields heritage own
  let isFrozen := d.isFrozen?.getD false || heritage.isFrozenSlotted
  let members := membersWithout c.members (all.map (·.name)) ++ slotsFor (own.map (·.name))
  { withMembers heritage c members with
    initializer? := c.initializer?.or (some .slotted)
    guard? := if isFrozen then some .frozenSlotted else none
    isOpen := false
    slotted? := some { fields := all } }

/-- A model. The values of fields and of names that it keeps apart are no members. -/
def asModel (c : ClassInfo Body) : ClassInfo Body :=
  let layout := e.declaration.modelLayout heritage e.constants e.fields
  let isMember (entry : String × Member Body) : Bool :=
    !layout.fields.any (·.name == entry.1) &&
      (match entry.2 with
       | .constant _ => !Entries.contains layout.concealed entry.1
       | _ => true)
  { c with
    members := c.members.filter isMember
    guard? := some .model
    model? := some layout }

/-- An entity. -/
def asEntity (c : ClassInfo Body) : ClassInfo Body :=
  { c with
    members := Entries.merge c.members e.declaration.mappedMembers
    entity? := some (e.declaration.entityLayout heritage) }

/-- A plain class that is mapped to a table. It takes arguments by name unless
it fills instances otherwise. -/
def asMapped (c : ClassInfo Body) : ClassInfo Body :=
  let columns := e.declaration.columns.map fun column => (column.1, Member.column)
  { c with
    members := Entries.merge c.members columns
    initializer? := c.initializer?.or (if heritage.fillsInstances then none else some .entity)
    entity? := some e.declaration.mappedLayout }

/-- An interface. -/
def asInterface (c : ClassInfo Body) : ClassInfo Body :=
  { c with
    isInterface := true
    initializer? :=
      c.initializer?.or (if heritage.fillsInstances then none else some .placeholder) }

/-- The class that a declaration amounts to. -/
def complete : ClassInfo Body :=
  let c := e.base heritage
  match e.declaration.kind with
  | .record => e.asRecord heritage c
  | .slotted => e.asSlotted heritage c
  | .model => e.asModel heritage c
  | .entity => e.asEntity heritage c
  | .mappedPlain => e.asMapped heritage c
  | .interface => asInterface heritage c
  | .plain =>
      if heritage.isBehind .modelBase then e.asModel heritage c
      else if heritage.isBehind .entityBase then e.asEntity heritage c
      else c

end EvaluatedClass

namespace Blueprint

/-- The values of the defaults of fields. -/
def evaluateFields [Packages] (classes : ClassTable Code) (fields : List FieldDeclaration) :
    Run (List EvaluatedField) :=
  fields.mapM fun f => do
    match f.default? with
    | some e =>
        let v ← e.evaluate classes []
        return { field := f, default? := some (← Default.ofField v) }
    | none => return { field := f, default? := none }

/-- The parameters of a declared constructor, with the values of their defaults. -/
def evaluateParameters [Packages] (classes : ClassTable Code)
    (parameters : List ParameterDeclaration) : Run (List Parameter) :=
  parameters.mapM fun p => do
    match p.default? with
    | some e =>
        return { name := p.name, kind := p.kind
                 default? := some (.shared (← e.evaluate classes [])) }
    | none => return { name := p.name, kind := p.kind }

/-- The values of the constants of a class. -/
def evaluateConstants [Packages] (classes : ClassTable Code)
    (constants : List (String × Expression)) : Run (List (String × Value)) :=
  constants.mapM fun entry => do
    return (entry.1, ← entry.2.evaluate classes [])

/-- Adds a class. A model is complete if all that it leads to is known with it. -/
def push (blueprint : Blueprint) (c : ClassInfo Body) : Blueprint :=
  let among (c : ClassInfo Body) : Blueprint := ⟨blueprint.classes.push c⟩
  let isComplete := ClassTable.isKnown (among c) c.name.id
  among { c with model? := c.model?.map fun layout => { layout with isComplete := isComplete } }

/-- Declares a class behind those that are declared already. -/
def declare [Packages] (blueprint : Blueprint) (d : ClassDeclaration) : Run Blueprint := do
  let classes := blueprint.runnable
  let evaluated : EvaluatedClass := {
    declaration := d
    fields := ← evaluateFields classes d.fields
    constants := ← evaluateConstants classes d.constants
    parameters := ← evaluateParameters classes ((d.constructor?.map (·.1)).getD []) }
  let blueprint : Blueprint ← ClassTable.now blueprint
  let heritage := d.heritage blueprint
  let c := evaluated.complete heritage
  if heritage.refuses c then throw .badCall
  return blueprint.push c

/-- Declares classes one after another. -/
def declareAll [Packages] (declarations : List ClassDeclaration) : Run Blueprint :=
  declarations.foldlM declare ⟨#[]⟩

end Blueprint

end ObjectMapping
