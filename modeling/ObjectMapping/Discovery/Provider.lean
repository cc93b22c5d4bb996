import ObjectMapping.Discovery.Annotations
import ObjectMapping.Mapping.Factory

/-!
# Providers of properties

A provider lists the properties of one kind of type: those that can be read, and
those that can be written, with the way in which they are written. Frozen
records and models are written by replacement, all others by assignment.
Properties are named once each, and private names are left out.
-/

namespace ObjectMapping

/-- The kinds of providers. -/
inductive Provider where
  | model
  | entity
  | record
  | interface
  /-- Any class. -/
  | plain
  /-- One property of a given type and name, for all types or only some. -/
  | fixed (type : TypeExpr) (name : String) (only? : Option (List TypeExpr))
  deriving Inhabited

/-- The name of a provider in reports. -/
def Provider.label : Provider → String
  | .model => "PydanticValueProvider"
  | .entity => "SQLAlchemyValueProvider"
  | .record => "DataclassValueProvider"
  | .interface => "ProtocolValueProvider"
  | .plain => "AnnotatedClassValueProvider"
  | .fixed _ _ _ => "FixedProvider"

/-- A writable property: its declared type, and how it is written. -/
structure Writable where
  declared : TypeExpr
  mode : TargetMode

/-- The part of the program that reports columns. -/
def entityLogger : String := "fluentmap.discovery.sa_models"

namespace ClassTable

variable (classes : ClassTable Code)

/-! ## Models -/

/-- What can be read off a model: its fields, then its computed fields. -/
def modelSources (layout : ModelLayout) : Entries String TypeExpr :=
  Entries.merge (layout.fields.map fun f => (f.name, f.type)) layout.computed

/-- What can be written on a model: its fields. -/
def modelTargets [Packages] (layout : ModelLayout) : Entries String Writable :=
  layout.fields.map fun f =>
    (f.name, {
      declared := f.type
      mode :=
        if layout.isFrozen || f.isFrozen then .replacement classes.copyWithUpdate
        else .assignment })

/-! ## Entities -/

/-- The type of a column: its annotation, or else that of its database type. -/
def columnType (c : ClassInfo Code) (annotations : Entries String TypeExpr)
    (column : EntityColumn) : Logged EvaluationError TypeExpr := do
  match Entries.get? annotations column.name, column.native? with
  | some .none, some native => return native
  | some .none, none => untyped
  | some declared, _ => return declared
  | none, some native => return native
  | none, none => untyped
where
  /-- Reports a column of which the type is not known. -/
  untyped : Logged EvaluationError TypeExpr := do
    Logged.record .warning entityLogger
      ("Column " ++ c.name.name ++ "." ++ column.name ++
        " has no python_type and no annotation; its value type will be treated as Any")
    return .any

/-- The types of the given columns. -/
def columnTypesOf (c : ClassInfo Code) (annotations : Entries String TypeExpr) :
    List EntityColumn → Logged EvaluationError (Entries String TypeExpr)
  | [] => return []
  | column :: rest => do
      let type ← columnType c annotations column
      return (column.name, type) :: (← columnTypesOf c annotations rest)

/-- The types of the public columns of an entity. -/
def columnTypes (c : ClassId) (layout : EntityLayout) :
    Logged EvaluationError (Entries String TypeExpr) := do
  let annotations ← classes.classAnnotations c
  let types ← columnTypesOf (classes.info c) annotations
    (layout.columns.filter fun column => isPublic column.name)
  return Entries.ofList types

/-! ## Records -/

/-- The types of the public fields of a record that satisfy a condition. -/
def fieldTypes (c : ClassId) (layout : RecordLayout) (accepts : RecordField → Bool) :
    Logged EvaluationError (Entries String TypeExpr) := do
  let annotations ← classes.classAnnotations c
  let fields := layout.fields.filter fun f =>
    f.kind == .stored && isPublic f.name && accepts f
  return fields.map fun f => (f.name, (Entries.get? annotations f.name).getD f.declared)

/-- What can be read off a record: its fields, then its properties. -/
def recordSources (c : ClassId) (layout : RecordLayout) :
    Logged EvaluationError (Entries String TypeExpr) := do
  let fields ← classes.fieldTypes c layout fun _ => true
  let results ← resultTypes (fun _ => true) (classes.publicProperties c)
  return Entries.merge fields results

/-- What can be written on a record. A frozen record is replaced, which only the
parameters of its constructor allow. -/
def recordTargets [Packages] (c : ClassId) (layout : RecordLayout) :
    Logged EvaluationError (Entries String Writable) := do
  if layout.isFrozen then
    let fields ← classes.fieldTypes c layout (·.accepted)
    return fields.map fun entry => (entry.1, ⟨entry.2, .replacement classes.replaceField⟩)
  else
    let fields ← classes.fieldTypes c layout fun _ => true
    let results ← resultTypes Property.isWritable (classes.publicProperties c)
    return (Entries.merge fields results).map fun entry => (entry.1, ⟨entry.2, .assignment⟩)

/-! ## Interfaces -/

/-- The members that an interface declares itself. Where only writable members
count, a property without setter hides an annotation of its name. -/
def interfaceMembers (c : ClassInfo Code) (writableOnly : Bool) :
    Logged EvaluationError (Entries String TypeExpr) := do
  let annotations ← ExceptT.mk (pure (resolveEntries c.annotations))
  addProperties (instanceEntries annotations) (ownPublicProperties c)
where
  /-- Adds the properties to the members found so far. -/
  addProperties (members : Entries String TypeExpr) :
      Entries String (Property Code) → Logged EvaluationError (Entries String TypeExpr)
    | [] => return members
    | (name, p) :: rest => do
        match p.getter? with
        | none => addProperties members rest
        | some getter =>
            if writableOnly && !p.isWritable then
              addProperties (Entries.erase members name) rest
            else
              addProperties (Entries.put members name (← resultType getter)) rest

/-- The members of a line of interfaces; the most derived one that has a member
decides its type. -/
def gatherMembers (writableOnly : Bool) (found : Entries String TypeExpr) :
    List (ClassInfo Code) → Logged EvaluationError (Entries String TypeExpr)
  | [] => return found
  | c :: rest => do
      let members ← interfaceMembers c writableOnly
      gatherMembers writableOnly (Entries.mergeAbsent found members) rest

/-- What an interface and the interfaces that it extends declare. -/
def interfaceTypes (c : ClassId) (writableOnly : Bool) :
    Logged EvaluationError (Entries String TypeExpr) :=
  gatherMembers writableOnly [] (classes.interfaceLine c)

/-! ## Plain classes -/

/-- What can be read off any class: its annotations, then its properties. -/
def plainSources (c : ClassId) : Logged EvaluationError (Entries String TypeExpr) := do
  let annotations ← classes.instanceAnnotations c
  let results ← resultTypes (fun _ => true) (classes.publicProperties c)
  return Entries.merge annotations results

/-- What can be written on any class. A property hides an annotation of its
name, and is written if it has a setter. -/
def plainTargets (c : ClassId) : Logged EvaluationError (Entries String TypeExpr) := do
  let properties := classes.publicProperties c
  let annotations ← classes.instanceAnnotations c
  let results ← resultTypes Property.isWritable properties
  return Entries.merge
    (annotations.filter fun entry => !Entries.contains properties entry.1) results

end ClassTable

namespace Provider

variable (classes : ClassTable Code)

/-- The provider lists the properties of the type. -/
def isFor (provider : Provider) (type : TypeExpr) : Bool :=
  match provider with
  | .fixed _ _ none => true
  | .fixed _ _ (some types) => types.any (·.same type)
  | _ =>
      match type.classId? with
      | none => false
      | some c =>
          match provider with
          | .model => classes.isModel c
          | .entity => (classes.entityLayout? c).isSome
          | .record => (classes.recordLayout? c).isSome
          | .interface => (classes.info c).isInterface
          | _ => true

/-- The declared types of what can be read. -/
def readable (provider : Provider) (type : TypeExpr) :
    Logged EvaluationError (Entries String TypeExpr) :=
  match provider, type.classId? with
  | .fixed declared name _, _ => return [(name, declared)]
  | _, none => return []
  | .model, some c => return ((classes.modelLayout? c).map ClassTable.modelSources).getD []
  | .entity, some c =>
      match classes.entityLayout? c with
      | some layout => classes.columnTypes c layout
      | none => return []
  | .record, some c =>
      match classes.recordLayout? c with
      | some layout => classes.recordSources c layout
      | none => return []
  | .interface, some c => classes.interfaceTypes c false
  | .plain, some c => classes.plainSources c

/-- Properties that are written by assignment. -/
def assigned (types : Entries String TypeExpr) : Entries String Writable :=
  types.map fun entry => (entry.1, ⟨entry.2, .assignment⟩)

/-- What can be written. -/
def writable [Packages] (provider : Provider) (type : TypeExpr) :
    Logged EvaluationError (Entries String Writable) :=
  match provider, type.classId? with
  | .fixed declared name _, _ => return [(name, ⟨declared, .assignment⟩)]
  | _, none => return []
  | .model, some c => return ((classes.modelLayout? c).map classes.modelTargets).getD []
  | .entity, some c =>
      match classes.entityLayout? c with
      | some layout => return assigned (← classes.columnTypes c layout)
      | none => return []
  | .record, some c =>
      match classes.recordLayout? c with
      | some layout => classes.recordTargets c layout
      | none => return []
  | .interface, some c => return assigned (← classes.interfaceTypes c true)
  | .plain, some c => return assigned (← classes.plainTargets c)

/-- The source properties of a type. -/
def sources [PackageReading] (provider : Provider) (type : TypeExpr) :
    Logged EvaluationError (List SourceProperty) := do
  return (← provider.readable classes type).mapIdx fun identity entry =>
    SourceProperty.ofAttribute classes identity type entry.1 entry.2

/-- The target properties of a type. -/
def targets [Packages] (provider : Provider) (type : TypeExpr) :
    Logged EvaluationError (List TargetProperty) := do
  return (← provider.writable classes type).mapIdx fun identity entry =>
    TargetProperty.declare identity type entry.1 entry.2.declared entry.2.mode

end Provider

end ObjectMapping
