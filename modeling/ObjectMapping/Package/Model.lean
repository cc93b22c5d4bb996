import ObjectMapping.Class.Signature
import ObjectMapping.Class.Storing
import ObjectMapping.Package.Slotted
import ObjectMapping.Package.Validation
import ObjectMapping.Class.Completeness

/-!
# Models as their package treats them

A model is filled from arguments by name, each of which has to fit the type of its
field. Storing an attribute checks its name and whether it may change, and nothing
else. A copy holds what the model holds, apart from the value that is changed.
-/

namespace ObjectMapping

/-- Reads what every model tells of its instances: nothing beyond the fields,
and which fields have been set, as a set. -/
def readModelFact (r : Instance) (name : String) : Run Value :=
  if !r.isPrepared then throw (.noAttribute name)
  else if name == "model_extra" then return .null
  else Run.allocate (.set [])

/-- A model reads a property a second time when an attribute was missing. -/
def readModelAgain (read : Run Value) (fault : Fault) : Run Value :=
  if fault.concernsAttribute then read else throw fault

namespace ModelLayout

/-- The parameters of a model, all by name. -/
def parameters (layout : ModelLayout) : List Parameter :=
  layout.fields.map fun f => { name := f.name, kind := .nameOnly, default? := f.default? }

/-- The parameters of a model with a constructor of its own: those of the
constructor, and if that takes further arguments by name, those of the other fields. -/
def parametersWith (layout : ModelLayout) (own : List Parameter) :
    List Parameter :=
  let listed := own.filter (·.kind != .restByName)
  if own.any (·.kind == .restByName) then
    listed ++ layout.parameters.filter fun p => !listed.any (·.name == p.name)
  else
    listed

end ModelLayout

namespace ClassTable

/-! ## Signatures -/

section

variable {β : Type} [Inhabited β] (classes : ClassTable β)

/-- The parameters of a constructor that a class has or inherits, written or
generated from fields. -/
def ownParameters? (c : ClassId) : Option (List Parameter) :=
  match classes.initializer? c with
  | some (_, .code parameters _) => some parameters
  | some (ancestor, .record) => ancestor.record?.map (·.parameters)
  | some (ancestor, .slotted) => ancestor.slotted?.map (·.parameters)
  | _ => none

/-- The first class of the line that is a model of which all types are known. -/
def completeModel? (c : ClassId) : Option (ClassId × ModelLayout) :=
  (classes.line c).findSome? fun ancestor =>
    match ancestor.model? with
    | some layout => if layout.isComplete then some (ancestor.name.id, layout) else none
    | none => none

/-- The parameters of a model. While types are missing they are those of the
nearest ancestor without this lack, and without such an ancestor those of the
constructor itself. -/
def modelParameters (c : ClassId) : List Parameter :=
  match classes.completeModel? c with
  | some (ancestor, layout) =>
      match classes.ownParameters? ancestor with
      | some own => layout.parametersWith own
      | none => layout.parameters
  | none => (classes.ownParameters? c).getD [{ name := "data", kind := .restByName }]

end

/-! ## Filling -/

variable (classes : ClassTable Code)

/-- The layout of a model with all types known. A model that lacked some when it
was declared is completed by the first call that can do so; inside another
model it is only completed for that model. -/
def usableLayout (isInner : Bool) (c : ClassId) : Run ModelLayout := do
  let some layout := classes.modelLayout? c | throw .badCall
  if layout.isComplete then return layout
  if !classes.isKnown c then throw .unusableModel
  if !isInner then Run.change c .completed
  return layout.completed

/-- The value of a field that fits its type, or else its default. -/
def fieldValue (fit : TypeExpr → Value → Run Fit) (type : TypeExpr) (given? : Option Value)
    (default? : Option Default) : Run Value :=
  match given?, default? with
  | some v, _ => do return (← fit type v).value
  | none, some d => d.create classes
  | none, none => refused

/-- The fields of a model from the arguments by name; others are ignored. -/
def modelAttributes (fit : TypeExpr → Value → Run Fit) (given : Entries String Value)
    (fields : List ModelField) : Run (Entries String Value) :=
  fields.mapM fun f => do
    return (f.name, ← classes.fieldValue fit f.type (Entries.get? given f.name) f.default?)

/-- The attributes that a model keeps apart, as far as they have a default. -/
def concealedAttributes (concealed : Entries String (Option Default)) :
    Run (Entries String Value) :=
  (concealed.filterMap fun entry => entry.2.map fun d => (entry.1, d)).mapM fun entry => do
    return (entry.1, ← entry.2.create classes)

/-- Fills a model from arguments by name. -/
def fillModel (make : Maker) (isInner : Bool) (c : ClassId) (address : Nat)
    (arguments : Arguments) : Run Unit := do
  if !arguments.positional.isEmpty then throw .badCall
  let layout ← classes.usableLayout isInner c
  let fields ← classes.modelAttributes (classes.fit make) arguments.named layout.fields
  let concealed ← classes.concealedAttributes layout.concealed
  Run.replace address (.record {
    classId := c, attributes := fields, apart := concealed, isPrepared := true })

/-- Makes a record from the values of its fields, which have to fit their types. -/
def recordFrom (make : Maker) (layout : RecordLayout) (c : ClassId)
    (given : Entries String Value) (finish : Value → Run Unit) : Run Value := do
  let stored ← (layout.fields.filter (·.kind == .stored)).mapM fun f => do
    let given? := if f.accepted then Entries.get? given f.name else none
    let type := f.declared.withResolvedTexts.fieldCore.1
    return (f.name, ← classes.fieldValue (classes.fit make) type given? f.default?)
  let made ← Run.allocate (.record { classId := c, attributes := stored })
  finish made
  return made

/-! ## Storing and copying -/

/-- Replaces what is stored apart under a name. -/
def putApart (address : Nat) (name : String) (v : Value) : Run Unit := do
  match ← Run.object? address with
  | some (.record r) =>
      Run.replace address (.record { r with apart := Entries.put r.apart name v })
  | _ => throw (.notWritable name)

/-- Stores an attribute of a model. Names of the class itself come first, then
names that are kept apart, then properties and fields, of which a frozen model
or field refuses every change. -/
def storeModel (layout : ModelLayout) (r : Instance) (address : Nat) (name : String) (v : Value)
    (ordinary : Run Unit) : Run Unit := do
  if layout.classLevel.contains name then
    throw (.notWritable name)
  else if name.startsWith "_" then
    if Entries.contains layout.concealed name then putApart address name v
    else ordinary
  else if layout.isFrozen || layout.fields.any (fun f => f.name == name && f.isFrozen) then
    throw .invalidModel
  else
    let isProperty := ((classes.member? r.classId name).bind Member.property?).isSome
    if isProperty then
      ordinary
    else if layout.fields.any (·.name == name) then
      putAttribute address name v
      if !r.isPrepared then throw (.noAttribute name)
    else
      throw (.unknownField name)

/-- A copy of a model with one value changed. -/
def copyModel (address : Nat) (name : String) (v : Value) : Run Value := do
  let copy ← classes.shallowCopy (.object address)
  if let .object place := copy then putAttribute place name v
  return copy

end ClassTable

end ObjectMapping
