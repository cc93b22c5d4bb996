import ObjectMapping.Class.Conversion
import ObjectMapping.Class.Signature
import ObjectMapping.Class.Storing

/-!
# Making instances

Calling a class. Classes with abstract members have no instances, nor have
interfaces unless a constructor is written for them. Any other class makes an
empty instance and fills it: by the code of its constructor, field by field as
its layout says, or as a package does. A record then runs the code that its class,
or the nearest ancestor, adds to the generated constructor.

An instance can be made again with one part changed, in two ways: a record is
called anew with all its parameters, and a model is copied by its package.
-/

namespace ObjectMapping

namespace ClassTable

variable (classes : ClassTable Code)

/-! ## Ways of making instances -/

/-- The way in which instances of a class are filled. The placeholder of an
interface gives way when the first instance is made. -/
def fillingOf (c : ClassId) : Run (Option (ClassInfo Code × Initializer Code)) := do
  match classes.initializer? c with
  | some (_, .placeholder) =>
      let actual? := classes.actualInitializer? c
      Run.change c (.filledLike (actual?.map (·.1.name.id)))
      return actual?
  | initializer? => return initializer?

/-- The class refuses to have instances: it leaves members abstract, or it is an
interface that would fill them by its placeholder. -/
def refusesInstances (c : ClassId) : Bool :=
  classes.isAbstract c ||
    ((classes.info c).isInterface &&
      match classes.initializer? c with
      | some (_, .placeholder) => true
      | _ => false)

/-! ## Records -/

/-- The value of a field of a record that the constructor does not accept, where
the class cannot provide it. -/
def storedDefault? (layout : RecordLayout) (f : RecordField) : Option Default :=
  match f.default? with
  | some (.shared v) => if layout.isSlotted then some (.shared v) else none
  | default? => default?

/-- Runs the code that follows the generated constructor of a record. -/
def runAfterInit (c : ClassId) (instanceValue : Value) : Run Unit :=
  match (classes.line c).findSome? (·.afterInit?) with
  | some code => discard (code [instanceValue])
  | none => return

variable [Packages]

/-- Sets the fields of a record from the values of its parameters. -/
def fillRecord (layout : RecordLayout) (instanceValue : Value) (given : Entries String Value) :
    List RecordField → Run Unit
  | [] => return
  | f :: rest => do
      let store (v : Value) : Run Unit :=
        if layout.isFrozen then
          classes.storeUnguarded instanceValue f.name v
        else
          classes.writeAttribute instanceValue f.name v
      if f.kind == .stored then
        if f.accepted then
          store ((Entries.get? given f.name).getD .null)
        else if let some d := storedDefault? layout f then
          store (← d.create classes)
      fillRecord layout instanceValue given rest

/-! ## Any class -/

/-- Fills an empty instance, which may be made inside another one. -/
def fill (make : Maker) (isInner : Bool) (c : ClassId) (address : Nat) (arguments : Arguments) :
    Option (ClassInfo Code × Initializer Code) → Run Unit
  | none | some (_, .like _) =>
      if arguments.positional.isEmpty && arguments.named.isEmpty then return else throw .badCall
  | some (_, .code parameters body) => do
      discard (body (.object address :: (← classes.bindAll parameters arguments)))
  | some (ancestor, .record) => do
      let some layout := ancestor.record? | throw .badCall
      let values ← classes.bindAll layout.parameters arguments
      let given := (layout.parameters.map (·.name)).zip values
      classes.fillRecord layout (.object address) given layout.fields
      if layout.hasAfterInit then classes.runAfterInit c (.object address)
  | some (ancestor, .slotted) => do
      let some layout := ancestor.slotted? | throw .badCall
      let values ← classes.bindAll (Packages.slottedParameters layout) arguments
      Packages.fillSlotted classes layout values fun name v =>
        classes.storeUnguarded (.object address) name v
  | some (_, .model) => Packages.fillModel classes make isInner c address arguments
  | some (_, .entity) => do
      if (bindArguments? Packages.entityParameters arguments).isNone then throw .badCall
      Packages.fillEntity classes c arguments.named fun name v =>
        classes.writeAttribute (.object address) name v
  | some (_, .placeholder) => throw .badCall

/-- Calls a declared class, where models make other instances from their fields
in the given way. -/
def instantiateWith (make : Maker) (isInner : Bool) (c : ClassId) (arguments : Arguments) :
    Run Value := do
  if classes.refusesInstances c then throw .badCall
  let address := (← get).heap.next
  let made ← Run.allocate (.record { classId := c })
  classes.fill make isInner c address arguments (← classes.fillingOf c)
  return made

/-- Makes an instance of a class from the values of its fields, to a depth. -/
def madeFrom : Nat → ClassId → Entries String Value → Run Value
  | 0, _, _ => throw .nestedTooDeep
  | depth + 1, c, given =>
      match classes.modelLayout? c, classes.recordLayout? c with
      | none, some layout =>
          Packages.makeRecord classes (madeFrom depth) layout c given (classes.runAfterInit c)
      | _, _ => classes.instantiateWith (madeFrom depth) true c { named := given }

/-- Calls a declared class. -/
def instantiate (c : ClassId) (arguments : Arguments) : Run Value := do
  let classes ← classes.now
  classes.instantiateWith (classes.madeFrom (depthOf (← get).heap)) false c arguments

/-- Calls a class by its identity. -/
def callClass (c : ClassId) (arguments : Arguments) : Run Value :=
  match c with
  | .declared _ => classes.instantiate c arguments
  | .standard s => classes.callStandard s arguments

/-- The attribute under which a value keeps the type that it was made by. -/
def makerAttribute : String := "__orig_class__"

/-- Calls a type: a class, or a form that is built from one. A value that is made
by an annotated type remembers it, if it can. -/
def callType (arguments : Arguments) : TypeExpr → Run Value
  | .named c => classes.callClass c.id arguments
  | .generic (.container c) _ => classes.callStandard c.standardClass arguments
  | .generic (.qualifier .mapped) _ => classes.callStandard .mapped arguments
  | .annotated inner metadata => do
      let made ← callType arguments inner
      tryCatch
        (classes.writeAttribute made makerAttribute (.type (.annotated inner metadata) .shared))
        fun fault => if fault.concernsAttribute then return else throw fault
      return made
  | _ => throw .badCall

/-! ## Changed copies -/

/-- The arguments by which a record keeps all but one of its values when it is
called again. Every accepted parameter keeps the value that the instance has;
one that is not stored has to have a default. The field that changes has to be
accepted. -/
def keptArguments (earlier : Value) (changed : String) :
    List RecordField → Run (Entries String Value)
  | [] => return []
  | f :: rest => do
      if f.kind == .classLevel then
        keptArguments earlier changed rest
      else if !f.accepted then
        if f.name == changed then throw (.missingInitOnly changed)
        keptArguments earlier changed rest
      else if f.name == changed then
        keptArguments earlier changed rest
      else
        if f.kind == .initOnly && f.default?.isNone then throw (.missingInitOnly f.name)
        let v ← classes.readAttribute earlier f.name
        return (f.name, v) :: (← keptArguments earlier changed rest)

/-- A new record like the given one but for one field. The changed value stands
first among the arguments. -/
def replaceField (earlier : Value) (name : String) (v : Value) : Run Value := do
  let c ← classes.classOf earlier
  match classes.recordLayout? c with
  | some layout =>
      let kept ← classes.keptArguments earlier name layout.fields
      classes.callClass c { named := (name, v) :: kept }
  | none => throw .badCall

/-- A copy of a model with one value changed. -/
def copyWithUpdate (earlier : Value) (name : String) (v : Value) : Run Value := do
  let c ← classes.classOf earlier
  match earlier, classes.modelLayout? c with
  | .object address, some _ => Packages.copyModel classes address name v
  | .type (.named m) _, none => throw (if classes.isModel m.id then .badCall else .noAttribute name)
  | _, _ => throw (.noAttribute name)

end ClassTable

end ObjectMapping
