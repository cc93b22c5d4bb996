import ObjectMapping.Class.Storing
import ObjectMapping.Proofs.Value.Effect
import ObjectMapping.Proofs.Value.Preservation

/-!
# Laws of packages

What programs can rely on in packages. Each law is a condition of its own on an
instance of `Packages`, so that a result names those that it needs and no others.
-/

namespace ObjectMapping

/-- The names of the parameters that require an argument, in their order. -/
def requiredNames (parameters : List Parameter) : List String :=
  (parameters.filter (·.isRequired)).map (·.name)

namespace ModelLayout

/-- The names of the fields that have no default, in their order. -/
def requiredNames (layout : ModelLayout) : List String :=
  (layout.fields.filter (·.default?.isNone)).map (·.name)

/-- A layout requires the same when the types of its fields become known. -/
@[simp]
theorem requiredNames_completed (layout : ModelLayout) :
    layout.completed.requiredNames = layout.requiredNames := by
  simp [requiredNames, completed, List.filter_map, Function.comp_def]

/-- The arguments are by name, and each field without default is among them. -/
def IsGiven (layout : ModelLayout) (arguments : Arguments) : Prop :=
  arguments.positional = [] ∧
    ∀ name ∈ layout.requiredNames, Entries.contains arguments.named name = true

end ModelLayout

namespace Packages

/-- Mapped attributes are stored like any others, and read as null while nothing is
stored. -/
structure MapsPlainly [Packages] : Prop where
  readColumn : ∀ (r : Instance) (name : String),
    PackageReading.readColumn r name = pure ((Entries.get? r.attributes name).getD .null)
  storeColumn : ∀ (address : Nat) (name : String) (v : Value),
    Packages.storeColumn address name v = ClassTable.putAttribute address name v

/-- A package that refuses to store an attribute has changed nothing. That is asked of
models that their constructor has prepared, where storing in the ordinary way changes
nothing either when it fails. -/
structure RefusesCleanly [Packages] : Prop where
  column : ∀ {address : Nat} {r : Instance} {name : String} {v : Value} {w : World},
    w.heap.get? address = some (.record r) →
    (Packages.storeColumn address name v).FailsCleanly w
  collection : ∀ {classes : ClassTable Code} {address : Nat} {r : Instance} {name : String}
    {v : Value} {w : World}, w.heap.get? address = some (.record r) →
    (Packages.storeCollection classes address name v).FailsCleanly w
  model : ∀ {classes : ClassTable Code} {layout : ModelLayout} {r : Instance} {address : Nat}
    {name : String} {v : Value} {ordinary : Run Unit} {w : World},
    w.heap.get? address = some (.record r) → r.isPrepared = true → ordinary.FailsCleanly w →
    (Packages.storeModel classes layout r address name v ordinary).FailsCleanly w
  frozen : ∀ {r : Instance} {address : Nat} {name : String} {v : Value} {w : World},
    (Packages.storeFrozen r address name v).FailsCleanly w

/-- A copy of a model is a new object. It holds what the model holds, apart from the
value that is changed, and the model stays as it is. A model can be copied if its
constructor has prepared it, and in any case if another one like it can be. -/
structure CopiesModels [Packages] : Prop where
  copies : ∀ {classes : ClassTable Code} {address : Nat} {r : Instance} {name : String}
    {v made : Value} {w w' : World}, w.heap.get? address = some (.record r) →
    (Packages.copyModel classes address name v).Ends w made w' →
    ∃ place, made = .object place ∧ w.heap.next ≤ place ∧ w.Keeps [] w' ∧
      w'.heap.get? place =
        some (.record { r with attributes := Entries.put r.attributes name v })
  prepared : ∀ {classes : ClassTable Code} {address : Nat} {r : Instance} (name : String)
    (v : Value) {w : World}, w.heap.get? address = some (.record r) → r.isPrepared = true →
    (Packages.copyModel classes address name v).Succeeds w
  alike : ∀ {classes : ClassTable Code} {address address' : Nat} {r r' : Instance} {name : String}
    {v v' : Value} {w w' : World}, w.heap.get? address = some (.record r) →
    w'.heap.get? address' = some (.record r') → r.classId = r'.classId →
    r.isPrepared = r'.isPrepared → (Packages.copyModel classes address name v).Succeeds w →
    (Packages.copyModel classes address' name v').Succeeds w'

/-- A model is filled from arguments by name only, and from a value for each field that has
no default. -/
structure RequiresFields [Packages] : Prop where
  given : ∀ {classes : ClassTable Code} {make : Maker} {isInner : Bool} {c : ClassId}
    {address : Nat} {arguments : Arguments} {w : World},
    (Packages.fillModel classes make isInner c address arguments).Succeeds w →
    ∃ layout, classes.modelLayout? c = some layout ∧ layout.IsGiven arguments

/-- Models of the class do not validate what is assigned. So a field takes any value, as long
as neither it nor the model is frozen and no property stands in front of it. -/
def SetsFields [Packages] (classes : ClassTable Code) (c : ClassId) : Prop :=
  ∀ {layout : ModelLayout} {f : ModelField} {r : Instance} {address : Nat} (v : Value)
    (ordinary : Run Unit) {w : World}, w.heap.get? address = some (.record r) → r.classId = c →
    r.isPrepared = true → classes.modelLayout? c = some layout → layout.isFrozen = false →
    f ∈ layout.fields → (∀ g ∈ layout.fields, g.name = f.name → g.isFrozen = false) →
    (∀ p, classes.member? c f.name ≠ some (.property p)) →
    (Packages.storeModel classes layout r address f.name v ordinary).Succeeds w

/-- A model of which the types of all fields are known shows its fields as parameters: those
without default require an argument. -/
def ShowsFields [Packages] (classes : ClassTable Code) (c : ClassId) : Prop :=
  ∀ layout, classes.modelLayout? c = some layout → layout.isComplete = true →
    requiredNames (Packages.modelParameters classes c) = layout.requiredNames

/-- Packages keep a condition on worlds. They store attributes in no other objects than
those that they are told to store them in, or that they have made, and code that they
are handed does nothing that the condition does not survive. -/
structure Keep [Packages] (kept : World → Prop) (free : Nat → Prop) : Prop where
  readFact : ∀ r name, (PackageReading.readFact r name).Preserves kept
  readColumn : ∀ r name, (PackageReading.readColumn r name).Preserves kept
  readCollection : ∀ {address r} name {w}, w.heap.get? address = some (.record r) → kept w →
    kept ((PackageReading.readCollection address r name).run.run w).2
  readAgain : ∀ {read} fault, read.Preserves kept →
    (PackageReading.readAgain read fault).Preserves kept
  storeColumn : ∀ {address} name v, free address →
    (Packages.storeColumn address name v).Preserves kept
  storeCollection : ∀ classes {address} name v, free address →
    (Packages.storeCollection classes address name v).Preserves kept
  storeModel : ∀ classes layout r {address} name v {ordinary}, free address →
    ordinary.Preserves kept →
    (Packages.storeModel classes layout r address name v ordinary).Preserves kept
  storeFrozen : ∀ r {address} name v, free address →
    (Packages.storeFrozen r address name v).Preserves kept
  copyModel : ∀ classes address name v,
    (Packages.copyModel classes address name v).Preserves kept
  copyModel_yields : ∀ classes address name v,
    (Packages.copyModel classes address name v).YieldsFree kept free
  fillModel : ∀ classes {make : Maker} isInner c {w} arguments,
    (∀ c given, (make c given).Preserves kept) → kept w →
    (Packages.fillModel classes make isInner c w.heap.next arguments).Preserves kept
  fillSlotted : ∀ classes layout values {store : String → Value → Run Unit},
    (∀ name v, (store name v).Preserves kept) →
    (Packages.fillSlotted classes layout values store).Preserves kept
  fillEntity : ∀ classes c given {store : String → Value → Run Unit},
    (∀ name v, (store name v).Preserves kept) →
    (Packages.fillEntity classes c given store).Preserves kept
  makeRecord : ∀ classes {make : Maker} layout c given {finish : Value → Run Unit},
    (∀ c given, (make c given).Preserves kept) →
    (∀ address, free address → (finish (.object address)).Preserves kept) →
    (Packages.makeRecord classes make layout c given finish).Preserves kept

end Packages

end ObjectMapping
