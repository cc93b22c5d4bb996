import ObjectMapping.Declaration.Basic

/-!
# Heritage

What a class takes over from the classes behind it. Beyond the bases that a
declaration names, the kind of the class may bring in one more: interfaces,
models and entities derive from the common class of their kind, and classes
that keep account of abstract members from the class of all such classes.
-/

namespace ObjectMapping

/-- The classes that a new class inherits from, among those declared before. -/
structure Heritage where
  /-- The classes that are declared already. -/
  blueprint : Blueprint
  /-- The identity of the new class. -/
  owner : ClassId
  /-- The classes that it directly inherits from. -/
  bases : List ClassId
  /-- All classes behind the new class, the most derived first. -/
  line : List ClassId

namespace ClassDeclaration

/-- The base that the kind of a class brings in, unless a base has it already. -/
def commonBase? (blueprint : Blueprint) (d : ClassDeclaration) : Option StandardClass :=
  let common? : Option StandardClass :=
    match d.kind with
    | .interface => some .interfaceBase
    | .model => some .modelBase
    | .entity => some .entityBase
    | _ => none
  match d.kind with
  | .interface => common?
  | _ => common?.filter fun common =>
      !d.bases.any fun base => blueprint.isSubclass base (.standard common)

/-- All bases of a class. -/
def allBases (blueprint : Blueprint) (d : ClassDeclaration) : List ClassId :=
  let common := (d.commonBase? blueprint).toList
  let tracking : List StandardClass :=
    if d.tracksAbstract && d.kind != .interface then [.abstractBase] else []
  let added := (common ++ tracking).map ClassId.standard
  d.bases ++ added.filter fun base => !d.bases.contains base

/-- The heritage of a declared class. -/
def heritage (blueprint : Blueprint) (d : ClassDeclaration) : Heritage where
  blueprint := blueprint
  owner := d.name.id
  bases := d.allBases blueprint
  line :=
    (linearize d.name.id (d.allBases blueprint) fun c => (blueprint.info c).lineage).drop 1

end ClassDeclaration

namespace Heritage

variable (heritage : Heritage)

/-- What is known of the classes behind a new class, the most derived first. -/
def ancestors : List (ClassInfo Body) :=
  heritage.line.map heritage.blueprint.info

/-- The new class and all classes behind it. -/
def lineage : List ClassId :=
  heritage.owner :: heritage.line

/-- The class of which the new class is an instance. -/
def metaclass : StandardClass :=
  mostDerived (heritage.ancestors.map (·.metaclass))

/-- Some class behind the new class is a standard one. -/
def isBehind (c : StandardClass) : Bool :=
  heritage.line.contains (.standard c)

/-- What the classes behind the new class have under a name, with the class that
has it. -/
def owned? (name : String) : Option (ClassId × Member Body) :=
  heritage.ancestors.findSome? fun ancestor =>
    (Entries.get? ancestor.members name).map fun m => (ancestor.name.id, m)

/-- The value that reading a name off the new class gives where only the classes
behind it have the name; nothing for a place in instances. -/
def value? (name : String) : Option Value :=
  match heritage.owned? name with
  | some (_, .constant v) => some v
  | some (_, .slot) | none => none
  | some (owner, m) => some (.member m.kind owner name)

/-- The abstract members that the new class leaves undefined, given its members. -/
def abstractNames (members : Entries String (Member Body)) : List String :=
  if heritage.metaclass.isWithin .abstractMeta then
    let isUndefined : Member Body → Bool := heritage.blueprint.isUndefined
    let own := (members.filter fun entry => isUndefined entry.2).map (·.1)
    let found? (name : String) : Option (Member Body) :=
      (Entries.get? members name).or ((heritage.owned? name).map (·.2))
    let inherited := heritage.bases.flatMap fun base =>
      (heritage.blueprint.info base).abstractNames.filter fun name =>
        (found? name).any isUndefined
    own ++ inherited
  else []

end Heritage

end ObjectMapping
