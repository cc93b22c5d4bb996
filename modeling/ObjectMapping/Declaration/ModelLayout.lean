import ObjectMapping.Declaration.Layout

/-!
# Layouts of models

What the names of a model amount to. Each annotation of the model and of the
classes behind it declares a field, unless it is one for the class itself or a
name that is kept apart. A model evaluates all these annotations anew, so that a
field may get its type from one class and its default from another; only what
has no value at all is taken over as a base of the model has it.
-/

namespace ObjectMapping

/-- The rest of a text behind a word at its start. -/
def behind? (word text : List Char) : Option (List Char) :=
  if word.isPrefixOf text then some (text.drop word.length) else none

/-- The text names a member of the class itself: the form for such members, with
something between brackets, behind one module at most. -/
def namesClassLevel (text : List Char) : Bool :=
  let form := "ClassVar[".toList
  (behind? form text).isSome ||
    (match text.dropWhile isWordCharacter with
     | '.' :: rest => text.head?.any isWordCharacter && (behind? form rest).isSome
     | _ => false)

/-- The text names a member of the class itself, under annotations or not. -/
def isClassLevelText (source : String) : Bool :=
  let text := source.toList
  let form := "Annotated[".toList
  let inside? := (behind? form text).or
    (match text.dropWhile isWordCharacter with
     | '.' :: rest => behind? form rest
     | _ => none)
  namesClassLevel text || (inside?.any namesClassLevel)

/-- A type that declares a member of the model class itself. -/
def isModelClassLevel : TypeExpr → Bool
  | .annotated inner _ => isModelClassLevel inner
  | .form .classVar | .generic (.qualifier .classVar) _ => true
  | .text _ source _ | .brokenText _ source _ => isClassLevelText source
  | _ => false

/-- What an annotation tells a model. -/
structure ModelHint where
  type : TypeExpr
  /-- Every text in the type has a meaning. -/
  isResolved : Bool
  /-- The model itself has the annotation. -/
  isOwn : Bool
  deriving Inhabited

/-- What an annotation tells while only the first classes are known. -/
def ModelHint.ofDeclared (known : Nat) (isOwn : Bool) (declared : TypeExpr) : ModelHint :=
  if declared.isResolvableAmong known then ⟨declared.withResolvedTexts, true, isOwn⟩
  else ⟨declared.asArgument, false, isOwn⟩

namespace ClassDeclaration

variable (d : ClassDeclaration) (heritage : Heritage) (constants : List (String × Value))
  (fields : List EvaluatedField)

/-- The annotations of the model and of all classes behind it, each name in the
place where it comes first. -/
def modelHints : Entries String ModelHint :=
  let known := heritage.blueprint.classes.size
  let inherited := heritage.ancestors.reverse.foldl
    (fun hints ancestor =>
      Entries.merge hints (ancestor.annotations.map fun entry =>
        (entry.1, ModelHint.ofDeclared known false entry.2)))
    []
  Entries.merge inherited (fields.filterMap fun e =>
    e.field.declared?.map fun declared =>
      (e.field.name, ModelHint.ofDeclared (known + 1) true declared))

/-- The fields of the bases; those of an earlier base count. -/
def baseFields : Entries String ModelField :=
  heritage.bases.reverse.foldl
    (fun found base =>
      match heritage.blueprint.modelLayout? base with
      | some layout => Entries.merge found (layout.fields.map fun f => (f.name, f))
      | none => found)
    []

/-- What the model itself assigns to a name. -/
def ownAssigned (name : String) : Assigned :=
  match fields.find? (·.field.name == name) with
  | some e => d.assigned constants e
  | none => d.assigned constants { field := { name := name }, default? := none }

/-- The default of a field: what the model itself assigns to the name, or else
what the classes behind it have under it. -/
def modelDefault? (name : String) : Option Default :=
  match d.ownAssigned constants fields name with
  | .options (some v) => some (.keyOrCopied v.value)
  | .options none => none
  | .nothing => (heritage.value? name).map .keyOrCopied
  | assigned => assigned.default? d.name.id name .keyOrCopied

/-- The field that an annotation declares. -/
def modelField (name : String) (hint : ModelHint) : ModelField :=
  let default? := d.modelDefault? heritage constants fields name
  match Entries.get? (baseFields heritage) name with
  | some inherited =>
      if hint.isOwn || default?.isSome then made default? else inherited
  | none => made default?
where
  /-- The field with its type and options taken anew. -/
  made (default? : Option Default) : ModelField :=
    let (core, final) := hint.type.fieldCore
    let isFrozen := fields.any fun e => e.field.name == name && e.field.isFrozen
    { name := name, type := core, default? := default?, isFrozen := isFrozen || final
      isResolved := hint.isResolved }

/-- The annotation declares a member of the class itself. A final member with a
value is one. -/
def isClassLevelHint (name : String) (hint : ModelHint) : Bool :=
  isModelClassLevel hint.type ||
    (hint.type.isFinal && (d.modelDefault? heritage constants fields name).isSome)

/-- Names that the model keeps apart, with their defaults, those of its bases
first. -/
def concealedNames (classLevel : List String) : Entries String (Option Default) :=
  let inherited := heritage.bases.foldl
    (fun found base =>
      match heritage.blueprint.modelLayout? base with
      | some layout => Entries.merge found layout.concealed
      | none => found)
    []
  let values := (fields.filterMap fun e => e.default?.map fun v => (e.field.name, v.value))
    ++ constants
  let assigned := (values.filter fun entry =>
    entry.1.startsWith "_" && !entry.1.startsWith "__").map fun entry =>
      (entry.1, some (Default.copied entry.2))
  let declared := (fields.filter fun e =>
    e.field.declared?.isSome && e.field.name.startsWith "_").map fun e =>
      (e.field.name, (none : Option Default))
  let own := Entries.mergeAbsent (Entries.ofList assigned) declared
  (Entries.merge inherited own).filter fun entry => !classLevel.contains entry.1

/-- The computed fields of a model, inherited ones first. -/
def computedFields : Entries String TypeExpr :=
  let inherited := heritage.ancestors.reverse.foldl
    (fun found ancestor =>
      match ancestor.model? with
      | some layout => Entries.merge found layout.computed
      | none => found)
    []
  Entries.merge inherited <| d.properties.filterMap fun p =>
    match p.isComputed, p.result? with
    | true, some result => some (p.name, result.withResolvedTexts)
    | _, _ => none

/-- Whether instances refuse changes: as the model says, or else as the last base
that says something. -/
def frozenModel? : Option Bool :=
  let inherited? := heritage.bases.foldl
    (fun found base =>
      match heritage.blueprint.modelLayout? base with
      | some layout => layout.isFrozen?.or found
      | none => found)
    none
  d.isFrozen?.or inherited?

/-- The layout of a model. -/
def modelLayout : ModelLayout :=
  let hints := modelHints heritage fields
  let isClassLevel := fun entry : String × ModelHint =>
    d.isClassLevelHint heritage constants fields entry.1 entry.2
  let inherited := heritage.bases.flatMap fun base =>
    ((heritage.blueprint.modelLayout? base).map (·.classLevel)).getD []
  let classLevel := inherited ++ (hints.filter isClassLevel).map (·.1)
  { fields := (hints.filter fun entry => !isClassLevel entry && !entry.1.startsWith "_").map
      fun entry => d.modelField heritage constants fields entry.1 entry.2
    isFrozen? := d.frozenModel? heritage
    computed := d.computedFields heritage
    concealed := concealedNames heritage constants fields classLevel
    classLevel := classLevel }

end ClassDeclaration

end ObjectMapping
