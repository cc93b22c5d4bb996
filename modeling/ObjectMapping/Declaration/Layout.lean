import ObjectMapping.Declaration.Heritage

/-!
# Layouts of records and slotted classes

What the fields of a declaration amount to, given the classes behind it.
Inherited fields come first. A record that declares a field again keeps the
field in its place; a slotted class moves it to its own.

Every class of the line contributes the fields that it has or inherits itself,
the least derived class first.
-/

namespace ObjectMapping

/-! ## Texts that stand for types -/

/-- A character that names are made of. -/
def isWordCharacter (c : Char) : Bool :=
  c.isAlphanum || c == '_' || c.toNat ≥ 0x80

/-- The name at the head of a text that stands for a type, when no module stands
before it. -/
def headName? (source : String) : Option String :=
  let chars := source.toList.dropWhile (·.isWhitespace)
  let first := chars.takeWhile isWordCharacter
  let rest := (chars.dropWhile isWordCharacter).dropWhile (·.isWhitespace)
  match rest with
  | '.' :: _ => none
  | _ => some (String.ofList first)

/-! ## Records -/

/-- The kind of field that a record declares with a type. Texts are judged by
the name at their head. -/
def RecordFieldKind.ofType : TypeExpr → RecordFieldKind
  | .form .classVar | .generic (.qualifier .classVar) _ => .classLevel
  | .initOnly _ _ => .initOnly
  | .text .free source _ | .brokenText .free source _ =>
      match headName? source with
      | some "ClassVar" => .classLevel
      | some "InitVar" => .initOnly
      | _ => .stored
  | _ => .stored

/-- Puts a field in the place of the one with its name. -/
def putNamed {α : Type} (name : α → String) (fields : List α) (f : α) : List α :=
  (Entries.put (fields.map fun g => (name g, g)) (name f) f).map (·.2)

namespace ClassDeclaration

variable (d : ClassDeclaration) (heritage : Heritage) (constants : List (String × Value))

/-- The field of a record that is declared. Without a default of its own it has
what the classes behind the record have under its name. -/
def recordField (e : EvaluatedField) (declared : TypeExpr) : RecordField :=
  let f := e.field
  let assigned := d.assigned constants e
  let default? :=
    match assigned with
    | .nothing => (heritage.value? f.name).map .shared
    | assigned => assigned.default? d.name.id f.name .shared
  let (accepted, nameOnly) :=
    match assigned with
    | .options _ => (f.accepted?.getD true, f.nameOnly?.getD d.nameOnly)
    | _ => (true, d.nameOnly)
  { name := f.name, kind := .ofType declared, declared := declared
    default? := default?, accepted := accepted, nameOnly := nameOnly }

/-- The fields that a record declares itself. -/
def ownRecordFields (fields : List EvaluatedField) : List RecordField :=
  fields.filterMap fun e => e.field.declared?.map (d.recordField heritage constants e)

/-- All fields of a record, inherited ones in their first place. -/
def recordFields (own : List RecordField) : List RecordField :=
  let inherited := heritage.line.reverse.foldl
    (fun fields ancestor =>
      match heritage.blueprint.recordLayout? ancestor with
      | some layout => layout.fields.foldl (putNamed (·.name)) fields
      | none => fields)
    []
  own.foldl (putNamed (·.name)) inherited

/-! ## Slotted classes -/

/-- The ways in which a text names the form for members of the class itself. -/
def classLevelSpellings : List String :=
  ["ClassVar", "typing.ClassVar", "t.ClassVar", "typing_extensions.ClassVar"]

/-- A text without the quotes around it. -/
def withoutQuotes (source : String) : String :=
  let isQuote (c : Char) : Bool := c == '\'' || c == '"'
  let chars := source.toList
  if (chars.head?.any isQuote) && (chars.getLast?.any isQuote) then
    String.ofList (chars.drop 1).dropLast
  else source

/-- A slotted class leaves a member of this type to the class itself. -/
def isLeftToClass : TypeExpr → Bool
  | .form .classVar | .generic (.qualifier .classVar) _ => true
  | .text .free source _ | .brokenText .free source _ =>
      classLevelSpellings.any fun form => (withoutQuotes source).startsWith form
  | _ => false

/-- The fields that a slotted class counts as its own. If something is said of a
field that has no type, or a type for the class itself, then only the fields
count of which something is said. -/
def countedFields (fields : List EvaluatedField) : List EvaluatedField :=
  let isTyped (e : EvaluatedField) : Bool := e.field.declared?.any (!isLeftToClass ·)
  let isDescribed (e : EvaluatedField) : Bool :=
    match d.assigned constants e with
    | .options _ => true
    | _ => false
  if fields.any fun e => isDescribed e && !isTyped e then fields.filter isDescribed
  else fields.filter isTyped

/-- The fields that a slotted class declares itself. -/
def ownSlottedFields (fields : List EvaluatedField) : List SlottedField :=
  (d.countedFields constants fields).map fun e =>
    let f := e.field
    let assigned := d.assigned constants e
    let (accepted, nameOnly) :=
      match assigned with
      | .options _ => (f.accepted?.getD true, f.nameOnly?.getD d.nameOnly)
      | _ => (true, d.nameOnly)
    { name := f.name, default? := assigned.default? d.name.id f.name .shared
      accepted := accepted, nameOnly := nameOnly }

/-- All fields of a slotted class, its own behind the inherited ones. Of the
inherited fields of one name the last one counts, in the last place. -/
def slottedFields (own : List SlottedField) : List SlottedField :=
  let inherited := heritage.line.reverse.flatMap fun ancestor =>
    match heritage.blueprint.slottedLayout? ancestor with
    | some layout => layout.fields.filter fun f =>
        !f.isInherited && !own.any (·.name == f.name)
    | none => []
  let last := inherited.foldr
    (fun f kept => if kept.any fun g => g.name == f.name then kept else f :: kept) []
  (last.map fun f => { f with isInherited := true }) ++ own

end ClassDeclaration

end ObjectMapping
