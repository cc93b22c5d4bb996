import ObjectMapping.Declaration.Layout

/-!
# Layouts of entities

The columns of an entity: texts put together from columns, then inherited
columns, then its own. A column that is declared again keeps its place. What
refers to other entities is no column; it is a list where many of them belong
to one.
-/

namespace ObjectMapping

/-- The columns that an entity declares itself. -/
def ownColumns (fields : List FieldDeclaration) : List EntityColumn :=
  fields.filterMap fun f =>
    match f.storage with
    | .column (some type) => some { name := f.name, native? := type.native? }
    | .column none =>
        if (f.declared?.map RecordFieldKind.ofType) == some .classLevel then none
        else some { name := f.name, native? := none }
    | _ => none

/-- The texts that an entity puts together from its columns. -/
def ownConcatenations (fields : List FieldDeclaration) : List EntityColumn :=
  fields.filterMap fun f =>
    match f.storage with
    | .concatenation => some { name := f.name, native? := some (.standard .str) }
    | _ => none

/-- The name of the table of a class. -/
def tableName (c : ClassName) : String :=
  String.ofList (c.name.toList.map Char.toLower)

/-- A type of which a mapped attribute holds many values. -/
def holdsMany : TypeExpr → Bool
  | .generic (.qualifier .mapped) [inner] => holdsMany inner
  | .text _ _ meaning => holdsMany meaning
  | .annotated inner _ => holdsMany inner
  | .generic (.container .list) _ | .generic .listAlias _ | .form .list => true
  | _ => false

namespace ClassDeclaration

variable (d : ClassDeclaration)

/-- A reference to other entities is a list: its type says so, or, without a type,
no column of the entity itself refers to the table of the others. -/
def isCollection (f : FieldDeclaration) (target : ClassName) : Bool :=
  match f.declared? with
  | some declared => holdsMany declared
  | none =>
      target.id == d.name.id ||
        !d.fields.any fun column =>
          (column.refersTo?.map fun place => (place.splitOn ".").headD "") ==
            some (tableName target)

/-- The members that stand for mapped attributes. -/
def mappedMembers : Entries String (Member Body) :=
  let columns := ownConcatenations d.fields ++ ownColumns d.fields
  columns.map (fun column => (column.name, Member.column)) ++
    d.fields.filterMap fun f =>
      match f.storage with
      | .relation target =>
          some (f.name, if d.isCollection f target then Member.collection else .column)
      | _ => none

/-- The layout of an entity. -/
def entityLayout (heritage : Heritage) : EntityLayout :=
  let inherited := (heritage.ancestors.findSome? (·.entity?)).elim [] (·.columns)
  let concatenations := ownConcatenations d.fields
  let kept := inherited.filter fun c => !concatenations.any (·.name == c.name)
  { columns := concatenations ++ (ownColumns d.fields).foldl (putNamed (·.name)) kept
    isInherited := true }

/-- The layout of a plain class that is mapped to a table. -/
def mappedLayout : EntityLayout where
  columns := d.columns.map fun column => { name := column.1, native? := column.2.native? }
  isInherited := false

end ClassDeclaration

end ObjectMapping
