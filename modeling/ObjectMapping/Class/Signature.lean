import ObjectMapping.Class.Package

/-!
# Signatures

The parameters with which a class is called. They come from the first class of
the line that fills instances in a way of its own. Where that is the way of a
package, the package tells them, and it always does for a model. Some standard
classes keep their parameters to themselves.
-/

namespace ObjectMapping

namespace RecordField

/-- The field has a parameter in the constructor. -/
def isParameter (f : RecordField) : Bool :=
  f.accepted && f.kind != .classLevel

/-- The parameter for a field. -/
def parameter (f : RecordField) : Parameter where
  name := f.name
  kind := if f.nameOnly then .nameOnly else .standard
  default? := f.default?

end RecordField

/-- The parameters of a record: those by position come before those by name. -/
def RecordLayout.parameters (layout : RecordLayout) : List Parameter :=
  let accepted := layout.fields.filter (·.isParameter)
  (accepted.filter (!·.nameOnly) ++ accepted.filter (·.nameOnly)).map (·.parameter)

/-- The parameters of a constructor that takes anything. -/
def anyParameters : List Parameter :=
  [{ name := "args", kind := .rest }, { name := "kwargs", kind := .restByName }]

/-- The parameters of the standard classes that tell them; all are optional. -/
def StandardClass.parameters? : StandardClass → Option (List Parameter)
  | .object | .noneType | .list | .tuple | .float => some []
  | _ => none

namespace ClassTable

variable {β : Type} [Inhabited β]

/-- A way of filling instances with the class that declares it. -/
def declaring? (classes : ClassTable β) (c : ClassInfo β) :
    Initializer β → Option (ClassInfo β × Initializer β)
  | .like none => none
  | .like (some ancestor) =>
      let ancestor := classes.info ancestor
      ancestor.initializer?.map fun initializer => (ancestor, initializer)
  | initializer => some (c, initializer)

/-- The first way of filling instances along the line, with the class that
declares it. -/
def initializer? (classes : ClassTable β) (c : ClassId) :
    Option (ClassInfo β × Initializer β) :=
  let found? := (classes.line c).findSome? fun ancestor =>
    ancestor.initializer?.map fun initializer => (ancestor, initializer)
  found?.bind fun found => classes.declaring? found.1 found.2

/-- The first way of filling instances along the line that is not the
placeholder of an interface. -/
def actualInitializer? (classes : ClassTable β) (c : ClassId) :
    Option (ClassInfo β × Initializer β) :=
  let found? := (classes.line c).findSome? fun ancestor =>
    match ancestor.initializer? with
    | none | some .placeholder => none
    | some initializer => some (ancestor, initializer)
  found?.bind fun found => classes.declaring? found.1 found.2

/-- The parameters with which a class is called, when they can be told. -/
def parameters? [Packages] (classes : ClassTable Code) (c : ClassId) :
    Option (List Parameter) :=
  match c with
  | .standard s => s.parameters?
  | .declared _ =>
      if classes.isModel c then some (Packages.modelParameters classes c)
      else
        match classes.initializer? c with
        | none | some (_, .like _) => some []
        | some (_, .code parameters _) => some parameters
        | some (ancestor, .record) => ancestor.record?.map (·.parameters)
        | some (ancestor, .slotted) => ancestor.slotted?.map Packages.slottedParameters
        | some (_, .model) => some (Packages.modelParameters classes c)
        | some (_, .entity) => some Packages.entityParameters
        | some (_, .placeholder) => some anyParameters

end ClassTable

end ObjectMapping
