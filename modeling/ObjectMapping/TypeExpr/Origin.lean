import ObjectMapping.TypeExpr.Printer
import ObjectMapping.TypeExpr.Unwrapping

/-!
# Origins of types

What a type that is no class is built from: its origin, the arguments that the
origin is applied to, and the name and module that it goes by. A type under
annotations has that type as its origin.
-/

namespace ObjectMapping

/-- The name of a head that stands before its arguments. -/
def Head.name : Head → String
  | .container c => c.standardClass.className.name
  | .listAlias => SpecialForm.list.name
  | .dictAlias => SpecialForm.dict.name
  | .qualifier .mapped => StandardClass.mapped.className.name
  | .qualifier .required => SpecialForm.required.name
  | .qualifier .notRequired => SpecialForm.notRequired.name
  | .qualifier .classVar => SpecialForm.classVar.name
  | .qualifier .final => SpecialForm.final.name
  | .callable => SpecialForm.callable.name

namespace TypeExpr

/-- The module of the type language. -/
def formModule : String := StandardClass.annotated.className.module

/-- What a type is built from. -/
def origin? : TypeExpr → Option TypeExpr
  | .form .list => some (.standard .list)
  | .form .dict => some (.standard .dict)
  | .generic head _ => some head.bare
  | .union .brackets _ => some (.form .union)
  | .literal _ => some (.form .literal)
  | .annotated inner _ => some inner
  | _ => Option.none

/-- What the origin of a type is applied to. -/
def arguments? : TypeExpr → Option (List TypeExpr)
  | .generic _ arguments => some arguments
  | .union _ members => some members
  | .annotated inner _ => some [inner]
  | _ => Option.none

/-- The name that a type which is no class goes by. -/
def formName? : TypeExpr → Option String
  | .any => some "Any"
  | .form f => some f.name
  | .generic head _ => some head.name
  | .union .brackets members =>
      let isOptional := (optionalMember? members (members.map fun _ => "")).isSome
      some (if isOptional then SpecialForm.optional.name else SpecialForm.union.name)
  | .literal _ => some SpecialForm.literal.name
  | .annotated _ _ => some StandardClass.annotated.className.name
  | _ => Option.none

/-- The module that a type belongs to. Types that are built from a class belong
to the module of the class, unless the type language has a name of its own for
them. -/
def formModule? : TypeExpr → Option String
  | .named c => some c.module
  | .annotated inner _ => formModule? inner
  | .generic (.container c) _ => some c.standardClass.className.module
  | .generic (.qualifier .mapped) _ => some StandardClass.mapped.className.module
  | .any | .form _ | .generic _ _ | .union .brackets _ | .literal _ => some formModule
  | .union .bars _ => some StandardClass.barForm.className.module
  | .initOnly _ _ => some StandardClass.initOnlyForm.className.module
  | _ => Option.none

end TypeExpr

end ObjectMapping
