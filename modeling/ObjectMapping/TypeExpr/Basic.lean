/-!
# Type expressions

The types that a property can be declared with: classes, their subscripted
forms, unions, annotated types, literals, and texts that stand for a type which
is resolved later. A class is known by an identity of its own; its names only
say how it is written. Two classes with the same names stay different.
-/

namespace ObjectMapping

/-- A plain constant that annotations and literal types carry. -/
inductive Scalar where
  | null
  | bool (value : Bool)
  | int (value : Int)
  | str (value : String)
  deriving DecidableEq, Repr, Inhabited

namespace Scalar

/-- The number that a truth value counts as, or the number itself. -/
def number? : Scalar → Option Int
  | .bool value => some (if value then 1 else 0)
  | .int value => some value
  | _ => none

/-- Equality of constants as values: a truth value equals the number it counts
as, and all else equals only itself. -/
def agrees (left right : Scalar) : Bool :=
  match left.number?, right.number? with
  | some m, some n => m == n
  | _, _ => left == right

end Scalar

/-- The classes that every program has. -/
inductive StandardClass where
  | object | type | noneType | bool | int | float | str | bytes
  | list | dict | set | tuple | frozenset | range
  | uuid | decimal | date | datetime | timedelta
  | mapped | annotated | property | function
  /-- The class from which classes that keep account of abstract members derive. -/
  | abstractBase
  /-- The class from which interfaces derive. -/
  | interfaceBase
  /-- The class behind it, from which classes with type parameters derive. -/
  | genericBase
  /-- The class from which models derive. -/
  | modelBase
  /-- The class from which entities derive. -/
  | entityBase
  /-- The classes whose instances are classes of these lines, and the class of
  the type of all values. -/
  | abstractMeta | interfaceMeta | modelMeta | entityMeta | anyMeta
  /-- The classes of types that are no classes. -/
  | containerForm | barForm | appliedForm | unionForm | literalForm | annotatedForm
  | functionForm | aliasForm | bareForm | bareLiteralForm | typeVariable | initOnlyForm
  /-- The classes of members of a class themselves. -/
  | slotMember | computedMember | code | boundCode | methodMember | mappedMember
  deriving DecidableEq, Repr, Inhabited

/-- The identity of a class: a standard one, or the one declared at a position. -/
inductive ClassId where
  | standard (name : StandardClass)
  | declared (index : Nat)
  deriving DecidableEq, Repr, Inhabited

/-- A class together with the names that it is written by. -/
structure ClassName where
  id : ClassId
  /-- The module that the class belongs to. -/
  module : String
  /-- The name without any enclosing scope. -/
  name : String
  /-- The name with its enclosing scopes. -/
  qualname : String
  deriving DecidableEq, Repr, Inhabited

/-- The module of the classes that are written without one. -/
def builtinModule : String := "builtins"

namespace StandardClass

/-- The module and the name of a standard class. -/
def names : StandardClass → String × String
  | .object => (builtinModule, "object")
  | .type => (builtinModule, "type")
  | .noneType => (builtinModule, "NoneType")
  | .bool => (builtinModule, "bool")
  | .int => (builtinModule, "int")
  | .float => (builtinModule, "float")
  | .str => (builtinModule, "str")
  | .bytes => (builtinModule, "bytes")
  | .list => (builtinModule, "list")
  | .dict => (builtinModule, "dict")
  | .set => (builtinModule, "set")
  | .tuple => (builtinModule, "tuple")
  | .frozenset => (builtinModule, "frozenset")
  | .range => (builtinModule, "range")
  | .uuid => ("uuid", "UUID")
  | .decimal => ("decimal", "Decimal")
  | .date => ("datetime", "date")
  | .datetime => ("datetime", "datetime")
  | .timedelta => ("datetime", "timedelta")
  | .mapped => ("sqlalchemy.orm.base", "Mapped")
  | .annotated => ("typing", "Annotated")
  | .property => (builtinModule, "property")
  | .function => (builtinModule, "builtin_function_or_method")
  | .abstractBase => ("abc", "ABC")
  | .interfaceBase => ("typing", "Protocol")
  | .genericBase => ("typing", "Generic")
  | .modelBase => ("pydantic.main", "BaseModel")
  | .entityBase => ("models", "Base")
  | .abstractMeta => ("abc", "ABCMeta")
  | .interfaceMeta => ("typing", "_ProtocolMeta")
  | .modelMeta => ("pydantic._internal._model_construction", "ModelMetaclass")
  | .entityMeta => ("sqlalchemy.orm.decl_api", "DeclarativeAttributeIntercept")
  | .anyMeta => ("typing", "_AnyMeta")
  | .containerForm => ("types", "GenericAlias")
  | .barForm => ("types", "UnionType")
  | .appliedForm => ("typing", "_GenericAlias")
  | .unionForm => ("typing", "_UnionGenericAlias")
  | .literalForm => ("typing", "_LiteralGenericAlias")
  | .annotatedForm => ("typing", "_AnnotatedAlias")
  | .functionForm => ("typing", "_CallableGenericAlias")
  | .aliasForm => ("typing", "_SpecialGenericAlias")
  | .bareForm => ("typing", "_SpecialForm")
  | .bareLiteralForm => ("typing", "_LiteralSpecialForm")
  | .typeVariable => ("typing", "TypeVar")
  | .initOnlyForm => ("dataclasses", "InitVar")
  | .slotMember => (builtinModule, "member_descriptor")
  | .computedMember => (builtinModule, "getset_descriptor")
  | .code => (builtinModule, "function")
  | .boundCode => (builtinModule, "method")
  | .methodMember => (builtinModule, "method_descriptor")
  | .mappedMember => ("sqlalchemy.orm.attributes", "InstrumentedAttribute")

/-- The classes that a type can be written with. -/
def writable : List StandardClass :=
  [.int, .str, .bool, .float, .bytes, .object, .list, .dict, .set, .tuple, .frozenset, .type,
   .range, .noneType, .uuid, .decimal, .date, .datetime, .timedelta, .mapped, .annotated]

/-- The names of a standard class; it has no enclosing scope. -/
def className (c : StandardClass) : ClassName :=
  { id := .standard c, module := c.names.1, name := c.names.2, qualname := c.names.2 }

end StandardClass

/-- The special forms of the type language when they stand alone. -/
inductive SpecialForm where
  | classVar | final | required | notRequired | optional | union | literal | list | dict
  | callable
  deriving DecidableEq, Repr, Inhabited

/-- The classes that can be subscripted directly. -/
inductive Container where
  | list | dict | set | tuple | frozenset | type
  deriving DecidableEq, Repr, Inhabited

/-- The class of the values that a container type describes. -/
def Container.standardClass : Container → StandardClass
  | .list => .list
  | .dict => .dict
  | .set => .set
  | .tuple => .tuple
  | .frozenset => .frozenset
  | .type => .type

/-- Wrappers that say something about a declaration and leave its type alone. -/
inductive Qualifier where
  | mapped | required | notRequired | classVar | final
  deriving DecidableEq, Repr, Inhabited

/-- What a subscripted form applies to its arguments. -/
inductive Head where
  | container (container : Container)
  /-- The capitalised spelling of a list type. -/
  | listAlias
  /-- The capitalised spelling of a dictionary type. -/
  | dictAlias
  | qualifier (qualifier : Qualifier)
  /-- A function type: its parameter types, then its result type. -/
  | callable
  deriving DecidableEq, Repr, Inhabited

/-- The two ways to spell a union. -/
inductive UnionSpelling where
  /-- Members joined by bars. -/
  | bars
  /-- Members between brackets. -/
  | brackets
  deriving DecidableEq, Repr, Inhabited

/-- Where a text that stands for a type occurs. -/
inductive TextPlace where
  /-- As an annotation of its own, or directly inside a container. -/
  | free
  /-- As an argument of a form of the type language. -/
  | argument
  /-- As the type under annotations, where class-level forms are allowed. -/
  | annotated
  deriving DecidableEq, Repr, Inhabited

/-- Why a text cannot be resolved to a type. -/
inductive EvaluationError where
  | unboundName (name : String)
  /-- The text combines things that cannot be combined. -/
  | invalidOperation (text : String)
  /-- The text is not well formed. -/
  | malformed
  | missingAttribute
  deriving DecidableEq, Repr, Inhabited

/-- A text that does not resolve for one of these reasons may resolve in
another scope, so that it can stand for itself. -/
def EvaluationError.isTolerated : EvaluationError → Bool
  | .unboundName _ | .invalidOperation _ => true
  | .malformed | .missingAttribute => false

/-- A type expression. -/
inductive TypeExpr where
  | named (className : ClassName)
  /-- The type of all values, which no other type equals. -/
  | any
  /-- The null value in the place of a type. -/
  | none
  | ellipsis
  | form (form : SpecialForm)
  | generic (head : Head) (arguments : List TypeExpr)
  | union (spelling : UnionSpelling) (members : List TypeExpr)
  | annotated (inner : TypeExpr) (metadata : List Scalar)
  | literal (values : List Scalar)
  | typeVar (name : String)
  /-- A parameter of a constructor that is not stored. Each occurrence is a
  type of its own, told apart by its mark. -/
  | initOnly (mark : Nat) (inner : TypeExpr)
  /-- A text that resolves to a type. -/
  | text (place : TextPlace) (source : String) (meaning : TypeExpr)
  /-- A text that does not resolve. -/
  | brokenText (place : TextPlace) (source : String) (error : EvaluationError)
  /-- Something that is no type at all, by its written form. -/
  | other (written : String)
  deriving Repr, Inhabited

namespace TypeExpr

/-- The type of a standard class. -/
def standard (c : StandardClass) : TypeExpr :=
  .named c.className

/-- The class whose only value is null. -/
def noneType : TypeExpr :=
  standard .noneType

/-- The class of a type that is no class itself. -/
def formClass : TypeExpr → StandardClass
  | .named _ => .type
  | .any => .anyMeta
  | .none => .noneType
  | .ellipsis | .other _ => .object
  | .form .list | .form .dict | .form .callable => .aliasForm
  | .form .literal => .bareLiteralForm
  | .form _ => .bareForm
  | .generic (.container _) _ => .containerForm
  | .generic .callable _ => .functionForm
  | .generic _ _ => .appliedForm
  | .union .bars _ => .barForm
  | .union .brackets _ => .unionForm
  | .annotated _ _ => .annotatedForm
  | .literal _ => .literalForm
  | .typeVar _ => .typeVariable
  | .initOnly _ _ => .initOnlyForm
  | .text _ _ _ | .brokenText _ _ _ => .str

/-- Classes, and the type of all values, are classes. -/
def isClass : TypeExpr → Bool
  | .named _ | .any => true
  | _ => false

end TypeExpr

end ObjectMapping
