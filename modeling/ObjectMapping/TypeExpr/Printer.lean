import ObjectMapping.TypeExpr.Basic
import ObjectMapping.Text.Quoted

/-!
# The written form of a type

A class that stands alone is written by its qualified name. Everything else is
written out in full, with classes inside by module and qualified name and the
forms of the type language by their own module; then every mention of that
module is struck from the text, wherever it stands.
-/

namespace ObjectMapping

/-- A constant as it is written inside a type. -/
def Scalar.written : Scalar → String
  | .null => "None"
  | .bool true => "True"
  | .bool false => "False"
  | .int value => toString value
  | .str value => Text.quoted value

/-- A class as it is written inside a type: standard classes of the language
itself without their module. -/
def ClassName.written (c : ClassName) : String :=
  if c.module == builtinModule then c.qualname else c.module ++ "." ++ c.qualname

/-- The module of the type language, with the dot behind it. -/
def typeModule : List Char := "typing.".toList

/-- A text without any occurrence of a word, sought from left to right; what is
left is not searched again. The first argument counts the characters that are
still to be dropped of an occurrence. -/
def strikeFrom (word : List Char) : Nat → List Char → List Char
  | _, [] => []
  | skip + 1, _ :: rest => strikeFrom word skip rest
  | 0, c :: rest =>
      if word.isPrefixOf (c :: rest) && !word.isEmpty then
        strikeFrom word (word.length - 1) rest
      else
        c :: strikeFrom word 0 rest

/-- A text without any occurrence of a word. -/
def strike (word : List Char) (text : String) : String :=
  String.ofList (strikeFrom word 0 text.toList)

/-- A special form under the name that it is written by. -/
def SpecialForm.name : SpecialForm → String
  | .classVar => "ClassVar"
  | .final => "Final"
  | .required => "Required"
  | .notRequired => "NotRequired"
  | .optional => "Optional"
  | .union => "Union"
  | .literal => "Literal"
  | .list => "List"
  | .dict => "Dict"
  | .callable => "Callable"

/-- A name of the type language in full. -/
def inTypeModule (name : String) : String :=
  String.ofList typeModule ++ name

/-- A qualifier as it is written before its argument. -/
def Qualifier.written : Qualifier → String
  | .mapped => StandardClass.mapped.className.written
  | .required => inTypeModule "Required"
  | .notRequired => inTypeModule "NotRequired"
  | .classVar => inTypeModule "ClassVar"
  | .final => inTypeModule "Final"

/-- Written arguments between brackets; no arguments show as an empty pair of
parentheses. -/
def bracketed (head : String) (arguments : List String) : String :=
  head ++ "[" ++ (if arguments.isEmpty then "()" else ", ".intercalate arguments) ++ "]"

/-- A head with its written arguments; a function type lists its parameters apart. -/
def Head.written (head : Head) (arguments : List String) (takesAnything : Bool) : String :=
  match head with
  | .container c => bracketed c.standardClass.className.written arguments
  | .listAlias => bracketed (inTypeModule "List") arguments
  | .dictAlias => bracketed (inTypeModule "Dict") arguments
  | .qualifier q => bracketed q.written arguments
  | .callable =>
      if takesAnything then
        bracketed (inTypeModule "Callable") arguments
      else
        bracketed (inTypeModule "Callable")
          ["[" ++ ", ".intercalate arguments.dropLast ++ "]", arguments.getLastD ""]

namespace TypeExpr

/-- The arguments of a function type say that any parameters will do. -/
def takesAnything : List TypeExpr → Bool
  | [.ellipsis, _] => true
  | _ => false

/-- Some member of a union is the class of null. -/
def isNoneType (t : TypeExpr) : Bool :=
  match t with
  | .named c => c.id == .standard .noneType
  | _ => false

/-- The place of null in a union between brackets that has one other member. -/
def optionalMember? (members : List TypeExpr) (written : List String) : Option String :=
  match members, written with
  | [first, second], [w, w'] =>
      if second.isNoneType then some w else if first.isNoneType then some w' else Option.none
  | _, _ => Option.none

mutual

/-- A type written out in full. -/
def full : TypeExpr → String
  | .named c => c.written
  | .any => inTypeModule "Any"
  | .none => "None"
  | .ellipsis => "..."
  | .form f => inTypeModule f.name
  | .generic head arguments => head.written (fullAll arguments) (takesAnything arguments)
  | .union .bars members => " | ".intercalate (fullMembers members)
  | .union .brackets members =>
      let written := fullAll members
      match optionalMember? members written with
      | some w => bracketed (inTypeModule "Optional") [w]
      | Option.none => bracketed (inTypeModule "Union") written
  | .annotated inner metadata =>
      bracketed (inTypeModule "Annotated") (full inner :: metadata.map Scalar.written)
  | .literal values => bracketed (inTypeModule "Literal") (values.map Scalar.written)
  | .typeVar name => "~" ++ name
  | .initOnly _ (.named c) => bracketed "dataclasses.InitVar" [c.name]
  | .initOnly _ .any => bracketed "dataclasses.InitVar" ["Any"]
  | .initOnly _ inner => bracketed "dataclasses.InitVar" [full inner]
  | .text .free source _ => Text.quoted source
  | .text _ source _ => "ForwardRef(" ++ Text.quoted source ++ ")"
  | .brokenText .free source _ => Text.quoted source
  | .brokenText _ source _ => "ForwardRef(" ++ Text.quoted source ++ ")"
  | .other written => written
termination_by structural t => t

/-- A list of types, each written out in full. -/
def fullAll : List TypeExpr → List String
  | [] => []
  | first :: rest => full first :: fullAll rest

/-- Members joined by bars, where the class of null is written as null. -/
def fullMembers : List TypeExpr → List String
  | [] => []
  | first :: rest => (if first.isNoneType then "None" else full first) :: fullMembers rest

end

/-- A type as a value among others, where a class is marked as one. -/
def writtenAsValue (t : TypeExpr) : String :=
  match t with
  | .named c => "<class '" ++ c.written ++ "'>"
  | _ => full t

/-- The text of a type in messages and descriptions. -/
def written (t : TypeExpr) : String :=
  match t with
  | .named c => c.qualname
  | .any => "Any"
  | _ => strike typeModule (full t)

end TypeExpr

end ObjectMapping
