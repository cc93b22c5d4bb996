import ObjectMapping.Class.Instantiation
import ObjectMapping.Class.Showing

/-!
# Scripts

The small language in which the code of classes, readers and custom mappings is
written: expressions over variables, statements that change objects, and bodies
made of both. An expression is evaluated from left to right, and each evaluation
makes its containers anew, while a constant is one value for all evaluations.
-/

namespace ObjectMapping

/-- An expression. -/
inductive Expression where
  | constant (value : Value)
  /-- A floating number, by the text that writes it. -/
  | float (text : String)
  /-- Bytes, by the text of their hexadecimal digits. -/
  | bytes (text : String)
  /-- A type that each evaluation makes anew. -/
  | type (type : TypeExpr)
  | list (items : List Expression)
  | tuple (items : List Expression)
  | dict (entries : List (Expression × Expression))
  | variable (name : String)
  | attribute (subject : Expression) (name : String)
  | item (subject key : Expression)
  /-- Joins numbers, texts or lists from left to right. -/
  | sum (items : List Expression)
  | product (items : List Expression)
  | length (subject : Expression)
  /-- Leaves a trace of the first value and gives the second. -/
  | traced (shown result : Expression)
  | raise (kind text : String)
  /-- Calls a type, then sets attributes of the result. -/
  | create (type : TypeExpr) (positional : List Expression)
      (named : List (String × Expression)) (attributes : List (String × Expression))
  /-- A shallow copy with one attribute stored past all guards. -/
  | copyWith (subject name value : Expression)
  deriving Inhabited

/-- A statement. -/
inductive Statement where
  | set (subject : Expression) (name : String) (value : Expression)
  /-- Stores an attribute past all guards. -/
  | force (subject : Expression) (name : String) (value : Expression)
  | append (subject value : Expression)
  | put (subject key value : Expression)
  | trace (value : Expression)
  | raise (kind text : String)
  deriving Inhabited

/-- Statements, then an expression for the result. -/
structure Script where
  statements : List Statement := []
  result : Expression := .constant .null
  deriving Inhabited

/-- The code of a class as it is written. -/
inductive Body where
  /-- A script over named parameters. -/
  | script (parameters : List String) (script : Script)
  /-- Reads an attribute of an attribute, for each name in turn. -/
  | path (names : List String)
  deriving Inhabited

/-- Names and what they stand for. -/
abbrev Environment := Entries String Value

end ObjectMapping
