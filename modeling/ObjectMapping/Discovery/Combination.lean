import ObjectMapping.Class.Table
import ObjectMapping.TypeExpr.Printer

/-!
# Texts that combine what cannot be combined

A text that stands for a type may join things by bars that do not join, or apply
to arguments what takes none. Its parts are looked at from left to right and
from the inside out, and the first one that fails says why.
-/

namespace ObjectMapping

namespace Combination

/-- What a part of a text stands for, as far as combining depends on it. -/
inductive Part where
  | named (c : ClassName)
  | any
  | null
  /-- A container class with its arguments, by its written form. -/
  | container (written : String)
  /-- Several types joined by bars. -/
  | union
  /-- A form that combines with anything. -/
  | form
  /-- A constant, by the name of its class. -/
  | constant (className : String)
  deriving Inhabited

/-! ## Parts of texts -/

/-- The text without blanks around it. -/
def trimmed (text : List Char) : List Char :=
  ((text.dropWhile (·.isWhitespace)).reverse.dropWhile (·.isWhitespace)).reverse

/-- The parts of a text between the marks that stand outside of brackets and
quotes. The first arguments are the number of open brackets, the open quote and
the part so far, backwards. -/
def splitOutside (mark : Char) : Nat → Option Char → List Char → List Char → List (List Char)
  | _, _, part, [] => [part.reverse]
  | depth, some quote, part, c :: rest =>
      splitOutside mark depth (if c == quote then none else some quote) (c :: part) rest
  | depth, none, part, c :: rest =>
      if c == '\'' || c == '"' then splitOutside mark depth (some c) (c :: part) rest
      else if c == '[' || c == '(' then splitOutside mark (depth + 1) none (c :: part) rest
      else if c == ']' || c == ')' then splitOutside mark (depth - 1) none (c :: part) rest
      else if c == mark && depth == 0 then
        part.reverse :: splitOutside mark 0 none [] rest
      else splitOutside mark depth none (c :: part) rest

/-- The parts of a text between some mark. -/
def parts (mark : Char) (text : List Char) : List (List Char) :=
  (splitOutside mark 0 none [] text).map trimmed

/-- What stands between the first brackets of a text, and the rest behind them. -/
def bracketed? : List Char → Option (List Char × List Char)
  | '[' :: text => some (inside 0 [] text)
  | _ => none
where
  /-- Reads up to the bracket that closes, over brackets that open inside. -/
  inside : Nat → List Char → List Char → List Char × List Char
    | _, part, [] => (part.reverse, [])
    | 0, part, ']' :: rest => (part.reverse, rest)
    | depth + 1, part, ']' :: rest => inside depth (']' :: part) rest
    | depth, part, '[' :: rest => inside (depth + 1) ('[' :: part) rest
    | depth, part, c :: rest => inside depth (c :: part) rest

/-- The constant that a text writes, by the name of its class. -/
def constantClass? (text : List Char) : Option String :=
  match String.ofList text, text with
  | "True", _ | "False", _ => some "bool"
  | "...", _ => some "ellipsis"
  | _, c :: _ =>
      if c == '\'' || c == '"' then some "str"
      else if c == '[' then some "list"
      else if c == '\x7b' then some "dict"
      else if c == '(' then some "tuple"
      else if c.isDigit || c == '-' then
        some (if text.any fun d => d == '.' || d == 'e' then "float" else "int")
      else none
  | _, [] => none

/-! ## Combining -/

section

variable {β : Type} [Inhabited β] (classes : ClassTable β)

/-- What a name stands for. A name that is not known combines with anything. -/
def partNamed (name : String) : Part :=
  if name == "None" then .null
  else if name == "Any" then .any
  else
    match classes.classes.toList.find? (·.name.name == name),
      StandardClass.writable.find? (·.className.name == name) with
    | some c, _ => .named c.name
    | none, some s => .named s.className
    | none, none => .form

/-- The name of the class of what a part stands for. -/
def kindName : Part → String
  | .named c => (classes.info c.id).metaclass.className.name
  | .any => StandardClass.anyMeta.className.name
  | .null => StandardClass.noneType.className.name
  | .container _ => StandardClass.containerForm.className.written
  | .union => StandardClass.barForm.className.written
  | .form => StandardClass.appliedForm.className.name
  | .constant name => name

/-- A bar joins the part with another type. -/
def isJoinable : Part → Bool
  | .named _ | .any | .container _ | .union => true
  | _ => false

/-- The name of a class where it cannot take arguments. -/
def nameAlone (c : ClassName) : String :=
  match c.id with
  | .standard .decimal | .standard .date | .standard .datetime | .standard .timedelta => c.written
  | _ => c.name

/-- Joins two parts by a bar. -/
def join (left right : Part) : Except String Part :=
  match left, right with
  | .form, _ | _, .form => .ok .form
  | .named c, .named c' => .ok (if c.id == c'.id then left else .union)
  | _, _ =>
      let isNull (p : Part) : Bool := p matches .null
      if (isJoinable left && (isJoinable right || isNull right)) ||
          (isNull left && isJoinable right) then .ok .union
      else
        .error ("unsupported operand type(s) for |: '" ++ kindName classes left ++ "' and '" ++
          kindName classes right ++ "'")

/-- Applies a part to arguments, which are given as they are written. -/
def applyTo (inside : String) : Part → Except String Part
  | .named c =>
      let info := classes.info c.id
      let quoted := TypeExpr.writtenAsValue (.named c)
      match c.id with
      | .standard .list | .standard .dict | .standard .set | .standard .tuple
      | .standard .frozenset | .standard .type => .ok (.container (bracketed c.written [inside]))
      | .standard .mapped | .standard .annotated => .ok .form
      | _ =>
          if info.model?.isSome then
            .error (quoted ++
              " cannot be parametrized because it does not inherit from typing.Generic")
          else if info.isInterface || (info.entity?.any (·.isInherited)) then
            .error (quoted ++ " is not a generic class")
          else .error ("type '" ++ nameAlone c ++ "' is not subscriptable")
  | .any => .error "type 'Any' is not subscriptable"
  | .container written => .error (written ++ " is not a generic class")
  | .union | .form | .constant "str" => .ok .form
  | p => .error ("'" ++ kindName classes p ++ "' object is not subscriptable")

/-- Joins what the parts of a text stand for, from left to right. -/
def joinAll (read : List Char → Except String Part) :
    Option Part → List (List Char) → Except String Part
  | found?, [] => .ok (found?.getD .form)
  | found?, text :: rest => do
      let next ← read text
      let joined ← match found? with
        | none => pure next
        | some found => join classes found next
      joinAll read (some joined) rest

/-- Applies a part to everything that stands between brackets behind it. What
stands inside is read first. The number bounds the pairs of brackets. -/
def applyAll (read : List Char → Except String Part) :
    Nat → Part → List Char → Except String Part
  | 0, p, _ => .ok p
  | steps + 1, p, text =>
      match bracketed? text with
      | none => .ok p
      | some (inside, rest) => do
          (parts ',' inside).forM fun argument => discard (read argument)
          applyAll read steps (← applyTo classes (String.ofList inside) p) rest

/-- Reads a text, to a depth of brackets. -/
def read : Nat → List Char → Except String Part
  | 0, _ => .ok .form
  | depth + 1, text =>
      joinAll classes (fun operand => readOperand (read depth) operand) none (parts '|' text)
where
  /-- Reads a part without bars outside of brackets. -/
  readOperand (readInside : List Char → Except String Part) (text : List Char) :
      Except String Part :=
    match text with
    | '(' :: rest =>
        if (parts ',' rest.dropLast).length == 1 then readInside rest.dropLast
        else .ok (.constant "tuple")
    | _ =>
        match constantClass? text with
        | some name => .ok (.constant name)
        | none =>
            let isPartOfName (c : Char) : Bool := c != '[' && !c.isWhitespace
            let name := String.ofList (text.takeWhile isPartOfName)
            let behind := trimmed (text.dropWhile isPartOfName)
            applyAll classes readInside behind.length (partNamed classes name) behind

end

end Combination

/-- The text that says why a text does not resolve. -/
def EvaluationError.message {β : Type} [Inhabited β] (classes : ClassTable β) :
    EvaluationError → String
  | .unboundName name => "name '" ++ name ++ "' is not defined"
  | .invalidOperation source =>
      match Combination.read classes (source.length + 1) source.toList with
      | .error text => text
      | .ok _ => "invalid operation"
  | .malformed => "invalid syntax"
  | .missingAttribute => "no such attribute"

end ObjectMapping
