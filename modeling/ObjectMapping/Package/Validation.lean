import ObjectMapping.Class.Conversion
import ObjectMapping.Class.Completeness

/-!
# Fitting values to types

A model takes a value for a field only if it fits the declared type, and what it
stores is the value as it fits. A value of the type itself stays as it is, apart
from containers, which are made anew. Other values may fit after a conversion:
a text that writes a number is a number, and a list is a tuple.

Of the members of a union the one that a value fits most closely counts, and of
several the first. A value that is made from fields is measured by the number
of fields that it was given.
-/

namespace ObjectMapping

/-- How closely a value fits a type. -/
inductive Closeness where
  /-- After a conversion. -/
  | converted
  /-- As a value of a narrower type. -/
  | kindred
  | exact
  deriving DecidableEq, Repr, Inhabited

namespace Closeness

/-- The order of closeness. -/
def rank : Closeness → Nat
  | .converted => 0
  | .kindred => 1
  | .exact => 2

/-- The less close one of two. -/
def least (left right : Closeness) : Closeness :=
  if left.rank ≤ right.rank then left else right

end Closeness

/-- A value as it fits a type. -/
structure Fit where
  value : Value
  closeness : Closeness := .exact
  /-- The number of fields that were given, when the value is made from fields. -/
  given? : Option Nat := none
  deriving Inhabited

namespace Fit

/-- The sum of two counts that may be missing. -/
def addCounts : Option Nat → Option Nat → Option Nat
  | some m, some n => some (m + n)
  | count?, none => count?
  | none, count? => count?

/-- A value that is made of parts fits as closely as all of them do. -/
def ofParts (value : Value) (closeness : Closeness) (parts : List Fit) : Fit where
  value := value
  closeness := parts.foldl (fun found part => found.least part.closeness) closeness
  given? := parts.foldl (fun found part => addCounts found part.given?) none

/-- A fit is better than an earlier one: more fields were given, or as many and
it is closer. -/
def isBetterThan (fit earlier : Fit) : Bool :=
  match earlier.given?, fit.given? with
  | some m, some n => if m == n then earlier.closeness.rank < fit.closeness.rank else m < n
  | _, _ => earlier.closeness.rank < fit.closeness.rank

/-- No other fit can be better. -/
def isBest (fit : Fit) : Bool :=
  fit.closeness == .exact && fit.given?.isNone

end Fit

/-! ## Plain values -/

/-- The value does not fit. -/
def refused {α : Type} : Run α :=
  throw .invalidModel

/-- The outcome of a conversion that may not apply. -/
def convertedTo (made? : Option (Making → Value)) : Run Fit :=
  match made? with
  | some make => return { value := ← Run.make make, closeness := .converted }
  | none => refused

/-- The text that a value is, or that bytes encode. -/
def textOf? : Value → Option String
  | .str s _ => some s
  | .bytes digits _ => decodedText? digits
  | _ => none

/-- A whole number in the range that floating numbers are converted to. -/
def inWordRange (n : Int) : Bool :=
  -(Int.pow 2 63) < n && n < Int.pow 2 63

/-- The whole number that a value fits as, when it is none. -/
def convertedNumber? (v : Value) : Option Int :=
  match textOf? v, v with
  | some s, _ => wholeNumberWithPoint? s
  | none, .bool value => some (if value then 1 else 0)
  | none, .float x _ => x.toInt?.filter inWordRange
  | none, .standard .decimal _ _ => v.decimal?.bind Decimal.toInt?
  | none, _ => none

/-- Fits a value as a whole number. -/
def fitWholeNumber (v : Value) : Run Fit :=
  match v with
  | .int _ _ => return { value := v }
  | v => convertedTo ((convertedNumber? v).map Value.int)

/-- Fits a value as a floating number. -/
def fitFloating (v : Value) : Run Fit :=
  match textOf? v, v with
  | some s, _ => convertedTo ((Floating.read? s).map Value.float)
  | none, .float _ _ => return { value := v }
  | none, .bool value =>
      convertedTo (some (.float (Floating.ofInt (if value then 1 else 0))))
  | none, .int n _ =>
      match Floating.ofInt n with
      | .infinite _ => refused
      | x => return { value := ← Run.make (.float x), closeness := .kindred }
  | none, .standard .decimal _ _ =>
      match v.decimal?.bind Decimal.toFloating? with
      | some x => return { value := ← Run.make (.float x), closeness := .kindred }
      | none => refused
  | none, _ => refused

/-- The truth values that texts write. -/
def truthTexts : List (String × Bool) :=
  [("0", false), ("f", false), ("n", false), ("no", false), ("off", false), ("false", false),
   ("1", true), ("t", true), ("y", true), ("yes", true), ("on", true), ("true", true)]

/-- Fits a value as a truth value. -/
def fitTruth (v : Value) : Run Fit :=
  let ofNumber? : Int → Option Bool
    | 0 => some false
    | 1 => some true
    | _ => none
  let found? : Option Bool :=
    match textOf? v with
    | some s => truthTexts.lookup (String.ofList (s.toList.map Char.toLower))
    | none => v.wholeNumber?.bind ofNumber?
  match v, found? with
  | .bool _, _ => return { value := v }
  | _, some value => return { value := .bool value, closeness := .converted }
  | _, none => refused

/-- Fits a value as a text. -/
def fitText (v : Value) : Run Fit :=
  match v with
  | .str _ _ => return { value := v }
  | v => convertedTo ((textOf? v).map Value.str)

/-- Fits a value as bytes. -/
def fitBytes (v : Value) : Run Fit :=
  match v with
  | .bytes _ _ => return { value := v }
  | .str s _ => convertedTo (some (.bytes (encodedText s)))
  | _ => refused

/-- A value of a standard class from its parts. -/
def ofParts? (c : StandardClass) (parts? : Option (List Int)) : Option (Making → Value) :=
  parts?.map fun parts => .standard c (parts.map .number)

/-- The identifier that bytes make up. -/
def identifierOfBytes? : Value → Option Nat
  | .bytes digits _ => Identifier.ofDigits? digits.toList
  | _ => none

/-- The value of a standard class that another value converts to. -/
def convertedValue? (c : StandardClass) (v : Value) : Option (Making → Value) :=
  match c, textOf? v, v with
  | .date, some s, _ => ofParts? .date (Calendar.date? s)
  | .date, none, .standard .datetime parts _ =>
      if (parts.drop 3).all (·.agrees (.number 0)) then some (.standard .date (parts.take 3))
      else none
  | .datetime, some s, _ => ofParts? .datetime (Calendar.moment? s)
  | .datetime, none, .standard .date parts _ =>
      some (.standard .datetime (parts ++ List.replicate 4 (.number 0)))
  | .timedelta, none, .int n _ => ofParts? .timedelta (Calendar.span? 0 n 0)
  | .uuid, written?, v =>
      let found? := (written?.bind Identifier.ofForm?).or (identifierOfBytes? v)
      ofParts? .uuid (found?.map fun n => [(n : Int)])
  | .decimal, some s, _ => ((Decimal.read? s).filter Decimal.isFinite).map ofDecimal
  | .decimal, none, .int n _ => some (ofDecimal (Decimal.ofInt n))
  | .decimal, none, .float x _ =>
      ((Decimal.read? x.written).filter Decimal.isFinite).map ofDecimal
  | _, _, _ => none

/-- Fits a value as one of a literal type. -/
def fitLiteral (values : List Scalar) (v : Value) : Run Fit :=
  let isIt : Scalar → Bool
    | .null => (v matches .null)
    | .bool b => (v matches .bool _) && v.agrees (.bool b)
    | .int n => (v matches .int _ _) && v.agrees (.number n)
    | .str s => v.agrees (.text s)
  if values.any isIt then return { value := v } else refused

namespace ClassTable

variable (classes : ClassTable Code)

/-! ## Containers -/

/-- The elements of a value that fits as a container of single elements, and
whether it has the class of the container itself. -/
def elementsFor (c : StandardClass) (v : Value) : Run (List Value × Closeness) := do
  let actual ← classes.classOf v
  let kinds : List StandardClass := [.list, .tuple, .set, .frozenset, .range]
  if kinds.any fun kind => actual == .standard kind then
    return (← elements v, if actual == .standard c then .exact else .converted)
  else refused

/-- A new container of a class. -/
def containerOf (c : StandardClass) (items : List Value) : Run Value :=
  match c with
  | .list => Run.allocate (.list items)
  | .tuple => Run.make (.tuple items)
  | .frozenset => do
      if ← items.allM classes.isKey then Run.make (.standard .frozenset (distinctValues items))
      else refused
  | _ => do
      if ← items.allM classes.isKey then Run.allocate (.set (distinctValues items))
      else refused

/-- Fits a value as a container of which every element fits in the same way. -/
def fitContainer (c : StandardClass) (fitItem : Value → Run Fit) (v : Value) : Run Fit := do
  let (items, closeness) ← classes.elementsFor c v
  let fits ← items.mapM fitItem
  return .ofParts (← classes.containerOf c (fits.map (·.value))) closeness fits

/-- Fits a value as a tuple whose elements fit one by one. -/
def fitTuple (fitItems : List Value → Run (List Fit)) (v : Value) : Run Fit := do
  let (items, closeness) ← classes.elementsFor .tuple v
  let fits ← fitItems items
  return .ofParts (← Run.make (.tuple (fits.map (·.value)))) closeness fits

/-- The entries of a dictionary. -/
def entriesOf (v : Value) : Run (Entries Value Value) := do
  let .object address := v | refused
  match ← Run.object? address with
  | some (.dict entries) => return entries
  | _ => refused

/-- Fits a value as a dictionary. -/
def fitDictionary (fitKey fitItem : Value → Run Fit) (v : Value) : Run Fit := do
  let fits ← (← entriesOf v).mapM fun entry => do
    return (← fitKey entry.1, ← fitItem entry.2)
  let entries := Entries.ofList (fits.map fun fit => (fit.1.value, fit.2.value))
  return .ofParts (← Run.allocate (.dict entries)) .exact
    (fits.flatMap fun fit => [fit.1, fit.2])

/-- Any value fits, though no more closely than a kindred one. -/
def fitAnything (v : Value) : Run Fit :=
  return { value := v, closeness := .kindred }

/-! ## Classes -/

/-- The entries of a dictionary that have texts as their keys. -/
def namedEntries (entries : Entries Value Value) : Entries String Value :=
  entries.filterMap fun entry =>
    match entry.1 with
    | .str name _ => some (name, entry.2)
    | _ => none

/-- Fits a value as an instance of a class. -/
def fitInstance (c : ClassId) (v : Value) : Run Fit := do
  if ← classes.isInstance v c then
    let actual ← classes.classOf v
    return { value := v, closeness := if actual == c then .exact else .kindred }
  else refused

/-- Fits a value as one of a standard class. -/
def fitStandard (c : StandardClass) (v : Value) : Run Fit :=
  match c with
  | .object => fitAnything v
  | .noneType => if (v matches .null) then return { value := v } else refused
  | .bool => fitTruth v
  | .int => fitWholeNumber v
  | .float => fitFloating v
  | .str => fitText v
  | .bytes => fitBytes v
  | .list | .set | .frozenset | .tuple => classes.fitContainer c fitAnything v
  | .dict => fitDictionary fitAnything fitAnything v
  | .date | .datetime | .timedelta | .uuid | .decimal => do
      if (← classes.classOf v) == .standard c then return { value := v }
      convertedTo (convertedValue? c v)
  | c => classes.fitInstance (.standard c) v

/-- Fits a value as one of a declared class. A model or a record is also made
from a dictionary of its fields. -/
def fitDeclared (make : ClassId → Entries String Value → Run Value) (c : ClassId) (v : Value) :
    Run Fit := do
  if (classes.info c).isInterface then throw .badCall
  let fromFields := (classes.modelLayout? c).isSome || (classes.recordLayout? c).isSome
  if fromFields && !(← classes.isInstance v c) then
    let given := namedEntries (← entriesOf v)
    let names := (classes.modelLayout? c).elim [] fun layout => layout.fields.map (·.name)
    return {
      value := ← make c given
      closeness := .converted
      given? := some ((given.filter fun entry => names.contains entry.1).length) }
  else classes.fitInstance c v

/-- Fits a value as a class that is within another one. -/
def fitSubclass (ancestor : TypeExpr) (v : Value) : Run Fit :=
  match ancestor, v with
  | .named c, .type (.named c') _ =>
      if classes.isSubclass c'.id c.id then return { value := v } else refused
  | .any, .type t _ => if t.isClass then return { value := v } else refused
  | _, _ => refused

/-- Fits a value as something that can be called. -/
def fitCallable (v : Value) : Run Fit :=
  match v with
  | .type t _ => if t.isClass then return { value := v } else refused
  | .member _ _ _ => return { value := v }
  | _ => refused

/-! ## Types -/

section

variable (make : ClassId → Entries String Value → Run Value)

/-- The better one of two fits, of which one may be missing. -/
def betterOf (earlier? : Option Fit) (fit : Fit) : Fit :=
  match earlier? with
  | some earlier => if fit.isBetterThan earlier then fit else earlier
  | none => fit

/-- What fits, or nothing where a value does not fit. -/
def fitting? (run : Run Fit) : Run (Option Fit) :=
  tryCatch (some <$> run) fun fault =>
    if fault == .invalidModel then return none else throw fault

mutual

/-- Fits a value to a type. Classes make instances from dictionaries in the
given way. -/
def fit : TypeExpr → Value → Run Fit
  | .named c, v =>
      match c.id with
      | .standard s => classes.fitStandard s v
      | .declared _ => classes.fitDeclared make c.id v
  | .any, v | .typeVar _, v => fitAnything v
  | .none, v => classes.fitStandard .noneType v
  | .form .list, v => classes.fitStandard .list v
  | .form .dict, v => classes.fitStandard .dict v
  | .form .callable, v | .generic .callable _, v => fitCallable v
  | .generic (.container .list) [item], v | .generic .listAlias [item], v =>
      classes.fitContainer .list (fun v => fit item v) v
  | .generic (.container .set) [item], v =>
      classes.fitContainer .set (fun v => fit item v) v
  | .generic (.container .frozenset) [item], v =>
      classes.fitContainer .frozenset (fun v => fit item v) v
  | .generic (.container .tuple) [item, .ellipsis], v =>
      classes.fitContainer .tuple (fun v => fit item v) v
  | .generic (.container .tuple) items, v => classes.fitTuple (fun vs => fitEach items vs) v
  | .generic (.container .dict) [key, item], v | .generic .dictAlias [key, item], v =>
      fitDictionary (fun v => fit key v) (fun v => fit item v) v
  | .generic (.container .type) [ancestor], v => classes.fitSubclass ancestor v
  | .generic (.qualifier .mapped) _, v => classes.fitStandard .mapped v
  | .generic (.qualifier _) [inner], v => fit inner v
  | .annotated inner _, v | .text _ _ inner, v => fit inner v
  | .literal values, v => fitLiteral values v
  | .union _ members, v => do
      if members.any (·.isNoneType) && (v matches .null) then return { value := v }
      match ← fitSome members v none with
      | some found => return found
      | none => refused
  | _, _ => refused
termination_by structural t => t

/-- Fits values to types one by one. -/
def fitEach : List TypeExpr → List Value → Run (List Fit)
  | [], [] => return []
  | t :: types, v :: values => do
      let first ← fit t v
      return first :: (← fitEach types values)
  | _, _ => refused

/-- The best fit of a value to some types, given the best one so far. -/
def fitSome : List TypeExpr → Value → Option Fit → Run (Option Fit)
  | [], _, found => return found
  | t :: types, v, found => do
      match ← fitting? (fit t v) with
      | some next =>
          if next.isBest then return some next
          fitSome types v (some (betterOf found next))
      | none => fitSome types v found

end

end

end ClassTable

end ObjectMapping
