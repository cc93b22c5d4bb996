import ObjectMapping.Number.Identifier
import ObjectMapping.Value.Basic

/-!
# Members of standard classes

What the values of a standard class have beyond what all values have: methods,
and the parts by which the value is kept or into which it can be taken apart.
A class has some methods of its own, which its values have as well.
-/

namespace ObjectMapping

/-- The methods that the values of a standard class have. -/
def StandardClass.methodNames : StandardClass → List String
  | .int | .bool =>
      ["as_integer_ratio", "bit_count", "bit_length", "conjugate", "to_bytes"]
  | .float =>
      ["as_integer_ratio", "conjugate", "hex", "is_integer"]
  | .str =>
      ["capitalize", "casefold", "center", "count", "encode", "endswith", "expandtabs", "find",
       "format", "format_map", "index", "isalnum", "isalpha", "isascii", "isdecimal", "isdigit",
       "isidentifier", "islower", "isnumeric", "isprintable", "isspace", "istitle", "isupper",
       "join", "ljust", "lower", "lstrip", "partition", "removeprefix",
       "removesuffix", "replace", "rfind", "rindex", "rjust", "rpartition", "rsplit", "rstrip",
       "split", "splitlines", "startswith", "strip", "swapcase", "title", "translate", "upper",
       "zfill"]
  | .bytes =>
      ["capitalize", "center", "count", "decode", "endswith", "expandtabs", "find",
       "hex", "index", "isalnum", "isalpha", "isascii", "isdigit", "islower", "isspace",
       "istitle", "isupper", "join", "ljust", "lower", "lstrip", "partition",
       "removeprefix", "removesuffix", "replace", "rfind", "rindex", "rjust", "rpartition",
       "rsplit", "rstrip", "split", "splitlines", "startswith", "strip", "swapcase", "title",
       "translate", "upper", "zfill"]
  | .list =>
      ["append", "clear", "copy", "count", "extend", "index", "insert", "pop", "remove",
       "reverse", "sort"]
  | .dict =>
      ["clear", "copy", "get", "items", "keys", "pop", "popitem", "setdefault",
       "update", "values"]
  | .tuple =>
      ["count", "index"]
  | .set =>
      ["add", "clear", "copy", "difference", "difference_update", "discard", "intersection",
       "intersection_update", "isdisjoint", "issubset", "issuperset", "pop", "remove",
       "symmetric_difference", "symmetric_difference_update", "union", "update"]
  | .frozenset =>
      ["copy", "difference", "intersection", "isdisjoint", "issubset", "issuperset",
       "symmetric_difference", "union"]
  | .range =>
      ["count", "index"]
  | .date =>
      ["ctime", "isocalendar", "isoformat", "isoweekday", "replace", "strftime", "timetuple",
       "toordinal", "weekday"]
  | .datetime =>
      ["astimezone", "ctime", "date", "dst", "isocalendar", "isoformat", "isoweekday", "replace",
       "strftime", "time", "timestamp", "timetuple", "timetz", "toordinal", "tzname",
       "utcoffset", "utctimetuple", "weekday"]
  | .timedelta =>
      ["total_seconds"]
  | .decimal =>
      ["adjusted", "as_integer_ratio", "as_tuple", "canonical", "compare", "compare_signal",
       "compare_total", "compare_total_mag", "conjugate", "copy_abs", "copy_negate",
       "copy_sign", "exp", "fma", "is_canonical", "is_finite", "is_infinite", "is_nan",
       "is_normal", "is_qnan", "is_signed", "is_snan", "is_subnormal", "is_zero", "ln", "log10",
       "logb", "logical_and", "logical_invert", "logical_or", "logical_xor", "max", "max_mag",
       "min", "min_mag", "next_minus", "next_plus", "next_toward", "normalize", "number_class",
       "quantize", "radix", "remainder_near", "rotate", "same_quantum", "scaleb", "shift",
       "sqrt", "to_eng_string", "to_integral", "to_integral_exact", "to_integral_value"]
  | _ => []

/-- The methods that a standard class itself has. -/
def StandardClass.ownMethodNames : StandardClass → List String
  | .int | .bool => ["from_bytes"]
  | .float => ["fromhex"]
  | .str => ["maketrans"]
  | .bytes => ["fromhex", "maketrans"]
  | .dict => ["fromkeys"]
  | .date => ["fromisocalendar", "fromisoformat", "fromordinal", "fromtimestamp", "today"]
  | .datetime =>
      ["combine", "fromisocalendar", "fromisoformat", "fromordinal", "fromtimestamp", "now",
       "strptime", "today", "utcfromtimestamp", "utcnow"]
  | .decimal => ["from_float"]
  | _ => []

/-- The parts by which a value of a standard class is kept, in order. -/
def StandardClass.partNames : StandardClass → List String
  | .range => ["start", "stop", "step"]
  | .date => ["year", "month", "day"]
  | .datetime => ["year", "month", "day", "hour", "minute", "second", "microsecond"]
  | .timedelta => ["days", "seconds", "microseconds"]
  | .uuid => ["int"]
  | _ => []

/-- The kind of a part of values as a member of the class itself. -/
def StandardClass.partMember? (c : StandardClass) (name : String) : Option StandardClass :=
  match c with
  | .int | .bool =>
      if ["real", "imag", "numerator", "denominator"].contains name then some .computedMember
      else none
  | .float | .decimal => if ["real", "imag"].contains name then some .computedMember else none
  | .date | .datetime =>
      if (c.partNames ++ if c == .datetime then ["tzinfo", "fold"] else []).contains name then
        some .computedMember
      else none
  | _ => if c.partNames.contains name then some .slotMember else none

/-- The parts of a whole number as a complex and as a rational number. -/
def partOfInteger? (n : Int) (name : String) : Option Value :=
  match name with
  | "real" | "numerator" => some (.number n)
  | "imag" => some (.number 0)
  | "denominator" => some (.number 1)
  | _ => none

/-- The parts of a unique identifier beyond its number. -/
def partOfIdentifier? (n : Nat) (name : String) : Option Value :=
  let number (n : Nat) : Value := .number n
  let bytes (digits : List Char) : Value := .bytes (String.ofList digits) .shared
  match name with
  | "hex" => some (.text (String.ofList (Identifier.digits n)))
  | "urn" => some (.text (String.join Identifier.marks ++ Identifier.written n))
  | "bytes" => some (bytes (Identifier.digits n))
  | "bytes_le" => some (bytes (Identifier.reversedDigits n))
  | "fields" => some (.tuple ((Identifier.fields n).map number) .shared)
  | "time_low" => some (number (Identifier.lowTime n))
  | "time_mid" => some (number (Identifier.middleTime n))
  | "time_hi_version" => some (number (Identifier.highTime n))
  | "clock_seq_hi_variant" => some (number (Identifier.highClock n))
  | "clock_seq_low" => some (number (Identifier.lowClock n))
  | "time" => some (number (Identifier.time n))
  | "clock_seq" => some (number (Identifier.clock n))
  | "node" => some (number (Identifier.node n))
  | "variant" => some (.text (Identifier.variant n))
  | "version" => some (((Identifier.version? n).map number).getD .null)
  | "__module__" => some (.text StandardClass.uuid.className.module)
  | _ => none

/-- The parts of a number or of a value that is kept by its parts. The real part
of a number is the number itself. -/
def Value.part? (v : Value) (name : String) : Option Value :=
  match v with
  | .int n _ => if name == "real" || name == "numerator" then some v else partOfInteger? n name
  | .bool _ => v.number?.bind fun n => partOfInteger? n name
  | .float _ _ =>
      match name with
      | "real" => some v
      | "imag" => some (.float (.finite false 0 0) .shared)
      | _ => none
  | .standard c parts _ =>
      match (c.partNames.zip parts).lookup name, c, name with
      | some part, _, _ => some part
      | none, .uuid, _ => (parts.head?.bind (·.number?)).bind (partOfIdentifier? ·.toNat name)
      | none, .decimal, "real" => some v
      | none, .decimal, "imag" => some (.standard .decimal [.text "0"] .shared)
      | none, .decimal, "__module__" => some (.text c.className.module)
      | none, .datetime, "tzinfo" => some .null
      | none, .datetime, "fold" => some (.number 0)
      | _, _, _ => none
  | _ => none

end ObjectMapping
