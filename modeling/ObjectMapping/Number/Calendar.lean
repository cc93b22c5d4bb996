import ObjectMapping.Number.Floating

/-!
# Dates and times

Dates of the calendar that is in use everywhere, from the year 1 to 9999, times
of the day, and spans of time in days, seconds and microseconds.
-/

namespace ObjectMapping.Calendar

/-- A year of which February has 29 days. -/
def isLeapYear (year : Int) : Bool :=
  year % 4 == 0 && (year % 100 != 0 || year % 400 == 0)

/-- The number of days of a month. -/
def daysOfMonth (year month : Int) : Int :=
  if month == 2 then (if isLeapYear year then 29 else 28)
  else if [4, 6, 9, 11].contains month then 30 else 31

/-- Year, month and day are a date. -/
def isDate (year month day : Int) : Bool :=
  1 ≤ year && year ≤ 9999 && 1 ≤ month && month ≤ 12 && 1 ≤ day && day ≤ daysOfMonth year month

/-- Hour, minute, second and microsecond are a time of the day. -/
def isTime (hour minute second microsecond : Int) : Bool :=
  0 ≤ hour && hour ≤ 23 && 0 ≤ minute && minute ≤ 59 && 0 ≤ second && second ≤ 59 &&
    0 ≤ microsecond && microsecond ≤ 999999

/-- The parts of a date, then of a time, are all in range. -/
def isMoment : List Int → Bool
  | [year, month, day, hour, minute, second, microsecond] =>
      isDate year month day && isTime hour minute second microsecond
  | _ => false

/-- The greatest number of days of a span, in either direction. -/
def greatestDays : Int := 999999999

/-- A span of time with its seconds and microseconds below a day and a second. -/
def span? (days seconds microseconds : Int) : Option (List Int) :=
  let seconds := seconds + microseconds.fdiv 1000000
  let days := days + seconds.fdiv 86400
  if -greatestDays ≤ days && days ≤ greatestDays then
    some [days, seconds.fmod 86400, microseconds.fmod 1000000]
  else none

/-- The number that exactly some digits write. -/
def number? (count : Nat) (digits : List Char) : Option Int :=
  if digits.length == count && digits.all Char.isDigit then some (numberOfDigits digits) else none

/-- The date that a text writes with dashes between its parts. -/
def date? (text : String) : Option (List Int) := do
  let [year, month, day] := text.splitOn "-" | none
  let year ← number? 4 year.toList
  let month ← number? 2 month.toList
  let day ← number? 2 day.toList
  if isDate year month day then some [year, month, day] else none

/-- The time that a text writes with colons between its parts. -/
def time? (text : String) : Option (List Int) := do
  let (hour, minute, second) ←
    match text.splitOn ":" with
    | [hour, minute] => some (hour, minute, "00")
    | [hour, minute, second] => some (hour, minute, second)
    | _ => none
  let (second, fraction) ←
    match second.splitOn "." with
    | [second] => some (second, "0")
    | [second, fraction] => some (second, fraction)
    | _ => none
  let hour ← number? 2 hour.toList
  let minute ← number? 2 minute.toList
  let second ← number? 2 second.toList
  if fraction.isEmpty || !fraction.toList.all Char.isDigit then none
  let micros := (fraction.toList ++ List.replicate 6 '0').take 6
  let microsecond : Int := numberOfDigits micros
  if isTime hour minute second microsecond then some [hour, minute, second, microsecond] else none

/-- The moment that a text writes: a date, then a time behind a letter or a blank. -/
def moment? (text : String) : Option (List Int) := do
  let chars := text.toList
  let date ← date? (String.ofList (chars.take 10))
  match chars.drop 10 with
  | [] => some (date ++ [0, 0, 0, 0])
  | mark :: rest =>
      if ['T', 't', ' ', '_'].contains mark then
        return date ++ (← time? (String.ofList rest))
      else none

/-- A number in decimal digits, with zeros in front up to a width. -/
def padded (width : Nat) (n : Int) : String :=
  let digits := toString n.natAbs
  String.ofList (List.replicate (width - digits.length) '0') ++ digits

/-- Millionths behind a point, or nothing if there are none. -/
def writtenFraction (microsecond : Int) : String :=
  if microsecond == 0 then "" else "." ++ padded 6 microsecond

/-- The text of a date, or of a date and a time behind a blank. -/
def writtenMoment : List Int → Option String
  | [year, month, day] =>
      some ("-".intercalate [padded 4 year, padded 2 month, padded 2 day])
  | [year, month, day, hour, minute, second, microsecond] =>
      some ("-".intercalate [padded 4 year, padded 2 month, padded 2 day] ++ " " ++
        ":".intercalate [padded 2 hour, padded 2 minute, padded 2 second] ++
        writtenFraction microsecond)
  | _ => none

/-- The text of a span: the days, if there are any, then the time of the last day. -/
def writtenSpan : List Int → Option String
  | [days, seconds, microseconds] =>
      let dayWord := if days.natAbs == 1 then " day, " else " days, "
      let dayPart := if days == 0 then "" else toString days ++ dayWord
      some (dayPart ++ toString (seconds / 3600) ++ ":" ++ padded 2 (seconds / 60 % 60) ++ ":" ++
        padded 2 (seconds % 60) ++ writtenFraction microseconds)
  | _ => none

/-- The units of spans by name, in millionths of a second. -/
def units : List (String × Nat) :=
  [("days", 86400000000), ("seconds", 1000000), ("microseconds", 1), ("milliseconds", 1000),
   ("minutes", 60000000), ("hours", 3600000000), ("weeks", 604800000000)]

/-- A sum of quotients rounded to the nearest whole number, a tie to the even one. -/
def nearestSum (quotients : List (Int × Nat)) : Int :=
  let (numerator, denominator) := quotients.foldl
    (fun (sum, under) (n, d) => (sum * d + n * under, under * d)) ((0 : Int), 1)
  withSign (numerator < 0) (Floating.nearest numerator.natAbs denominator)

/-- A span of some millionths of a second. -/
def spanOf? (microseconds : Int) : Option (List Int) :=
  span? 0 0 microseconds

end ObjectMapping.Calendar
