/-!
# Log records

What the compilation of mappings reports besides its result. The records stay in
the order in which they were made, also when the computation fails.
-/

namespace ObjectMapping

/-- How much a record matters. -/
inductive LogLevel where
  | debug | warning
  deriving DecidableEq, Repr, Inhabited

/-- The name of a level in reports. -/
def LogLevel.name : LogLevel → String
  | .debug => "DEBUG"
  | .warning => "WARNING"

/-- A record of something that happened. -/
structure LogRecord where
  level : LogLevel
  /-- The part of the program that reports. -/
  logger : String
  text : String
  deriving DecidableEq, Repr, Inhabited

/-- A computation that leaves log records and may fail. -/
abbrev Logged (ε α : Type) := ExceptT ε (StateM (List LogRecord)) α

namespace Logged

variable {ε α : Type}

/-- Leaves a record. -/
def record (level : LogLevel) (logger text : String) : Logged ε Unit :=
  modify fun records => records ++ [⟨level, logger, text⟩]

/-- The outcome of a computation, and the records that it leaves. -/
def outcome (computation : Logged ε α) : Except ε α × List LogRecord :=
  computation.run.run []

end Logged

end ObjectMapping
