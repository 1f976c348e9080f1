/-!
# Log records

A run tells what it is doing in records of three levels. Records have no effect on verdicts.
-/

namespace Narrowing

/-- How detailed a log record is, the most detailed level first. -/
inductive Level where
  /-- Single comparisons. -/
  | trace
  /-- Single rules and declarations. -/
  | debug
  /-- Checks and whole runs. -/
  | info
  deriving Repr, DecidableEq, Inhabited

/-- The name of a level in the log. -/
def Level.keyword : Level → String
  | .trace => "TRACE"
  | .debug => "DEBUG"
  | .info => "INFO"

/-- A line of the log. -/
structure Record where
  /-- The level of the record. -/
  level : Level
  /-- What happened. -/
  message : String
  deriving Repr, DecidableEq, Inhabited

/-- The text of a record, which begins with its level. -/
def Record.text (record : Record) : String := record.level.keyword ++ " " ++ record.message

end Narrowing
