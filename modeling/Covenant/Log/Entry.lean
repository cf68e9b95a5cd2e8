/-!
# Log entries

What the library does is told in log entries: how important one is, which
part of the library tells it, and the words. Computations hand their entries
back as a list, in order.
-/

namespace Covenant

/-- **How important an entry is.** -/
inductive Level where
  /-- For finding faults. -/
  | debug
  /-- What happened. -/
  | info
  /-- What may not have been meant. -/
  | warning
  /-- What went wrong. -/
  | error
  /-- What stops everything. -/
  | critical
deriving DecidableEq

/-- The number of a level. -/
def Level.number : Level → Int
  | .debug => 10
  | .info => 20
  | .warning => 30
  | .error => 40
  | .critical => 50

/-- The name of a level. -/
def Level.name : Level → String
  | .debug => "DEBUG"
  | .info => "INFO"
  | .warning => "WARNING"
  | .error => "ERROR"
  | .critical => "CRITICAL"

/-- **A log entry.** -/
structure LogEntry where
  /-- How important it is. -/
  level : Level
  /-- The part of the library that tells it. -/
  logger : String
  /-- The words. -/
  message : String
deriving DecidableEq

/-- The entry on one line. -/
def LogEntry.text (e : LogEntry) : String := e.level.name ++ " " ++ e.logger ++ ": " ++ e.message

end Covenant
