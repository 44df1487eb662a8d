/-!
# Log records

What the library does is told in records: a level, the name of a logger and a message.
-/

namespace ApiDiscovery.Log

/-- How important a record is. -/
inductive Level where
  | debug
  | info
  | warning
  | error
  | critical
  deriving DecidableEq, Repr

/-- The name of a level. -/
def Level.name : Level → String
  | debug => "DEBUG"
  | info => "INFO"
  | warning => "WARNING"
  | error => "ERROR"
  | critical => "CRITICAL"

/-- A record of what was done. -/
structure Record where
  level : Level
  logger : String
  message : String
  deriving DecidableEq, Repr

/-- A record as one line. -/
def Record.line (r : Record) : String := r.level.name ++ " " ++ r.logger ++ ": " ++ r.message

end ApiDiscovery.Log
