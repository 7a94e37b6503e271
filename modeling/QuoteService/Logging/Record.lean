/-!
# Log records

* `LogLevel`: the levels by name and weight.
* `LogRecord`: what one call of a logger leaves behind.
-/

namespace QuoteService

/-- The levels at which the package logs. -/
inductive LogLevel where
  | debug
  | info
  | warning
  | error
  | critical
  deriving DecidableEq

namespace LogLevel

/-- The name of a level. -/
def name : LogLevel → String
  | debug => "DEBUG"
  | info => "INFO"
  | warning => "WARNING"
  | error => "ERROR"
  | critical => "CRITICAL"

/-- The weight of a level; a record passes a threshold that weighs no more than it. -/
def weight : LogLevel → Nat
  | debug => 10
  | info => 20
  | warning => 30
  | error => 40
  | critical => 50

end LogLevel

/-- One record: its level, the logger it came from, and its text. -/
structure LogRecord where
  level : LogLevel
  logger : String
  message : String
  deriving DecidableEq

end QuoteService
