import QuoteService.Logging.Record
import QuoteService.Text.Case
import QuoteService.Text.Quoted

/-!
# Logging setup

The package logger has a threshold and handlers. Setting it up attaches one handler and then sets
the threshold, so a name that is refused leaves the handler attached and the threshold as it was.

* `Threshold.ofName?`: the threshold of a name in any letter case.
* `LoggerState.configure`: one setup.
* `LoggerState.effective`: the level that counts, the root's where none is set.
-/

namespace QuoteService

/-- The threshold of a logger; without one, that of the root counts. -/
abbrev Threshold := Option LogLevel

/-- The names of thresholds. -/
def thresholdNames : List (String × Threshold) :=
  [("CRITICAL", some .critical), ("FATAL", some .critical), ("ERROR", some .error),
   ("WARN", some .warning), ("WARNING", some .warning), ("INFO", some .info),
   ("DEBUG", some .debug), ("NOTSET", none)]

/-- No threshold has that name. -/
structure UnknownLevel where
  name : Text
  deriving DecidableEq

/-- The text of the error. -/
def UnknownLevel.message (e : UnknownLevel) : String :=
  "Unknown level: " ++ String.ofList (Text.quoted e.name)

/-- The threshold of a name in any letter case. -/
def Threshold.ofName (name : Text) : Except UnknownLevel Threshold :=
  let upper := Text.upperText name
  match thresholdNames.find? fun n => Text.ofString n.1 = upper with
  | some (_, threshold) => .ok threshold
  | none => .error ⟨upper⟩

/-- The name of the handler that setup attaches. -/
def handlerName : String := "fortune-stderr"

/-- The level of the root logger. -/
def rootLevel : LogLevel := .warning

/-- The threshold of the package logger and the names of its handlers. -/
structure LoggerState where
  threshold : Threshold
  handlers : List String
  deriving DecidableEq

namespace LoggerState

/-- Nothing set up. -/
def initial : LoggerState := ⟨none, []⟩

/-- Attaches the handler unless it is attached. -/
def attach (s : LoggerState) : LoggerState :=
  if s.handlers.contains handlerName then s else { s with handlers := s.handlers ++ [handlerName] }

/-- One setup: the state after it, and whether the name was refused. -/
def configure (s : LoggerState) (level : Text) : LoggerState × Except UnknownLevel Unit :=
  match Threshold.ofName level with
  | .ok threshold => ({ s.attach with threshold }, .ok ())
  | .error e => (s.attach, .error e)

/-- The level that counts. -/
def effective (s : LoggerState) : LogLevel := s.threshold.getD rootLevel

/-- The records that pass the level that counts. -/
def passing (s : LoggerState) (records : List LogRecord) : List LogRecord :=
  records.filter fun r => s.effective.weight ≤ r.level.weight

end LoggerState

end QuoteService
