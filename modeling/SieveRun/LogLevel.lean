/-!
# Log levels

The computation names seven levels; what is shown on the screen is chosen among five
severities. Two levels have a second spelling, and case does not matter.
-/

namespace SieveRun

/-- How grave a logged event is. -/
inductive Severity where
  | error
  | warn
  | info
  | debug
  | trace
  deriving DecidableEq, Repr

namespace Severity

/-- Position from grave to chatty. -/
def rank : Severity → Nat
  | .error => 1
  | .warn => 2
  | .info => 3
  | .debug => 4
  | .trace => 5

/-- The name in capitals, as log lines show it. -/
def label : Severity → String
  | .error => "ERROR"
  | .warn => "WARN"
  | .info => "INFO"
  | .debug => "DEBUG"
  | .trace => "TRACE"

/-- The name in small letters, as a filter shows it. -/
def filterName : Severity → String
  | .error => "error"
  | .warn => "warn"
  | .info => "info"
  | .debug => "debug"
  | .trace => "trace"

end Severity

/-- The levels of the computation's own logs. -/
inductive LogLevel where
  | critical
  | error
  | warning
  | info
  /-- Shell commands that the scheduler issues. -/
  | command
  | debug
  /-- Messages between clients and server. -/
  | transaction
  deriving DecidableEq, Repr

namespace LogLevel

/-- The accepted spellings, in capitals. -/
def spellings : List (String × LogLevel) :=
  [("CRITICAL", .critical), ("ERROR", .error), ("WARNING", .warning), ("WARN", .warning),
    ("INFO", .info), ("COMMAND", .command), ("DEBUG", .debug), ("TRANSACTION", .transaction),
    ("TRACE", .transaction)]

/-- The level of a spelling, in any mixture of ASCII capitals and small letters. -/
def ofText? (text : String) : Option LogLevel :=
  spellings.lookup (String.ofList (text.toList.map Char.toUpper))

/-- The first spelling of the level. -/
def text : LogLevel → String
  | .critical => "CRITICAL"
  | .error => "ERROR"
  | .warning => "WARNING"
  | .info => "INFO"
  | .command => "COMMAND"
  | .debug => "DEBUG"
  | .transaction => "TRANSACTION"

/-- The least grave severity that the level still lets through. -/
def severity : LogLevel → Severity
  | .critical | .error => .error
  | .warning => .warn
  | .info => .info
  | .command | .debug => .debug
  | .transaction => .trace

/-- Reading back the first spelling gives the level. -/
theorem ofText?_text (level : LogLevel) : ofText? level.text = some level := by
  cases level <;> decide

end LogLevel

/-- What is said about a text that is no level. -/
def unknownLevel (text : String) : String := s!"unknown log level '{text}'"

end SieveRun
