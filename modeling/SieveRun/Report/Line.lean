import SieveRun.Event

/-!
# How events and errors are shown

An event takes one line: the time, the level on five columns and the message, in colours
unless they are not wanted. Control characters that could drive a terminal are shown by
their codes. An error is reported with the chain of its causes below it, each indented, and
numbered when there is more than one.
-/

namespace SieveRun

/-- A control character by its code, two digits or between braces; any other character as it
is. -/
def visible (c : Char) : List Char :=
  let hex := Nat.toDigits 16 c.toNat
  if c ∈ ['\x07', '\x08', '\x0c'] then '\\' :: 'x' :: '0' :: hex
  else if c = '\x1b' ∨ c = '\x7f' then '\\' :: 'x' :: hex
  else if 0x80 ≤ c.toNat ∧ c.toNat ≤ 0x9F then '\\' :: 'u' :: '\x7b' :: hex ++ ['\x7d']
  else [c]

/-- The message of an event as a terminal may show it. -/
def visibleMessage (e : Event) : String := String.ofList (e.message.toList.flatMap visible)

namespace Severity

/-- The label on five columns, to the right. -/
def column (s : Severity) : String :=
  String.ofList (List.replicate (5 - s.label.length) ' ') ++ s.label

/-- The terminal's number for the colour of the level. -/
def colour : Severity → String
  | .error => "31"
  | .warn => "33"
  | .info => "32"
  | .debug => "34"
  | .trace => "35"

end Severity

/-- A text that the terminal shows in a style. -/
def styled (style text : String) : String := "\x1b[" ++ style ++ "m" ++ text ++ "\x1b[0m"

/-- One line of a report on the screen. -/
inductive ReportLine where
  /-- An event, which is shown with the time. -/
  | event (e : Event)
  | words (text : String)
  deriving DecidableEq, Repr

/-- The line as it is written at a time. -/
def ReportLine.text (plain : Bool) (time : String) : ReportLine → String
  | .words text => text
  | .event e =>
    if plain then time ++ " " ++ e.severity.column ++ " " ++ visibleMessage e
    else
      styled "2" time ++ " " ++ styled e.severity.colour e.severity.column ++ " " ++
        visibleMessage e

/-- A text of several lines with something before its first line and before every other. -/
def indented (first others text : String) : String :=
  String.ofList (Text.join '\n'
    (match Text.pieces '\n' text.toList with
    | [] => []
    | line :: rest => (first.toList ++ line) :: rest.map (others.toList ++ ·)))

/-- The causes with their numbers, counted on. -/
def numberedCauses (n : Nat) : List String → List String
  | [] => []
  | cause :: rest =>
    let number := Text.numeral n
    let column := String.ofList (List.replicate (5 - number.length) ' ') ++ number
    indented (column ++ ": ") "       " cause :: numberedCauses (n + 1) rest

/-- The causes of an error, as they stand below it. -/
def causeLines : List String → List String
  | [] => []
  | [cause] => ["", "Caused by:", indented "    " "    " cause]
  | causes => "" :: "Caused by:" :: numberedCauses 0 causes

/-- An error with the chain of its causes. -/
def errorLines (message : String) (causes : List String) : List ReportLine :=
  (("Error: " ++ message) :: causeLines causes).map .words

end SieveRun
