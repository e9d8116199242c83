import SieveRun.Hierarchy.Key
import SieveRun.Text.Blank
import SieveRun.Text.Pieces

/-!
# Assignments on lines

Parameter files and option lists hold one `key = value` a line. What counts of a line is its
*content*: the part before a comment, without the blanks at its ends. A comment opens with
`#` at the start of the line or right after an ASCII blank, so `a#b` is a value. An empty
content says nothing; any other has to be an assignment, split at its first `=`, with a
well-formed key. The first line that is neither stops the reading and is reported with its
number, counted from one, and as it stands.
-/

namespace SieveRun

open Text

namespace Assignment

/-- The part of a line before its comment; `opens` says whether a `#` here would open one. -/
def beforeComment (opens : Bool) : List Char → List Char
  | [] => []
  | c :: cs => if c = '#' ∧ opens then [] else c :: beforeComment (isAsciiBlank c) cs

/-- The content of a line. -/
def content (line : List Char) : List Char := trim (beforeComment true line)

/-- The key and the value that a content assigns. -/
def ofContent? (cs : List Char) : Option (Key × String) :=
  (cut '=' cs).bind fun parts =>
    (Key.parse? (String.ofList (trim parts.1))).map fun key =>
      (key, String.ofList (trim parts.2))

/-- A line that is neither empty nor an assignment. -/
structure Fault where
  line : Nat
  text : String
  deriving DecidableEq, Repr

/-- The assignments on the lines, in order; `number` is the number of the first line. -/
def ofLines (number : Nat) : List (List Char) → Except Fault (List (Key × String))
  | [] => .ok []
  | line :: rest =>
    if content line = [] then ofLines (number + 1) rest
    else match ofContent? (content line) with
      | none => .error ⟨number, String.ofList line⟩
      | some a => (ofLines (number + 1) rest).map (a :: ·)

/-- The assignments in the text of a file. -/
def ofText (text : String) : Except Fault (List (Key × String)) := ofLines 1 (lines text.toList)

/-- The assignments in a list of options, each option a line of its own. -/
def ofOptions (options : List String) : Except Fault (List (Key × String)) :=
  ofLines 1 (options.map String.toList)

end Assignment

end SieveRun
