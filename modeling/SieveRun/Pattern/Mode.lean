import SieveRun.Text.Blank
import SieveRun.Text.Pieces

/-!
# Modes of a regular expression

Two of the flags of a regular expression change how the text behind them is read. With `x`
the expression is *spaced*: blanks between its parts do not count, nor does what stands
between a number sign and the end of its line. Without `u` it is one of *bytes*, and may
only ask for what keeps matches inside of whole characters. A flag holds up to the end of the
group that it stands in.
-/

namespace SieveRun.Pattern

open Text

/-- The character is one of those in `options`. -/
def isOneOf (options : String) (c : Char) : Bool := options.toList.contains c

/-- How the rest of a group is read. -/
structure Mode where
  /-- Blanks and comments do not count. -/
  spaced : Bool := false
  /-- Bytes are matched. -/
  bytes : Bool := false
  deriving DecidableEq, Repr

/-- Without the blanks and comments at the start; `inComment` tells that one is open. -/
def behindBlanks : Bool → List Char → List Char
  | _, [] => []
  | true, c :: cs => behindBlanks (c != '\n') cs
  | false, c :: cs =>
    if c == '#' then behindBlanks true cs
    else if isBlank c then behindBlanks false cs
    else c :: cs

/-- The first character that is no blank; one number sign before it does not count, if
`marked` does not tell that there was one. -/
def firstShown? : Bool → List Char → Option Char
  | _, [] => none
  | marked, c :: cs =>
    if isBlank c then firstShown? marked cs
    else if c == '#' && !marked then firstShown? true cs
    else some c

namespace Mode

/-- The text from its next part on. -/
def skip (mode : Mode) (cs : List Char) : List Char :=
  if mode.spaced then behindBlanks false cs else cs

/-- The character that tells whether a hyphen before the text stands for a range. Looking
ahead does not know where a comment ends. -/
def ahead? (mode : Mode) (cs : List Char) : Option Char :=
  if mode.spaced then (firstShown? false cs).or cs.head? else cs.head?

/-- The flags that are set, and those that are taken back behind a minus sign. -/
def cutFlags (flags : List Char) : List Char × List Char := (cut '-' flags).getD (flags, [])

/-- Flags: all known and all different, and some behind a minus sign. -/
def areFlags (flags : List Char) : Bool :=
  let (on, off) := cutFlags flags
  (on ++ off).all (isOneOf "imsRUux") && decide (on ++ off).Nodup && flags.getLast? != some '-'

/-- The mode after some flags. -/
def flagged (mode : Mode) (flags : List Char) : Mode :=
  let (on, off) := cutFlags flags
  { spaced := on.contains 'x' || (mode.spaced && !off.contains 'x')
    bytes := off.contains 'u' || (mode.bytes && !on.contains 'u') }

end Mode

end SieveRun.Pattern
