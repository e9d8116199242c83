import SieveRun.Pattern.Mode
import SieveRun.Text.WordChar

/-!
# Groups of a regular expression

An opening parenthesis starts a group, which may have a name or flags of its own, or sets
flags for the rest of the group around it. Groups that look around are not taken.
-/

namespace SieveRun.Pattern

open Text

/-- What an opening parenthesis starts. -/
inductive Opening where
  | group (mode : Mode) (name : Option (List Char))
  /-- Flags for the group around it. -/
  | flags (mode : Mode)
  deriving DecidableEq, Repr

/-- The name of a group. -/
def isGroupName (cs : List Char) : Bool :=
  cs.head?.any (fun c => c == '_' || isLetter c) &&
    cs.all fun c => isLetterOrNumber c || isOneOf "_.[]" c

/-- A colon or a parenthesis, which end the flags of a group. -/
def endsFlags (c : Char) : Bool := isOneOf ":)" c

/-- What an opening parenthesis with a question mark behind it starts, and what follows. -/
def special? (mode : Mode) (cs : List Char) : Option (Opening × List Char) :=
  match (afterStart? ['P', '<'] cs).or (afterStart? ['<'] cs) with
  | some cs =>
    (cut '>' cs).bind fun (name, rest) =>
      if isGroupName name then some (.group mode (some name), rest) else none
  | none =>
    let flags := cs.takeWhile fun c => !endsFlags c
    if Mode.areFlags flags then
      match cs.dropWhile fun c => !endsFlags c with
      | ':' :: rest => some (.group (mode.flagged flags) none, rest)
      | ')' :: rest => if flags = [] then none else some (.flags (mode.flagged flags), rest)
      | _ => none
    else none

/-- What an opening parenthesis starts, and what follows. -/
def opening? (mode : Mode) (cs : List Char) : Option (Opening × List Char) :=
  match mode.skip cs with
  | '?' :: rest => special? mode rest
  | rest => some (.group mode none, rest)

end SieveRun.Pattern
