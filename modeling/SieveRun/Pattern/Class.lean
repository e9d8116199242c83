import SieveRun.Pattern.Escape

/-!
# Classes of characters

A class stands in brackets: characters, ranges, sets and further classes, with operators
between groups of them. A circumflex at its start asks for all other characters, which in
bytes would be more than ASCII; hyphens at the start are plain, and so is a closing bracket
there. Of a class only its depth matters, which is how far its parts are nested.
-/

namespace SieveRun.Pattern

open Text

/-- The depth of some parts that stand side by side: no part and a single part add none. -/
def together : List Nat → Nat
  | [] => 0
  | [depth] => depth
  | depth :: depths => depths.foldl max depth + 1

/-- The class that is being read. -/
structure ClassFrame where
  /-- The depth of all that stands before the last operator. -/
  left : Option Nat := none
  /-- The depths of the members behind it. -/
  members : List Nat := []
  /-- At most hyphens have been read. -/
  starting : Bool := true
  deriving DecidableEq, Repr

namespace ClassFrame

/-- With one more member. -/
def add (frame : ClassFrame) (depth : Nat) : ClassFrame :=
  { frame with members := depth :: frame.members }

/-- No longer at the start. -/
def begun (frame : ClassFrame) : ClassFrame := { frame with starting := false }

/-- The depth of what has been read. -/
def depth (frame : ClassFrame) : Nat :=
  match frame.left with
  | none => together frame.members
  | some left => max left (together frame.members) + 1

/-- With an operator behind what has been read. -/
def operator (frame : ClassFrame) : ClassFrame :=
  { left := some frame.depth, members := [], starting := false }

end ClassFrame

/-- The classes that have a name. -/
def classNames : List String :=
  ["alnum", "alpha", "ascii", "blank", "cntrl", "digit", "graph", "lower", "print", "punct",
    "space", "upper", "word", "xdigit"]

/-- Behind an opening bracket: a name between colons and a closing bracket, whether a
circumflex stands before it, and what follows. -/
def namedClass? (cs : List Char) : Option (Bool × List Char) := do
  let cs ← afterStart? [':'] cs
  let (others, cs) := match cs with
    | '^' :: cs => (true, cs)
    | cs => (false, cs)
  let (name, rest) ← cut ':' cs
  let rest ← afterStart? [']'] rest
  if classNames.contains (String.ofList name) then some (others, rest) else none

/-- What follows the opening bracket of a class and its circumflex. -/
def behindOpening? (mode : Mode) (cs : List Char) : Option (List Char) :=
  match mode.skip cs with
  | '^' :: rest => if mode.bytes then none else some rest
  | rest => some rest

/-- A character or a set, and what follows. -/
def member? (mode : Mode) (cs : List Char) : Option (Escape × List Char) := do
  let (found, rest) ← match cs with
    | [] => none
    | '\\' :: cs => escape? mode cs
    | c :: cs => some (.plain c, cs)
  match found with
  | .plain c => if mode.bytes && decide (0x80 ≤ c.toNat) then none else some (found, rest)
  | _ => some (found, rest)

/-- The two are the ends of a range. -/
def isRange : Escape → Escape → Bool
  | .plain low, .plain high => decide (low ≤ high)
  | _, _ => false

/-- What follows one member or one range. -/
def behindMember? (mode : Mode) (cs : List Char) : Option (List Char) := do
  let (low, rest) ← member? mode cs
  let single := if low = .place then none else some (mode.skip rest)
  match mode.skip rest with
  | '-' :: more =>
    if (mode.ahead? more).any (isOneOf "]-") then single
    else
      let (high, rest) ← member? mode (mode.skip more)
      if isRange low high then some rest else none
  | _ => single

/-- The depth of a class from somewhere inside it on, inside of the classes of `outer`, and
what follows it. -/
def classFrom? (mode : Mode) :
    Nat → ClassFrame → List ClassFrame → List Char → Option (Nat × List Char)
  | 0, _, _, _ => none
  | fuel + 1, frame, outer, cs =>
    match mode.skip cs with
    | [] => none
    | '[' :: rest =>
      match namedClass? rest with
      | some (others, rest) =>
        if others && mode.bytes then none
        else classFrom? mode fuel (frame.begun.add 0) outer rest
      | none =>
        (behindOpening? mode rest).bind fun rest =>
          classFrom? mode fuel {} (frame.begun :: outer) rest
    | ']' :: rest =>
      if frame.starting && frame.members.isEmpty then
        classFrom? mode fuel (frame.begun.add 0) outer rest
      else match outer with
        | [] => some (frame.depth + 1, rest)
        | around :: outer => classFrom? mode fuel (around.add (frame.depth + 1)) outer rest
    | '&' :: '&' :: rest => classFrom? mode fuel frame.operator outer rest
    | '~' :: '~' :: rest => classFrom? mode fuel frame.operator outer rest
    | c :: rest =>
      if frame.starting && c == '-' then classFrom? mode fuel (frame.add 0) outer rest
      else match afterStart? ['-', '-'] (c :: rest) with
        | some rest => classFrom? mode fuel frame.operator outer rest
        | none =>
          (behindMember? mode (c :: rest)).bind fun rest =>
            classFrom? mode fuel (frame.begun.add 0) outer rest

/-- The depth of the class behind an opening bracket, and what follows it. -/
def class? (mode : Mode) (cs : List Char) : Option (Nat × List Char) :=
  (behindOpening? mode cs).bind fun rest => classFrom? mode (rest.length + 1) {} [] rest

end SieveRun.Pattern
