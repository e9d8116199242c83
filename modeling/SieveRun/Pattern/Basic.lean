import SieveRun.Pattern.Class
import SieveRun.Pattern.Group

/-!
# Regular expressions

Reading a regular expression finds out whether it is one, and how deep its parts are nested:
groups, repetitions, classes, rows of parts and choices between rows each add a level. An
expression may have 250 levels. An opening brace is a mistake where it is not plain, since
counts cannot be closed.
-/

namespace SieveRun.Pattern

open Text

/-- The group that is being read. -/
structure Frame where
  mode : Mode := {}
  /-- The depths of the parts of the last row, the last part first. Flags have none. -/
  row : List (Option Nat) := []
  /-- The depths of the rows before it. -/
  rows : List Nat := []
  deriving DecidableEq, Repr

namespace Frame

/-- With one more part. -/
def add (frame : Frame) (depth : Nat) : Frame := { frame with row := some depth :: frame.row }

/-- The depth of the last row. -/
def rowDepth (frame : Frame) : Nat := together (frame.row.map fun depth => depth.getD 0)

/-- The depth of what has been read. -/
def depth (frame : Frame) : Nat := together (frame.rowDepth :: frame.rows)

/-- With a new row. -/
def nextRow (frame : Frame) : Frame :=
  { frame with row := [], rows := frame.rowDepth :: frame.rows }

/-- With flags, which change the mode. -/
def setMode (frame : Frame) (mode : Mode) : Frame := { frame with mode, row := none :: frame.row }

/-- With the last part repeated, if there is one. -/
def repeated? (frame : Frame) : Option Frame :=
  match frame.row with
  | some depth :: row => some { frame with row := some (depth + 1) :: row }
  | _ => none

end Frame

/-- The depth of an expression from somewhere inside it on, inside of the groups of `outer`
and behind groups with the names `names`. -/
def depthFrom? : Nat → List (List Char) → Frame → List Frame → List Char → Option Nat
  | 0, _, _, _, _ => none
  | fuel + 1, names, frame, outer, cs =>
    match frame.mode.skip cs with
    | [] => if outer = [] then some frame.depth else none
    | '(' :: rest => do
      let (opening, rest) ← opening? frame.mode rest
      match opening with
      | .flags mode => depthFrom? fuel names (frame.setMode mode) outer rest
      | .group mode name =>
        if name.any names.contains then none
        else depthFrom? fuel (name.toList ++ names) { mode } (frame :: outer) rest
    | ')' :: rest =>
      match outer with
      | [] => none
      | around :: outer => depthFrom? fuel names (around.add (frame.depth + 1)) outer rest
    | '|' :: rest => depthFrom? fuel names frame.nextRow outer rest
    | '[' :: rest => do
      let (depth, rest) ← class? frame.mode rest
      depthFrom? fuel names (frame.add depth) outer rest
    | '\\' :: rest => do
      let (_, rest) ← escape? frame.mode rest
      depthFrom? fuel names (frame.add 0) outer rest
    | '.' :: rest =>
      if frame.mode.bytes then none else depthFrom? fuel names (frame.add 0) outer rest
    | '{' :: _ => none
    | c :: rest =>
      if isOneOf "?*+" c then do
        let frame ← frame.repeated?
        depthFrom? fuel names frame outer ((afterStart? ['?'] rest).getD rest)
      else depthFrom? fuel names (frame.add 0) outer rest

/-- The depth of a regular expression. -/
def depth? (cs : List Char) : Option Nat := depthFrom? (cs.length + 1) [] {} [] cs

/-- The greatest depth of a regular expression. -/
def maxDepth : Nat := 250

/-- The text is a regular expression. -/
def isRegular (cs : List Char) : Bool := (depth? cs).any fun depth => decide (depth ≤ maxDepth)

end SieveRun.Pattern
