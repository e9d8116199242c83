import SieveRun.Toml.Quoted
import SieveRun.Toml.Scalar

/-!
# Reading a TOML document

A document is a list of lines: a header opens a table, `key = value` assigns in the table
that is open, and a comment or nothing says nothing. Arrays and tables in braces may run
over lines and end with a comma. Values nest at most eighty deep, and a key has at most
eighty names. A document that breaks a rule anywhere is refused as a whole.

The readers take the characters that are left and answer with what they read and what is
left then. The ones that repeat are bounded by the number of characters, of which every
round takes at least one.
-/

namespace SieveRun.Toml

open Text

/-- Space and tab, which say nothing between the parts of a line. -/
def isGap (c : Char) : Bool := c == ' ' || c == '\t'

/-- Without gaps at the start. -/
def skipGaps (cs : List Char) : List Char := cs.dropWhile isGap

/-- Without gaps, line ends and comments at the start. -/
def skipLines (inComment : Bool) : List Char → Option (List Char)
  | [] => some []
  | '\n' :: cs => skipLines false cs
  | '\r' :: '\n' :: cs => skipLines false cs
  | c :: cs =>
    if inComment then if isControl c then none else skipLines true cs
    else if isGap c then skipLines false cs
    else if c = '#' then skipLines true cs
    else some (c :: cs)

/-- What follows the end of a line on which at most a comment is left. -/
def endLine (inComment : Bool) : List Char → Option (List Char)
  | [] => some []
  | '\n' :: cs => some cs
  | '\r' :: '\n' :: cs => some cs
  | c :: cs =>
    if inComment then if isControl c then none else endLine true cs
    else if isGap c then endLine false cs
    else if c = '#' then endLine true cs
    else none

/-! ## Keys -/

/-- A character of a name without quotes. -/
def isBare (c : Char) : Bool := c.isAlphanum || c == '_' || c == '-'

/-- One name of a key. -/
def name? : List Char → Option (String × List Char)
  | '"' :: cs => onOneLine '"' cs
  | '\'' :: cs => onOneLine '\'' cs
  | cs =>
    let run := cs.takeWhile isBare
    if run = [] then none else some (String.ofList run, cs.dropWhile isBare)

/-- A key has at most this many names. -/
def maxNames : Nat := 80

/-- A dotted key of at most `bound` names: the names before the last, the last one, and what
follows it without gaps. -/
def keyWithin? : Nat → List Char → Option (List String × String × List Char)
  | 0, _ => none
  | bound + 1, cs =>
    (name? (skipGaps cs)).bind fun (name, rest) =>
      match skipGaps rest with
      | '.' :: rest =>
        (keyWithin? bound rest).map fun (path, last, rest) => (name :: path, last, rest)
      | rest => some ([], name, rest)

/-- A dotted key. -/
def key? (cs : List Char) : Option (List String × String × List Char) := keyWithin? maxNames cs

/-! ## Values -/

/-- The characters that separate values, open them or end a line. -/
def marks : List Char := ['=', ',', '[', ']', '\x7b', '\x7d', '#', ' ', '\t', '\n', '\r']

/-- A character of a value without quotes or brackets. -/
def isPlain (c : Char) : Bool := !marks.contains c

/-- A run of such characters; a date may be followed by one space and a time. -/
def plainRun (cs : List Char) : List Char × List Char :=
  let run := cs.takeWhile isPlain
  match cs.dropWhile isPlain with
  | ' ' :: c :: rest =>
    if afterDate? run = some [] ∧ isDigit c then
      (run ++ ' ' :: (c :: rest).takeWhile isPlain, (c :: rest).dropWhile isPlain)
    else (run, ' ' :: c :: rest)
  | rest => (run, rest)

/-- Values nest at most this deep. -/
def maxDepth : Nat := 80

/-- The tables between braces that a dotted key there may pass through. -/
def enterInBraces (origin : Origin) : Bool := origin == .dotted

mutual

/-- A value; `depth` is how much deeper values may nest. -/
def value? : Nat → Nat → List Char → Option (Value × List Char)
  | 0, _, _ => none
  | bound + 1, depth, cs =>
    match cs, depth with
    | '"' :: '"' :: '"' :: rest, _ => (onManyLines '"' rest).map fun (s, rest) => (.text s, rest)
    | '\'' :: '\'' :: '\'' :: rest, _ =>
      (onManyLines '\'' rest).map fun (s, rest) => (.text s, rest)
    | '"' :: rest, _ => (onOneLine '"' rest).map fun (s, rest) => (.text s, rest)
    | '\'' :: rest, _ => (onOneLine '\'' rest).map fun (s, rest) => (.text s, rest)
    | '[' :: rest, depth + 1 => items? bound depth [] rest
    | '\x7b' :: rest, depth + 1 => braces? bound depth [] rest
    | cs, _ =>
      let (run, rest) := plainRun cs
      (scalar? run).map (·, rest)

/-- The items of an array that are left, after those in `done`. -/
def items? : Nat → Nat → List Value → List Char → Option (Value × List Char)
  | 0, _, _, _ => none
  | bound + 1, depth, done, cs =>
    (skipLines false cs).bind fun cs =>
      match cs with
      | ']' :: rest => some (.array done, rest)
      | cs =>
        (value? bound depth cs).bind fun (v, rest) =>
          (skipLines false rest).bind fun rest =>
            match rest with
            | ',' :: rest => items? bound depth (done ++ [v]) rest
            | ']' :: rest => some (.array (done ++ [v]), rest)
            | _ => none

/-- The assignments between braces that are left, after those in `done`. -/
def braces? : Nat → Nat → Entries → List Char → Option (Value × List Char)
  | 0, _, _, _ => none
  | bound + 1, depth, done, cs =>
    (skipLines false cs).bind fun cs =>
      match cs with
      | '\x7d' :: rest => some (.table .braces done, rest)
      | cs =>
        (key? cs).bind fun (path, name, rest) =>
          (valueInBraces? bound depth rest).bind fun (v, rest) =>
            (Entries.assign enterInBraces path name v done).bind fun done =>
              (skipLines false rest).bind fun rest =>
                match rest with
                | ',' :: rest => braces? bound depth done rest
                | '\x7d' :: rest => some (.table .braces done, rest)
                | _ => none

/-- The value that an assignment between braces gives its key. Lines may end on either side
of the equals sign. -/
def valueInBraces? : Nat → Nat → List Char → Option (Value × List Char)
  | 0, _, _ => none
  | bound + 1, depth, cs =>
    (skipLines false cs).bind fun cs =>
      match cs with
      | '=' :: rest => (skipLines false rest).bind fun rest => value? bound depth rest
      | _ => none

end

/-! ## Lines -/

/-- What was read of a document: its entries, and the header of the table that is open. -/
structure Reading where
  entries : Entries := []
  header : List String := []

namespace Reading

/-- Open the table of a header whose first bracket was just read. -/
def openHeader (r : Reading) (cs : List Char) : Option (Reading × List Char) :=
  match cs with
  | '[' :: cs =>
    (key? cs).bind fun (path, name, rest) =>
      match rest with
      | ']' :: ']' :: rest =>
        (r.entries.openRepeated path name).map fun es => (⟨es, path ++ [name]⟩, rest)
      | _ => none
  | cs =>
    (key? cs).bind fun (path, name, rest) =>
      match rest with
      | ']' :: rest =>
        (r.entries.openTable path name).map fun es => (⟨es, path ++ [name]⟩, rest)
      | _ => none

/-- Take over an assignment. -/
def takeAssignment (r : Reading) (cs : List Char) : Option (Reading × List Char) :=
  (key? cs).bind fun (path, name, rest) =>
    match rest with
    | '=' :: rest =>
      (value? (rest.length + 1) maxDepth (skipGaps rest)).bind fun (v, rest) =>
        (r.entries.assignUnder r.header path name v).map fun es => ({ r with entries := es }, rest)
    | _ => none

/-- Read the lines that are left. -/
def lines (r : Reading) : Nat → List Char → Option Entries
  | 0, _ => none
  | bound + 1, cs =>
    (skipLines false cs).bind fun cs =>
      match cs with
      | [] => some r.entries
      | '[' :: rest =>
        (r.openHeader rest).bind fun (r, rest) => (endLine false rest).bind (r.lines bound)
      | cs => (r.takeAssignment cs).bind fun (r, rest) => (endLine false rest).bind (r.lines bound)

end Reading

/-- The mark that may open a document and says nothing. -/
def byteOrderMark : Char := '\uFEFF'

/-- The entries of a document, if the text is one. -/
def read? (text : String) : Option Entries :=
  let cs := text.toList
  let cs := if cs.head? = some byteOrderMark then cs.tail else cs
  ({} : Reading).lines (cs.length + 1) cs

end SieveRun.Toml
