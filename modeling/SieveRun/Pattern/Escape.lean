import SieveRun.Pattern.Mode
import SieveRun.Text.Decimal
import SieveRun.Text.WordChar

/-!
# Escapes in a regular expression

A backslash takes the meaning from a character that has one, and gives one to some letters.
The edges of a word can only be asked for in bytes, and sets that reach beyond ASCII only in
characters. No name in braces is taken, since braces cannot be closed.
-/

namespace SieveRun.Pattern

open Text

/-- What a backslash and the characters behind it stand for. -/
inductive Escape where
  | plain (c : Char)
  /-- Any character of a set. -/
  | anyOf
  /-- A place between characters. -/
  | place
  deriving DecidableEq, Repr

/-- The control characters that have a letter. -/
def controls : List (Char × Char) :=
  [('a', '\x07'), ('f', '\x0c'), ('t', '\t'), ('n', '\n'), ('r', '\r'), ('v', '\x0b')]

/-- A character that only loses its meaning behind a backslash. -/
def isQuotable (c : Char) : Bool :=
  decide (c.toNat < 0x80) && !isDigit c && !isAsciiLetter c && !isOneOf "<>" c

/-- So many hexadecimal digits, and what follows them. -/
def hexDigits? (mode : Mode) : Nat → List Char → Option (List Nat × List Char)
  | 0, cs => some ([], cs)
  | count + 1, cs =>
    match mode.skip cs with
    | [] => none
    | c :: cs => do
      let d ← hexDigit? c
      let (ds, rest) ← hexDigits? mode count cs
      pure (d :: ds, rest)

/-- The character with a code point in so many hexadecimal digits, and what follows. -/
def codePoint? (mode : Mode) (count : Nat) (cs : List Char) : Option (Char × List Char) := do
  let (ds, rest) ← hexDigits? mode count cs
  let n := ds.foldl (fun n d => 16 * n + d) 0
  if n.isValidChar then some (Char.ofNat n, rest) else none

/-- What the characters behind a backslash stand for, and what follows them. -/
def escape? (mode : Mode) : List Char → Option (Escape × List Char)
  | [] => none
  | 'x' :: cs => do
    let (c, rest) ← codePoint? mode 2 cs
    if mode.bytes && decide (0x80 ≤ c.toNat) then none else some (.plain c, rest)
  | 'u' :: cs => (codePoint? mode 4 cs).map fun found => (.plain found.1, found.2)
  | 'U' :: cs => (codePoint? mode 8 cs).map fun found => (.plain found.1, found.2)
  | c :: cs =>
    if isOneOf "pP" c then
      match mode.skip cs with
      | kind :: rest =>
        if !mode.bytes && isOneOf "clmnpsz" kind.toLower then some (.anyOf, rest) else none
      | [] => none
    else if isOneOf "dsw" c then some (.anyOf, cs)
    else if isOneOf "DSW" c then if mode.bytes then none else some (.anyOf, cs)
    else if isOneOf "Az" c then some (.place, cs)
    else if isOneOf "bB<>" c then if mode.bytes then some (.place, cs) else none
    else if isQuotable c then some (.plain c, cs)
    else (controls.lookup c).map fun control => (.plain control, cs)

end SieveRun.Pattern
