import SieveRun.Text.Pieces
import SieveRun.Toml.Numeral

/-!
# Quoted texts

A text stands between single or double quotes, one on each side or three. Between single
quotes every character stands for itself; between double quotes a backslash opens an escape.
Three quotes let the text run over several lines: a line feed right after them does not
count, a backslash at the end of a line takes the blanks that follow with it, and one or two
quotes may stand right before the closing three.

Control characters other than the tab have to be escaped.
-/

namespace SieveRun.Toml

open Text

/-- A control character that has to be escaped. -/
def isControl (c : Char) : Bool :=
  (decide (c.toNat < 0x20) && c != '\t') || decide (c.toNat = 0x7F)

/-- The character with a code point that is written in hexadecimal, if there is one. -/
def codePoint? (digits : List Char) : Option Char :=
  (digits.mapM hexDigit?).bind fun values =>
    let n := values.foldl (fun n d => 16 * n + d) 0
    if n.isValidChar then some (Char.ofNat n) else none

/-- The character of an escape of one letter. -/
def shortEscape? : Char → Option Char
  | 'b' => some '\x08'
  | 't' => some '\t'
  | 'n' => some '\n'
  | 'f' => some '\x0c'
  | 'r' => some '\r'
  | 'e' => some '\x1b'
  | '"' => some '"'
  | '\\' => some '\\'
  | _ => none

/-- A character before the rest, if both are there. -/
def prepend? (c : Option Char) (rest : Option (List Char)) : Option (List Char) :=
  c.bind fun c => rest.map (c :: ·)

/-- The text with its escapes resolved. -/
def unescape : List Char → Option (List Char)
  | [] => some []
  | '\\' :: 'x' :: a :: b :: cs => prepend? (codePoint? [a, b]) (unescape cs)
  | '\\' :: 'u' :: a :: b :: c :: d :: cs => prepend? (codePoint? [a, b, c, d]) (unescape cs)
  | '\\' :: 'U' :: a :: b :: c :: d :: e :: f :: g :: h :: cs =>
    prepend? (codePoint? [a, b, c, d, e, f, g, h]) (unescape cs)
  | '\\' :: c :: cs => prepend? (shortEscape? c) (unescape cs)
  | c :: cs => prepend? (some c) (unescape cs)

/-- Where a reader of several lines stands. -/
inductive Joining where
  /-- Inside a line. -/
  | line
  /-- Behind a backslash and blanks, with the end of the line still to come. -/
  | before
  /-- Behind an end of line that was taken away. -/
  | behind
  deriving DecidableEq, Repr

/-- The text without the line ends that follow a backslash and the blanks around them. Other
escapes stay as they are. -/
def joinLines : Joining → List Char → Option (List Char)
  | .line, [] => some []
  | .behind, [] => some []
  | .before, [] => none
  | .line, '\\' :: c :: cs =>
    if c = '\n' then joinLines .behind cs
    else if c = ' ' ∨ c = '\t' ∨ c = '\r' then joinLines .before cs
    else (joinLines .line cs).map fun rest => '\\' :: c :: rest
  | .line, c :: cs => (joinLines .line cs).map (c :: ·)
  | .before, c :: cs =>
    if c = '\n' then joinLines .behind cs
    else if c = ' ' ∨ c = '\t' ∨ c = '\r' then joinLines .before cs
    else none
  | .behind, '\\' :: c :: cs =>
    if c = '\n' then joinLines .behind cs
    else if c = ' ' ∨ c = '\t' ∨ c = '\r' then joinLines .before cs
    else (joinLines .line cs).map fun rest => '\\' :: c :: rest
  | .behind, c :: cs =>
    if c = '\n' ∨ c = ' ' ∨ c = '\t' ∨ c = '\r' then joinLines .behind cs
    else (joinLines .line cs).map (c :: ·)

/-- Every carriage return is followed by a line feed, and there are no other control
characters but tab and line feed. -/
def hasPlainLines : List Char → Bool
  | [] => true
  | '\r' :: '\n' :: cs => hasPlainLines cs
  | c :: cs => (c == '\n' || !isControl c) && hasPlainLines cs

/-- What stands before the closing quote, and what after it. Where there are escapes, a
character after a backslash does not close. -/
def untilQuote (quote : Char) (escapes : Bool) : List Char → Option (List Char × List Char)
  | [] => none
  | [c] => if c = quote then some ([], []) else none
  | c :: d :: cs =>
    if c = quote then some ([], d :: cs)
    else if c = '\\' ∧ escapes then
      (untilQuote quote escapes cs).map fun parts => (c :: d :: parts.1, parts.2)
    else (untilQuote quote escapes (d :: cs)).map fun parts => (c :: parts.1, parts.2)

/-- At most two quotes, and the rest. -/
def surplusQuotes (quote : Char) : List Char → List Char × List Char
  | c :: d :: cs =>
    if c = quote then if d = quote then ([c, d], cs) else ([c], d :: cs) else ([], c :: d :: cs)
  | [c] => if c = quote then ([c], []) else ([], [c])
  | [] => ([], [])

/-- What stands before the three closing quotes, and what after them. -/
def untilThreeQuotes (quote : Char) (escapes : Bool) : List Char → Option (List Char × List Char)
  | c :: d :: cs =>
    match afterStart? [quote, quote, quote] (c :: d :: cs) with
    | some rest => some (surplusQuotes quote rest)
    | none =>
      if c = '\\' ∧ escapes then
        (untilThreeQuotes quote escapes cs).map fun parts => (c :: d :: parts.1, parts.2)
      else (untilThreeQuotes quote escapes (d :: cs)).map fun parts => (c :: parts.1, parts.2)
  | _ => none

/-- Without the end of line right at the start. -/
def withoutFirstLineEnd : List Char → List Char
  | '\n' :: cs => cs
  | '\r' :: '\n' :: cs => cs
  | cs => cs

/-- The text on one line whose opening quote was just read, and what follows it. -/
def onOneLine (quote : Char) (cs : List Char) : Option (String × List Char) :=
  let escapes := quote == '"'
  (untilQuote quote escapes cs).bind fun (raw, rest) =>
    if raw.any isControl then none
    else ((if escapes then unescape raw else some raw).map String.ofList).map (·, rest)

/-- The text whose three opening quotes were just read, and what follows it. -/
def onManyLines (quote : Char) (cs : List Char) : Option (String × List Char) :=
  let escapes := quote == '"'
  (untilThreeQuotes quote escapes (withoutFirstLineEnd cs)).bind fun (raw, rest) =>
    if !hasPlainLines raw then none
    else
      let text := if escapes then (joinLines .line raw).bind unescape else some raw
      (text.map String.ofList).map (·, rest)

end SieveRun.Toml
