import SieveRun.Path.Basic
import SieveRun.Text.Blank
import SieveRun.Text.HiddenTable

/-!
# Quoted paths

A path between double quotes, with nothing in it that could be misread: quotes, backslashes
and the usual controls have a backslash before a letter, characters that do not show by
themselves stand as their code points between braces, and bytes that are no text as two
hexadecimal digits each.
-/

namespace SieveRun

open Text

namespace Path

/-- A character that does not show by itself. -/
def isHidden (c : Char) : Bool :=
  decide (c.toNat < 0x20) || decide (c.toNat = 0x7F) || inRanges hiddenRanges c

/-- The code point of a character between braces. -/
def codePointEscape (c : Char) : List Char :=
  '\\' :: 'u' :: '\x7b' :: Nat.toDigits 16 c.toNat ++ ['\x7d']

/-- A character as it stands between the quotes. -/
def quotedChar (c : Char) : List Char :=
  if c = '"' then ['\\', '"']
  else if c = '\\' then ['\\', '\\']
  else if c = '\n' then ['\\', 'n']
  else if c = '\t' then ['\\', 't']
  else if c = '\r' then ['\\', 'r']
  else if c = '\x00' then ['\\', '0']
  else if isHidden c then codePointEscape c
  else [c]

/-- A byte that is no text, as it stands between the quotes. -/
def quotedByte (b : UInt8) : List Char :=
  let digits := (Nat.toDigits 16 b.toNat).map Char.toUpper
  '\\' :: 'x' :: List.replicate (2 - digits.length) '0' ++ digits

/-- What a character or stray bytes stand as between the quotes. -/
def quotedGlyph : Glyph → List Char
  | .char c => quotedChar c
  | .stray bytes => bytes.flatMap quotedByte

/-- The path between quotes. -/
def quoted (p : Path) : String :=
  "\"" ++ String.ofList ((glyphs p.bytes).flatMap quotedGlyph) ++ "\""

end Path

end SieveRun
