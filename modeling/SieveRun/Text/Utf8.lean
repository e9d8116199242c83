/-!
# Reading bytes as text

Bytes that are valid UTF-8 are the text they encode. In any other bytes there are stray
ones: each longest run of bytes that could begin a character, and each byte that cannot,
stands for no character. `utf8Lossy` shows a replacement character in the place of each.
-/

namespace SieveRun.Text

/-- What stands for bytes that are no character. -/
def replacement : Char := '\uFFFD'

/-- A byte that continues a character. -/
def isContinuation (b : UInt8) : Bool := decide (0x80 ≤ b) && decide (b ≤ 0xBF)

/-- The bytes that may follow `lead` in a character of several bytes: overlong forms,
surrogates and code points past the last are ruled out here. -/
def maySecond (lead b : UInt8) : Bool :=
  if lead = 0xE0 then decide (0xA0 ≤ b) && decide (b ≤ 0xBF)
  else if lead = 0xED then decide (0x80 ≤ b) && decide (b ≤ 0x9F)
  else if lead = 0xF0 then decide (0x90 ≤ b) && decide (b ≤ 0xBF)
  else if lead = 0xF4 then decide (0x80 ≤ b) && decide (b ≤ 0x8F)
  else isContinuation b

/-- How many bytes follow `lead` in its character, if it can begin one. -/
def followers (lead : UInt8) : Option Nat :=
  if lead < 0x80 then some 0
  else if lead < 0xC2 then none
  else if lead < 0xE0 then some 1
  else if lead < 0xF0 then some 2
  else if lead < 0xF5 then some 3
  else none

/-- The bits that a lead byte contributes. -/
def leadBits (lead : UInt8) : Nat :=
  if lead < 0x80 then lead.toNat
  else if lead < 0xE0 then lead.toNat % 32
  else if lead < 0xF0 then lead.toNat % 16
  else lead.toNat % 8

/-- A character, or bytes that are none. -/
inductive Glyph where
  | char (c : Char)
  | stray (bytes : List UInt8)
  deriving DecidableEq, Repr

/-- Reading is between two characters, or inside one: `missing + 1` bytes are still to come
after the bytes in `seen`, the next of them has to pass `allowed`, and the bits so far are
`bits`. -/
inductive Decoding where
  | between
  | inside (allowed : UInt8 → Bool) (missing bits : Nat) (seen : List UInt8)

/-- The first byte of a character: what it is at once, and the state after it. -/
def beginChar (b : UInt8) : List Glyph × Decoding :=
  match followers b with
  | none => ([.stray [b]], .between)
  | some 0 => ([.char (Char.ofNat b.toNat)], .between)
  | some (n + 1) => ([], .inside (maySecond b) n (leadBits b) [b])

/-- What the bytes are from a state on. -/
def decodeFrom : Decoding → List UInt8 → List Glyph
  | .between, [] => []
  | .inside _ _ _ seen, [] => [.stray seen]
  | .between, b :: bs => (beginChar b).1 ++ decodeFrom (beginChar b).2 bs
  | .inside allowed missing bits seen, b :: bs =>
    if allowed b then
      match missing with
      | 0 => .char (Char.ofNat (64 * bits + b.toNat % 64)) :: decodeFrom .between bs
      | m + 1 =>
        decodeFrom (.inside isContinuation m (64 * bits + b.toNat % 64) (seen ++ [b])) bs
    else .stray seen :: ((beginChar b).1 ++ decodeFrom (beginChar b).2 bs)

/-- The characters and the stray bytes that the bytes are. -/
def glyphs (bytes : List UInt8) : List Glyph := decodeFrom .between bytes

/-- The character that shows in a place. -/
def Glyph.shown : Glyph → Char
  | .char c => c
  | .stray _ => replacement

/-- The text of bytes that are valid UTF-8. -/
def utf8? (bytes : List UInt8) : Option String := String.fromUTF8? ⟨bytes.toArray⟩

/-- The text that any bytes show. -/
def utf8Lossy (bytes : List UInt8) : String :=
  (utf8? bytes).getD (String.ofList ((glyphs bytes).map Glyph.shown))

/-- The bytes that encode a text. -/
def utf8 (text : String) : List UInt8 := text.toUTF8.data.toList

end SieveRun.Text
