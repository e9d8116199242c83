import SieveRun.Pattern.Basic

/-!
# The values of fields in a filter

The value that a directive gives for a field is a number or a regular expression. No field
is ever compared with one, but a value that is neither makes the filter unreadable. A number
is also a regular expression, unless it starts with a plus sign.
-/

namespace SieveRun.FieldValue

open Text

/-- An exponent, if there is one. -/
def isExponent : List Char → Bool
  | [] => true
  | c :: cs => (c == 'e' || c == 'E') && (numeral? (withoutSign cs)).isSome

/-- Digits with or without a point among them, and an exponent. -/
def isDecimal (cs : List Char) : Bool :=
  let whole := cs.takeWhile isDigit
  let (fraction, rest) := match cs.dropWhile isDigit with
    | '.' :: rest => (rest.takeWhile isDigit, rest.dropWhile isDigit)
    | rest => ([], rest)
  whole ++ fraction != [] && isExponent rest

/-- The numbers that are written in letters. -/
def wordNumbers : List String := ["inf", "infinity", "nan"]

/-- A number with a plus sign. -/
def isPlusNumber : List Char → Bool
  | '+' :: cs => isDecimal cs || wordNumbers.contains (String.ofList (cs.map Char.toLower))
  | _ => false

/-- The text is a number or a regular expression. -/
def isReadable (cs : List Char) : Bool := isPlusNumber cs || Pattern.isRegular cs

end SieveRun.FieldValue
