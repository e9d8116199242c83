import SieveRun.Text.Decimal
import SieveRun.Text.Pieces

/-!
# Numbers in a TOML document

A number is met twice. While the document is read only its outline matters: which characters
stand where, and that underscores stand between digits (`integer?`, `decimal?`). Its value
matters only to those who look at it (`Numeral.isReadable`): an integer has to fit into 128
bits, with a sign or without one, and a decimal fraction may not be so large that it rounds
to infinity. So a document may hold a number without a value, as long as nobody looks.
-/

namespace SieveRun.Toml

open Text

/-- A number by its outline, without its underscores. -/
inductive Numeral where
  | integer (base : Nat) (spelling : List Char)
  | decimal (spelling : List Char)
  /-- Infinity, or what is not a number. -/
  | special
  deriving DecidableEq, Repr

/-- The value of a digit in a base up to sixteen. -/
def digit? (base : Nat) (c : Char) : Option Nat := (hexDigit? c).filter fun d => decide (d < base)

/-- A digit in a base up to sixteen. -/
def isDigitIn (base : Nat) (c : Char) : Bool := (digit? base c).isSome

/-! ## Outlines -/

/-- The mark that may stand between digits. -/
def groupMark : Char := '_'

/-- Without the marks between digits. -/
def ungrouped (cs : List Char) : List Char := cs.filter (· != groupMark)

/-- A run between two marks starts and ends with a digit. -/
def isInnerRun (digit : Char → Bool) (run : List Char) : Bool :=
  run.head?.any digit && run.getLast?.any digit

/-- The runs after the first mark: each starts with a digit, and each but the last ends with
one. -/
def areLaterRuns (digit : Char → Bool) : List (List Char) → Bool
  | [] => true
  | [last] => last.head?.any digit
  | run :: rest => isInnerRun digit run && areLaterRuns digit rest

/-- Every mark in a number stands behind and before a digit. A mark right behind a sign that
starts the number is let through. -/
def isGrouped (digit : Char → Bool) (cs : List Char) : Bool :=
  match pieces groupMark cs with
  | first :: later =>
    (later.isEmpty || first.length == 1 || first.getLast?.any digit) && areLaterRuns digit later
  | [] => true

/-- A digit or a mark between digits. -/
def isRunChar (c : Char) : Bool := isDigit c || c == groupMark

/-- What follows a run of digits that has to be there. -/
def afterRun? (cs : List Char) : Option (List Char) :=
  if (cs.takeWhile isRunChar).any isDigit then some (cs.dropWhile isRunChar) else none

/-- The exponent that may end a decimal fraction, and nothing after it. -/
def isExponent : List Char → Bool
  | [] => true
  | c :: cs => (c == 'e' || c == 'E') && afterRun? (withoutSign cs) == some []

/-- The fraction and the exponent that may follow the whole part. -/
def isTail : List Char → Bool
  | '.' :: cs => (afterRun? cs).any isExponent
  | cs => isExponent cs

/-- A superfluous zero starts the run of digits. -/
def hasLeadingZero (cs : List Char) : Bool :=
  cs.head? == some '0' && decide (1 < ((cs.takeWhile isRunChar).filter isDigit).length)

/-- The decimal fraction that a text with a sign or without one outlines. -/
def decimal? (cs : List Char) : Option Numeral :=
  let body := withoutSign cs
  if isGrouped isDigit cs && !hasLeadingZero body && (afterRun? body).any isTail then
    some (.decimal (ungrouped cs))
  else none

/-- The decimal integer that a text with a sign or without one outlines. What follows the
first mark is only looked at where marks stand. -/
def integer? (cs : List Char) : Option Numeral :=
  let body := withoutSign cs
  if isGrouped (isDigitIn 16) cs && (body.head? != some '0' || body.length == 1) then
    some (.integer 10 (ungrouped cs))
  else none

/-- The integer that a run of digits in a base outlines; there may be none. -/
def integerIn? (base : Nat) (cs : List Char) : Option Numeral :=
  if cs = [] ∨ (pieces groupMark cs).all fun run => run != [] && run.all (isDigitIn base) then
    some (.integer base (ungrouped cs))
  else none

/-! ## Values -/

/-- The value of digits in a base, if there are any and all are digits there. -/
def magnitude? (base : Nat) (cs : List Char) : Option Nat :=
  if cs = [] then none
  else (cs.mapM (digit? base)).map fun ds => ds.foldl (fun n d => base * n + d) 0

/-- An integer has a value that fits into 128 bits. -/
def isReadableInteger (base : Nat) : List Char → Bool
  | '-' :: cs => (magnitude? base cs).any fun n => decide (n ≤ 0x80000000000000000000000000000000)
  | cs =>
    (magnitude? base (withoutSign cs)).any fun n =>
      decide (n < 0x100000000000000000000000000000000)

/-- From here on a decimal fraction rounds to infinity: halfway between the largest number
with 53 binary digits and an exponent below 1024, and the next one. -/
def infinityFrom : Nat := (Nat.pow 2 54 - 1) * Nat.pow 2 970

/-- The number of digits, superfluous zeros left out. -/
def digitCount (cs : List Char) : Nat := (cs.dropWhile (· == '0')).length

/-- Digits, scaled by a power of ten, make a number that does not round to infinity. Numbers
of very different size are told apart by their digit counts. -/
def isFinite (digits : List Char) (scale : Int) : Bool :=
  let size : Int := digitCount digits + scale
  if digitCount digits = 0 ∨ size ≤ 308 then true
  else if 310 ≤ size then false
  else
    let m := digitsValue digits
    if 0 ≤ scale then decide (m * Nat.pow 10 scale.toNat < infinityFrom)
    else decide (m < infinityFrom * Nat.pow 10 (-scale).toNat)

/-- The value of an exponent. -/
def exponentValue : List Char → Int
  | '-' :: cs => -(digitsValue cs : Int)
  | cs => digitsValue (withoutSign cs)

/-- The part before the exponent, and the value of the exponent. -/
def cutExponent (cs : List Char) : List Char × Int :=
  match (cut 'e' cs).or (cut 'E' cs) with
  | some (digits, exponent) => (digits, exponentValue exponent)
  | none => (cs, 0)

/-- A decimal fraction has a value that is not infinite. -/
def isReadableDecimal (cs : List Char) : Bool :=
  let (digits, exponent) := cutExponent (withoutSign cs)
  match cut '.' digits with
  | some (whole, fraction) => isFinite (whole ++ fraction) (exponent - fraction.length)
  | none => isFinite digits exponent

/-- The number has a value. -/
def Numeral.isReadable : Numeral → Bool
  | .integer base spelling => isReadableInteger base spelling
  | .decimal spelling => isReadableDecimal spelling
  | .special => true

end SieveRun.Toml
