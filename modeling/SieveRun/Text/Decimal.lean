/-!
# Numerals

Numerals are read from ASCII digits only. A *count* fits in 32 bits; where the parameters
hold a count it may carry one plus sign, and on the command line it may carry either sign as
long as the value is in range, so `-0` is a count there and `-1` is not.
-/

namespace SieveRun.Text

/-- An ASCII decimal digit. -/
def isDigit (c : Char) : Bool := decide ('0' ≤ c) && decide (c ≤ '9')

/-- The value of a digit. -/
def digitValue (c : Char) : Nat := c.toNat - '0'.toNat

/-- The value of a hexadecimal digit. -/
def hexDigit? (c : Char) : Option Nat :=
  if isDigit c then some (digitValue c)
  else if 'a' ≤ c ∧ c ≤ 'f' then some (c.toNat - 'a'.toNat + 10)
  else if 'A' ≤ c ∧ c ≤ 'F' then some (c.toNat - 'A'.toNat + 10)
  else none

/-- The number written by a run of digits, most significant first. -/
def digitsValue (cs : List Char) : Nat := cs.foldl (fun n c => 10 * n + digitValue c) 0

/-- The number written by a nonempty run of digits, and nothing for any other text. -/
def numeral? (cs : List Char) : Option Nat :=
  if cs ≠ [] ∧ cs.all isDigit then some (digitsValue cs) else none

/-- Counts are smaller than this: they fit in 32 bits. -/
def countLimit : Nat := 0x100000000

/-- The largest count. -/
def maxCount : Nat := countLimit - 1

/-- A numeral that is a count. -/
def smallNumeral? (cs : List Char) : Option Nat :=
  (numeral? cs).filter fun n => decide (n < countLimit)

/-- A count with at most one plus sign before it. -/
def count? : List Char → Option Nat
  | '+' :: cs => smallNumeral? cs
  | cs => smallNumeral? cs

/-- A count with at most one sign before it; with a minus sign only zero is in range. -/
def signedCount? : List Char → Option Nat
  | '-' :: cs => (numeral? cs).filter fun n => decide (n = 0)
  | cs => count? cs

/-- Without a sign at the start. -/
def withoutSign : List Char → List Char
  | '+' :: cs => cs
  | '-' :: cs => cs
  | cs => cs

/-- The numeral of a number, without superfluous zeros. -/
def numeral (n : Nat) : String := String.ofList (Nat.toDigits 10 n)

end SieveRun.Text
