import SieveRun.Text.Blank
import SieveRun.Text.Decimal

/-!
# The number to factor

The number that a run factors, or the modulus of its discrete logarithms. It has hundreds of
digits, so it is a natural number and never a machine word; two spellings that differ in
leading zeros are the same number. Zero stands for "no number", wherever it comes from.
-/

namespace SieveRun

open Text

/-- The number a run works on. -/
structure Number where
  value : Nat
  deriving DecidableEq, Repr

namespace Number

/-- The number written by a text: a nonempty run of ASCII digits between blanks. -/
def ofText? (text : String) : Option Number := (numeral? (trim text.toList)).map Number.mk

/-- The decimal numeral, without superfluous zeros. -/
def text (n : Number) : String := numeral n.value

/-- How many decimal digits the number has; zero has one. -/
def digits (n : Number) : Nat := n.text.length

/-- The number stands for "no number". -/
def isZero (n : Number) : Bool := n.value == 0

end Number

/-- What is said about a text that is no number: the text without its outer blanks is quoted. -/
def notANumber (text : String) : String :=
  s!"'{String.ofList (trim text.toList)}' is not a decimal integer"

end SieveRun
