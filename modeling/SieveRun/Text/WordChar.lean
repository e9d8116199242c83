import SieveRun.Text.Blank
import SieveRun.Text.Decimal
import SieveRun.Text.LetterTable
import SieveRun.Text.WordTable

/-!
# Digits, letters and word characters of any script

The tests on free-form tokens look at characters of every script: a token made of
Arabic-Indic digits is taken for a number before it is found not to be one in ASCII. ASCII
is decided by rule and the rest by table.
-/

namespace SieveRun.Text

/-- A decimal digit of any script. -/
def isAnyDigit (c : Char) : Bool := isDigit c || inRanges wideDigitRanges c

/-- An ASCII letter. -/
def isAsciiLetter (c : Char) : Bool :=
  (decide ('A' ≤ c) && decide (c ≤ 'Z')) || (decide ('a' ≤ c) && decide (c ≤ 'z'))

/-- A word character of any script. -/
def isWord (c : Char) : Bool :=
  isDigit c || isAsciiLetter c || c == '_' || inRanges wideWordRanges c

/-- A letter of any script. -/
def isLetter (c : Char) : Bool :=
  isAsciiLetter c || inRanges recentLetterRanges c ||
    (inRanges wideWordRanges c && !inRanges wideDigitRanges c && !inRanges wideJoinerRanges c)

/-- A letter or a number of any script. -/
def isLetterOrNumber (c : Char) : Bool :=
  isLetter c || isAnyDigit c || inRanges wideNumberRanges c

end SieveRun.Text
