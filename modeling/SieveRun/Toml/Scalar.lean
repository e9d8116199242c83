import SieveRun.Toml.Moment
import SieveRun.Toml.Value

/-!
# Values without quotes or brackets

A run of characters without quotes or brackets spells a truth value, a number or a moment.
Which of these it should be is decided by how it starts, and a run that then is none is
refused.
-/

namespace SieveRun.Toml

open Text

/-- The value of a run of characters after its sign, if there was one, that starts like a
number or a moment. -/
def numeralOrMoment? (cs body : List Char) : Option Value :=
  let rest := body.dropWhile isDigit
  if rest.head? = some '-' ∨ rest.head? = some ':' then
    if isMoment cs then some (.moment (String.ofList cs)) else none
  else if rest.any fun c => c == '.' || c == 'e' || c == 'E' then (decimal? cs).map .numeral
  else if rest = [] ∨ rest.head? = some groupMark then (integer? cs).map .numeral
  else none

/-- Infinity or what is not a number, with a sign or without one. -/
def isSpecial (cs : List Char) : Bool :=
  ["inf".toList, "nan".toList].contains (withoutSign cs)

/-- The value that a run of characters spells. -/
def scalar? (cs : List Char) : Option Value :=
  if cs = "true".toList then some (.truth true)
  else if cs = "false".toList then some (.truth false)
  else if isSpecial cs then some (.numeral .special)
  else
    match cs with
    | '0' :: 'x' :: digits => (integerIn? 16 digits).map .numeral
    | '0' :: 'o' :: digits => (integerIn? 8 digits).map .numeral
    | '0' :: 'b' :: digits => (integerIn? 2 digits).map .numeral
    | cs =>
      if (withoutSign cs).head?.any isRunChar then numeralOrMoment? cs (withoutSign cs) else none

end SieveRun.Toml
