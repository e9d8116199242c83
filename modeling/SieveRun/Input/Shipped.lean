import SieveRun.Session

/-!
# Shipped parameter files

Parameters are shipped for numbers of certain sizes, as `factor/params.c<digits>` and, for
discrete logarithms, `dlp/params.p<digits>`, with `dd<degree>` at the end for an extension
field. A number takes the file of its own size; failing that, the file of the multiple of
five nearest to it. No size is halfway between two multiples of five.
-/

namespace SieveRun

/-- What is computed about the number. -/
inductive Goal where
  | factoring
  | discreteLog
  deriving DecidableEq, Repr

namespace Goal

/-- The goal that the flag for discrete logarithms selects. -/
def ofFlag (discreteLog : Bool) : Goal := if discreteLog then .discreteLog else .factoring

/-- The directory of the goal's files. -/
def directory : Goal → String
  | .factoring => "factor"
  | .discreteLog => "dlp"

/-- The letter in the names of the goal's files. -/
def letter : Goal → String
  | .factoring => "c"
  | .discreteLog => "p"

end Goal

/-- Which shipped files a run may take. -/
structure ShippedFiles where
  data : Path
  goal : Goal
  /-- The degree of the extension field; zero when there is none. -/
  degree : Nat
  deriving DecidableEq, Repr

namespace ShippedFiles

/-- The multiple of five nearest to a size. -/
def roundedSize (size : Nat) : Nat := (size + 2) / 5 * 5

/-- The ending of a file name for a size. -/
def candidate (goal : Goal) (degree size : Nat) : String :=
  goal.letter ++ Text.numeral size ++ if degree = 0 then "" else "dd" ++ Text.numeral degree

/-- The endings to look for, the exact size first; one when the two sizes coincide. -/
def candidates (n : Number) (goal : Goal) (degree : Nat) : List String :=
  let exact := candidate goal degree n.digits
  let rounded := candidate goal degree (roundedSize n.digits)
  if rounded = exact then [exact] else [exact, rounded]

/-- The directory of the goal's files. -/
def directory (d : ShippedFiles) : Path := d.data.child d.goal.directory

/-- The file with an ending. -/
def file (d : ShippedFiles) (candidate : String) : Path :=
  d.directory.child ("params." ++ candidate)

/-- The first candidate that is a file. -/
def firstFile? (d : ShippedFiles) (files : FileSystem) (n : Number) : Option Path :=
  ((candidates n d.goal d.degree).map d.file).find? files.isFile

/-- Find the shipped file for a number. -/
def find (d : ShippedFiles) (n : Number) : Stage Path := do
  let tried := candidates n d.goal d.degree
  note (.lookingFor (tried.headD "") d.directory)
  match d.firstFile? (← get).files n with
  | some file =>
    note (.usingDefaultFile file)
    pure file
  | none => throw (.noDefaultFile tried)

end ShippedFiles

end SieveRun
