import SieveRun.Session
import SieveRun.Text.WordChar

/-!
# Rules for free-form tokens

A free-form token is a number, a parameter file, a working directory or an option, and which
of these is decided by an ordered table: the first rule that applies takes the token.
Numbers come first, so a run of digits is never taken for a path.

The test of the number rule accepts digits of every script, and its action only those of
ASCII: a token of other digits is taken by the rule and then refused.
-/

namespace SieveRun

open Text

/-- The flags that free-form tokens compete with. -/
structure NamedFlags where
  parameters : Option Path := none
  workdir : Option Path := none
  /-- A server thread count was given. -/
  serverThreads : Bool := false
  /-- A client thread count was given. -/
  clientThreads : Bool := false
  /-- Becomes the last option. -/
  ell : Option String := none
  deriving DecidableEq, Repr

/-- What a token stands for. -/
inductive TokenRole where
  | number (n : Number)
  | parameterFile (file : Path)
  | workdir (directory : Path)
  /-- An option, as it was written. -/
  | option (text : String)
  deriving DecidableEq, Repr

/-- What a rule may look at besides the token. -/
structure TokenContext where
  files : FileSystem
  flags : NamedFlags
  /-- How many parameter files are known, the flag's included. -/
  parameterFiles : Nat
  /-- How many working directories are known, the flag's included. -/
  workdirs : Nat

/-- A rule of the table. -/
structure SortingRule where
  name : String
  description : String
  applies : TokenContext → String → Bool
  role : TokenContext → String → Except RunError TokenRole

/-! ## What tokens look like -/

/-- The digits of a bare number or of `N=<digits>`; the digits may be of any script. -/
def numberDigits? (token : String) : Option (List Char) :=
  let cs := token.toList
  let digits := (afterStart? ['N', '='] cs).getD cs
  if digits ≠ [] ∧ digits.all isAnyDigit then some digits else none

/-- The directory of `workdir=<directory>` or `tasks.workdir=<directory>`, which is on one
line. -/
def assignedWorkdir? (token : String) : Option String :=
  let cs := token.toList
  let cs := (afterStart? "tasks.".toList cs).getD cs
  (afterStart? "workdir=".toList cs).bind fun directory =>
    if '\n' ∈ directory then none else some (String.ofList directory)

/-- The token assigns the server thread count. -/
def assignsServerThreads (token : String) : Bool :=
  (afterStart? "tasks.threads=".toList token.toList).isSome

/-- Dotted words of any script, each after its dot, and then a last name and an equals sign:
the rest of a family's thread option. The runs between dots are given; the last one holds
what follows the equals sign too. -/
def endsInThreads : List (List Char) → Bool
  | [] => false
  | run :: rest =>
    (afterStart? "threads=".toList run).isSome ||
      (run ≠ [] && run.all isWord && endsInThreads rest)

/-- The token assigns the thread count of a task family, or of a part of one. -/
def assignsFamilyThreads (token : String) : Bool :=
  match pieces '.' token.toList with
  | tasks :: family :: rest =>
    tasks == "tasks".toList && (family == "sieve".toList || family == "polyselect".toList) &&
      endsInThreads rest
  | _ => false

/-! ## The table -/

/-- A bare number, or `N=` before it. -/
def numberRule : SortingRule where
  name := "number"
  description := "N=<digits> or bare digits"
  applies := fun _ token => (numberDigits? token).isSome
  role := fun _ token =>
    match Number.ofText? (String.ofList ((numberDigits? token).getD token.toList)) with
    | some n => .ok (.number n)
    | none => .error (.unrecognized token)

/-- A file, as long as no parameter file is known. -/
def parameterFileRule : SortingRule where
  name := "parameter-file"
  description := "existing file, while no parameter file is known"
  applies := fun context token =>
    context.parameterFiles == 0 && context.files.isFile (.ofText token)
  role := fun _ token => .ok (.parameterFile (.ofText token))

/-- A directory or a free place for one, as long as no working directory is known. -/
def workdirPathRule : SortingRule where
  name := "workdir-path"
  description := "existing or creatable directory, while no workdir is known"
  applies := fun context token =>
    context.workdirs == 0 && context.files.isDirectoryPlace (.ofText token)
  role := fun _ token => .ok (.workdir (.ofText token))

/-- A working directory spelled as an option. -/
def workdirOptionRule : SortingRule where
  name := "workdir-option"
  description := "workdir=<dir> or tasks.workdir=<dir>"
  applies := fun _ token => (assignedWorkdir? token).isSome
  role := fun _ token => .ok (.workdir (.ofText ((assignedWorkdir? token).getD "")))

/-- Anything with an equals sign, unless a thread flag was given for what it assigns. -/
def optionRule : SortingRule where
  name := "option"
  description := "key=value, checked against the thread flags"
  applies := fun _ token => token.toList.contains '='
  role := fun context token =>
    if context.flags.serverThreads && assignsServerThreads token then
      .error (.conflict (.serverThreads token))
    else if context.flags.clientThreads && assignsFamilyThreads token then
      .error (.conflict (.clientThreads token))
    else .ok (.option token)

/-- A path that would have been taken if none were known; it is always refused. -/
def surplusPathRule : SortingRule where
  name := "surplus-path"
  description := "a second parameter file or workdir"
  applies := fun context token =>
    context.files.isFile (.ofText token) || context.files.isDirectoryPlace (.ofText token)
  role := fun context token =>
    if context.files.isFile (.ofText token) then .error (.conflict (.surplusFile token))
    else .error (.conflict (.surplusDirectory token))

/-- The rules in order. -/
def sortingRules : List SortingRule :=
  [numberRule, parameterFileRule, workdirPathRule, workdirOptionRule, optionRule, surplusPathRule]

end SieveRun
