import SieveRun.Input.Shipped
import SieveRun.Input.Scratch
import SieveRun.Token.Sorted

/-!
# Number, parameter file and working directory

The three are decided together. A given number without a file takes the shipped file for its
size; with a file, that file has to record the same number or none. Without a number there
has to be a file, and the file has to define one. The working directory is the one given,
else the one that a read of `tasks.workdir` sees, else a fresh scratch directory, which the
run answers for; in the end it is there.
-/

namespace SieveRun

/-- Where the number is stored. -/
def numberKey : Key := ⟨[], "N"⟩

/-- The read that has to agree with a given number. -/
def taskNumberKey : Key := ⟨["tasks"], "N"⟩

/-- Where the working directory is stored. -/
def workdirKey : Key := ⟨["tasks"], "workdir"⟩

/-- What a run works on, and where. -/
structure DecidedInputs where
  number : Number
  parameterFile : Path
  /-- The file was found among the shipped ones. -/
  isDefault : Bool
  workdir : Path
  deriving DecidableEq, Repr

/-- The file for a given number: the one named, or a shipped one. -/
def fileFor (named : Option Path) (defaults : ShippedFiles) (n : Number) :
    Stage (Path × Bool) := do
  match named with
  | some file => pure (file, false)
  | none => pure (← defaults.find n, true)

/-- A file that records a number has to record the given one. -/
def agreeWithFile (n : Number) (file : Path) : Stage Unit := do
  match ← read? taskNumberKey with
  | none => pure ()
  | some stored =>
    if Number.ofText? stored = some n then pure ()
    else throw (.disagreement (.number n stored file))

/-- Read the file for a given number. -/
def withNumber (n : Number) (named : Option Path) (defaults : ShippedFiles) :
    Stage (Number × Path × Bool) := do
  let (file, isDefault) ← fileFor named defaults n
  mergeFile file
  agreeWithFile n file
  store numberKey n.text
  pure (n, file, isDefault)

/-- Read a file that has to define the number. -/
def numberFromFile (file : Path) : Stage (Number × Path × Bool) := do
  mergeFile file
  match (← readNumber? numberKey).filter fun n => !n.isZero with
  | some n => pure (n, file, false)
  | none => throw (.noNumber (.notDefined file))

/-- Decide the number and the parameter file, and read the file. A given zero is no number. -/
def decideNumber (sorted : SortedTokens) (defaults : ShippedFiles) :
    Stage (Number × Path × Bool) :=
  match sorted.number.filter (fun n => !n.isZero), sorted.parameters with
  | some n, named => withNumber n named defaults
  | none, some file => numberFromFile file
  | none, none => throw (.noNumber .noFile)

/-- Make a fresh scratch directory the working directory, and track it. -/
def makeScratchWorkdir (surroundings : Surroundings) : Stage Path := do
  match (← get).files.makeScratch surroundings.temporary surroundings.scratchNames with
  | .error cause => throw (.file .makeScratch surroundings.temporary cause)
  | .ok (directory, files) =>
    modify fun s => { s with files := files }
    note (.scratchMade directory)
    store workdirKey directory.text
    track directory
    noteIf surroundings.debugging (.scratchStays directory)
    pure directory

/-- See to it that a directory is there. -/
def ensureDirectory (directory : Path) : Stage Unit := do
  if (← get).files.isDirectory directory then pure ()
  else
    let (files, outcome) := (← get).files.makeDirectories directory
    modify fun s => { s with files := files }
    match outcome with
    | .error cause => throw (.file .makeDirectory directory cause)
    | .ok () => note (.directoryMade directory)

/-- Decide the working directory and see to it that it is there. -/
def decideWorkdir (given : Option Path) (surroundings : Surroundings) : Stage Path := do
  match given with
  | some directory => store workdirKey directory.text
  | none => pure ()
  let directory ←
    match ← read? workdirKey with
    | some text => pure (Path.ofText text)
    | none => makeScratchWorkdir surroundings
  ensureDirectory directory
  pure directory

/-- Decide number, parameter file and working directory. -/
def decideInputs (sorted : SortedTokens) (defaults : ShippedFiles)
    (surroundings : Surroundings) : Stage DecidedInputs := do
  let (n, file, isDefault) ← decideNumber sorted defaults
  let workdir ← decideWorkdir sorted.workdir surroundings
  pure ⟨n, file, isDefault, workdir⟩

end SieveRun
