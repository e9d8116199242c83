import SieveRun.FileSystem.Basic
import SieveRun.Number
import SieveRun.Hierarchy.Assignment

/-!
# What can go wrong

Each error records its cause; the wording is decided in one place, `RunError.message`. Some
errors arise from a file-system failure, which is the next link of the chain that a report
shows (`RunError.cause?`).
-/

namespace SieveRun

/-- Texts with a comma between neighbours. -/
def commaSeparated (texts : List String) : String := ", ".intercalate texts

/-- Reading parameters failed. -/
inductive ParameterError where
  | unreadable (file : Path) (cause : FileError)
  /-- A line of the named origin is neither empty nor an assignment. -/
  | malformed (origin : String) (fault : Assignment.Fault)
  | missing (key : String)
  | invalid (key value : String)
  deriving DecidableEq, Repr

/-- The wording of a parameter error. -/
def ParameterError.message : ParameterError → String
  | .unreadable file cause =>
    s!"Failed to read parameter file '{file.text}': {cause.message}"
  | .malformed origin fault =>
    s!"{origin}:{fault.line}: cannot parse '{fault.text}' as key=value"
  | .missing key => s!"Parameter {key} is not set"
  | .invalid key value => s!"Invalid value for {key}: '{value}'"

/-- Two sources supply what only one may supply. -/
inductive Conflict where
  | numbers (all : List Number)
  | parameterFiles (all : List Path)
  | workdirs (all : List Path)
  /-- A file is named although a parameter file is known. -/
  | surplusFile (token : String)
  /-- A directory is named although a working directory is known. -/
  | surplusDirectory (token : String)
  | serverThreads (token : String)
  | clientThreads (token : String)
  deriving DecidableEq, Repr

/-- The wording of a conflict. -/
def Conflict.message : Conflict → String
  | .numbers all =>
    "total of free-form N in command line and N= options cannot exceed 1 (got " ++
      commaSeparated (all.map Number.text) ++ ")"
  | .parameterFiles all =>
    "total of free-form files in command line and --parameters argument cannot exceed 1 (got " ++
      commaSeparated (all.map Path.text) ++ ")"
  | .workdirs all =>
    "total of free-form directory paths in command line and --workdir argument cannot exceed 1 " ++
      "(got " ++ commaSeparated (all.map Path.text) ++ ")"
  | .surplusFile token =>
    token ++ ": total of free-form files in command line and --parameters argument " ++
      "cannot exceed 1"
  | .surplusDirectory token =>
    token ++ ": total of free-form directory paths in command line and --workdir argument " ++
      "cannot exceed 1"
  | .serverThreads token => "--server-threads conflicts with " ++ token
  | .clientThreads token => "--client-threads conflicts with " ++ token

/-- Two values that should agree do not. -/
inductive Disagreement where
  /-- The number given is not the one that the file records. -/
  | number (given : Number) (stored : String) (file : Path)
  /-- Sockets differ in their core counts. -/
  | coresPerSocket (counts : List Nat)
  deriving DecidableEq, Repr

/-- The wording of a disagreement. -/
def Disagreement.message : Disagreement → String
  | .number given stored file =>
    s!"given N {given.text} differs from N={stored} stored in {file.text}"
  | .coresPerSocket counts =>
    "inhomogeneous platform: cpu cores per socket differ (" ++
      commaSeparated (counts.map Text.numeral) ++ ")"

/-- There is no number to work on. -/
inductive NumberGap where
  | noFile
  | notDefined (file : Path)
  deriving DecidableEq, Repr

/-- The wording of a missing number. -/
def NumberGap.message : NumberGap → String
  | .noFile => "if N is not given, a parameter file is required"
  | .notDefined file => s!"{file.text} must define N"

/-- What a run was doing with a path when the file system failed it. -/
inductive FileAction where
  | makeScratch
  | makeDirectory
  | remove
  | read
  | makeAbsolute
  deriving DecidableEq, Repr

/-- The action in words. -/
def FileAction.words : FileAction → String
  | .makeScratch => "create temporary directory in"
  | .makeDirectory => "create directory"
  | .remove => "remove"
  | .read => "read"
  | .makeAbsolute => "resolve"

/-- Why a run cannot be configured. -/
inductive RunError where
  | conflict (cause : Conflict)
  | unrecognized (token : String)
  | noDefaultFile (tried : List String)
  | disagreement (cause : Disagreement)
  | noNumber (cause : NumberGap)
  | noLauncher (script : Path)
  | params (cause : ParameterError)
  | file (action : FileAction) (path : Path) (cause : FileError)
  deriving DecidableEq, Repr

namespace RunError

/-- The wording of an error. -/
def message : RunError → String
  | .conflict cause => "Conflicting arguments: " ++ cause.message
  | .unrecognized token => "Free-form argument not understood: " ++ token
  | .noDefaultFile tried =>
    "No parameter file found for " ++ tried.headD "" ++ " (tried " ++ commaSeparated tried ++ ")"
  | .disagreement cause => "Inconsistent value: " ++ cause.message
  | .noNumber cause => "Missing required value: " ++ cause.message
  | .noLauncher script =>
    s!"Could not find file named {script.text}, cannot run clients"
  | .params cause => cause.message
  | .file action path cause =>
    s!"Failed to {action.words} '{path.text}': {cause.message}"

/-- The file-system failure that an error arose from. -/
def cause? : RunError → Option FileError
  | .params (.unreadable _ cause) => some cause
  | .file _ _ cause => some cause
  | _ => none

end RunError

end SieveRun
