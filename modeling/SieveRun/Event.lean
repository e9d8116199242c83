import SieveRun.Error
import SieveRun.LogLevel
import SieveRun.Hierarchy.Key

/-!
# The journal of a run

A run notes what it decides as events, and the journal holds them in order. Two kinds are noted
on demand: the *traces* of the parameters, that is, every store and every read that another key
answered (`Event.isTrace`), and that scratch data stays. `Event.isShown` picks from a journal what
a display asks for.
-/

namespace SieveRun

/-- What a run notes. -/
inductive Event where
  /-- A free-form token was taken by a rule. -/
  | tokenTaken (token rule description : String)
  | lookingFor (candidate : String) (directory : Path)
  | usingDefaultFile (file : Path)
  | readingFile (file : Path)
  /-- A value was stored in the hierarchy. -/
  | stored (key value : String)
  /-- A read was answered by another key than the one read. -/
  | inherited (key source : String)
  | scratchMade (directory : Path)
  /-- Scratch data outlives the run when debugging is on. -/
  | scratchStays (directory : Path)
  | directoryMade (directory : Path)
  | coresCounted (key : String) (count : Nat)
  | familyThreads (key value : String)
  | ignoredForServer (key : String)
  | launcherFound (key : String) (directory : Path)
  | keptForDebugging (directory : Path)
  | kept (directory : Path)
  | cleaning (directory : Path)
  | cleaningFailed (cause : RunError)
  /-- The number and the parameter file of the run. -/
  | settled (digits : Nat) (file : Path) (isDefault : Bool)
  | fileLogLevel (workdir : Path) (level : LogLevel)
  deriving DecidableEq, Repr

/-- What is to be shown besides the usual. -/
structure Display where
  /-- Every store and every inherited read. -/
  parameters : Bool := false
  /-- That scratch data stays. -/
  debugging : Bool := false
  deriving DecidableEq, Repr

namespace Event

/-- How grave the event is. -/
def severity : Event → Severity
  | .tokenTaken .. | .lookingFor .. | .readingFile .. => .debug
  | .directoryMade .. | .fileLogLevel .. => .debug
  | .ignoredForServer .. | .cleaningFailed .. => .warn
  | _ => .info

/-- The part of the program that notes the event. -/
def target : Event → String
  | .tokenTaken .. => "cado_toplevel::args::classifier"
  | .lookingFor .. | .usingDefaultFile .. => "cado_toplevel::resolve::locator"
  | .readingFile .. | .stored .. | .inherited .. => "cado_toplevel::params::hierarchy"
  | .scratchMade .. | .scratchStays .. | .directoryMade .. => "cado_toplevel::resolve::inputs"
  | .coresCounted .. | .familyThreads .. => "cado_toplevel::plan::threads"
  | .ignoredForServer .. | .launcherFound .. => "cado_toplevel::plan::slaves"
  | .keptForDebugging .. | .kept .. | .cleaning .. => "cado_toplevel::resolve::purge"
  | .cleaningFailed .. | .settled .. | .fileLogLevel .. => "cado_toplevel"

/-- The names of the fields of the event: all there is to it is its message. -/
def fieldNames (_ : Event) : List String := ["message"]

/-- The event in words. -/
def message : Event → String
  | .tokenTaken token rule description => s!"{token} classified by rule {rule} ({description})"
  | .lookingFor candidate directory =>
    s!"Looking for parameter file for {candidate} in directory {directory.text}"
  | .usingDefaultFile file => s!"Using default parameter file {file.text}"
  | .readingFile file => s!"Reading parameter file {file.text}"
  | .stored key value => s!"set {key} = {value}"
  | .inherited key source => s!"{key} inherited from {source}"
  | .scratchMade directory => s!"Created temporary directory {directory.text}"
  | .scratchStays directory => s!"CADO_DEBUG is on, data will be kept in {directory.text}"
  | .directoryMade directory => s!"Created directory {directory.text}"
  | .coresCounted key count => s!"Set {key}={count} based on detected physical cpus"
  | .familyThreads key value => s!"{key} = {value}"
  | .ignoredForServer key => s!"server mode, ignoring {key}"
  | .launcherFound key directory => s!"{key} is {directory.text}"
  | .keptForDebugging directory => s!"CADO_DEBUG is on, data kept in {directory.text}"
  | .kept directory => s!"Computation data kept in {directory.text}"
  | .cleaning directory => s!"Cleaning up computation data in {directory.text}"
  | .cleaningFailed cause => cause.message
  | .settled digits file isDefault =>
    s!"N has {digits} digits, parameters from {file.text}" ++
      if isDefault then " (shipped default)" else ""
  | .fileLogLevel workdir level => s!"Log file level for {workdir.text} is {level.text}"

/-- The event traces a store or an inherited read. -/
def isTrace : Event → Bool
  | .stored .. | .inherited .. => true
  | _ => false

/-- The event is among those to be shown. -/
def isShown (display : Display) : Event → Bool
  | .stored .. | .inherited .. => display.parameters
  | .scratchStays .. => display.debugging
  | _ => true

end Event

end SieveRun
