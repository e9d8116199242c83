import SieveRun.CommandLine.Parser
import SieveRun.Configuration
import SieveRun.Layout.File
import SieveRun.Report.Filter
import SieveRun.Report.Line

/-!
# The program

A call of the program is its arguments and environment variables. The answer is an exit
code, a text for the standard output, lines for the screen, and the file system afterwards.
When a run can be configured, its parameters are printed and scratch data stays, for the
computation that follows; otherwise nothing will run in the scratch directories, so they are
removed.
-/

namespace SieveRun

open Text

/-- How the program is called. -/
structure Call where
  arguments : List Argument
  /-- The environment variables by their names. -/
  environment : List (String × List UInt8) := []
  /-- The directory of the executable. -/
  home : Path
  platformCores : Nat := 1
  /-- The name endings to try for a scratch directory, in order. -/
  scratchNames : List String := []

/-- What the program answers. -/
structure Report where
  code : Nat
  output : String := ""
  lines : List ReportLine := []
  /-- The lines are shown without colours. -/
  plain : Bool := true

namespace Call

/-- The environment variables that are consulted. -/
def variableNames : List String :=
  ["NCPUS_FAKE", "CADO_DEBUG", "TMPDIR", "XDG_CONFIG_HOME", "HOME", "RUST_LOG"]

/-- The bytes of an environment variable. -/
def bytesOf? (call : Call) (name : String) : Option (List UInt8) := call.environment.lookup name

/-- The text of an environment variable that holds one. -/
def textOf? (call : Call) (name : String) : Option String := (call.bytesOf? name).bind utf8?

/-- The environment variables that matter to a run. -/
def surroundings (call : Call) : Surroundings where
  fakeCores := call.textOf? "NCPUS_FAKE"
  debugging := (call.bytesOf? "CADO_DEBUG").any fun value => value != []
  platformCores := call.platformCores
  temporary := ((call.bytesOf? "TMPDIR").map Path.mk).getD (.ofText "/tmp")
  scratchNames := call.scratchNames

/-- The directory of configuration files. -/
def configuration (call : Call) : Path :=
  match (call.bytesOf? "XDG_CONFIG_HOME").filter fun value => (Path.mk value).isAbsolute with
  | some value => ⟨value⟩
  | none =>
    match (call.bytesOf? "HOME").filter fun value => value != [] with
    | some value => (Path.mk value).child ".config"
    | none => .ofText "."

/-- The events to be shown: what the filter in the environment says, or else the level for
the screen. -/
def filter (call : Call) (inv : Invocation) : Filter :=
  ((call.textOf? "RUST_LOG").bind Filter.ofText?).getD (.upTo inv.screenLog.severity)

/-- The layout of the installation. -/
def layout (call : Call) (inv : Invocation) (files : FileSystem) : Except LayoutError Layout :=
  let instead := Layout.besideExecutable call.home
  match inv.layout with
  | some file => instead.ofFile files file
  | none => instead.ofConfiguration files call.configuration

end Call

/-! ## Reports -/

/-- The name of the program. -/
def programName : String := "cado-toplevel"

/-- The version of the program. -/
def programVersion : String := "0.3.0"

/-- A short help text. -/
def usage : String :=
  "Usage: " ++ programName ++ " [OPTIONS] [TOKENS]...\n\nOptions:\n" ++
    String.join (Flag.longNames.map fun entry => "  --" ++ entry.1 ++ "\n")

/-- Why a command line is not understood, in words. -/
def UsageError.words : UsageError → String
  | .unknownArgument => "an argument is not known"
  | .invalidValue => "a value is missing"
  | .notText => "a value is not text"
  | .valueRefused => "a value is not among those that are taken"
  | .unexpectedValue => "an option takes no value"
  | .repeated => "an option is given twice"
  | .helpWanted => "help is asked for"
  | .versionWanted => "the version is asked for"

/-- The report on a command line that starts no run. -/
def usageReport : UsageError → Report
  | .helpWanted => { code := 0, output := usage }
  | .versionWanted => { code := 0, output := programName ++ " " ++ programVersion ++ "\n" }
  | e => { code := 2, lines := [.words ("error: " ++ e.words)] }

/-- The report on a layout that cannot be had. -/
def layoutReport (inv : Invocation) (e : LayoutError) : Report :=
  let place := match inv.layout with
    | some file => " from " ++ file.text
    | none => ""
  let causes := e.message :: (e.cause?.map FileError.message).toList
  { code := 1, lines := errorLines ("failed to load layout" ++ place) causes, plain := inv.plain }

/-- The lines on the events of a session. -/
def eventLines (call : Call) (inv : Invocation) (session : Session) : List ReportLine :=
  let display : Display := ⟨inv.verbose, call.surroundings.debugging⟩
  ((session.shown display).filter (call.filter inv).shows).map .event

/-- The report on a run that failed. -/
def failureReport (call : Call) (inv : Invocation) (e : RunError) (session : Session) : Report :=
  let causes := (e.cause?.map FileError.message).toList
  { code := 1, lines := eventLines call inv session ++ errorLines e.message causes,
    plain := inv.plain }

/-- The report on a run that is ready to start. -/
def successReport (call : Call) (inv : Invocation) (c : Configuration) (session : Session) :
    Report :=
  { code := 0, output := c.parameters.text, lines := eventLines call inv session,
    plain := inv.plain }

/-! ## Runs -/

/-- Remove the scratch directories of a failed run; it is noted when that fails too. -/
def cleanUp (debugging : Bool) : Stage Unit :=
  tryCatch (dispose debugging .purge) fun e => note (.cleaningFailed e)

/-- Say what a run starts from, and leave its scratch data in place. -/
def announce (debugging : Bool) (c : Configuration) : Stage Unit := do
  note (.settled c.number.digits c.parameterFile c.isDefault)
  note (.fileLogLevel c.workdir c.fileLog)
  dispose debugging .keep

/-- Run the program on a command line that was understood and a layout. -/
def runIn (call : Call) (inv : Invocation) (layout : Layout) (files : FileSystem) :
    Report × FileSystem :=
  let surroundings := call.surroundings
  match (configure inv layout surroundings).runOn (.ofFiles files) with
  | (.error e, session) =>
    let (_, session) := (cleanUp surroundings.debugging).runOn session
    (failureReport call inv e session, session.files)
  | (.ok c, session) =>
    let (_, session) := (announce surroundings.debugging c).runOn session
    (successReport call inv c session, session.files)

/-- Run the program. -/
def run (call : Call) (files : FileSystem) : Report × FileSystem :=
  match Invocation.ofArguments call.arguments with
  | .error e => (usageReport e, files)
  | .ok inv =>
    match call.layout inv files with
    | .error e => (layoutReport inv e, files)
    | .ok layout => runIn call inv layout files

end SieveRun
