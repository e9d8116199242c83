import SieveRun.Reach
import SieveRun.Report.Clock
import Std.Time.DateTime.Timestamp

/-!
# The command

Observes the arguments, the environment and the part of the file system that the call may
look at, asks the library what is to be done, and does it: makes and removes directories,
prints, and ends with the exit code.
-/

namespace SieveRun.Command

/-- The text of the absolute path of a route. -/
def placeOf (r : Route) : String := (FileSystem.routePath r).text

/-- What is at a route. -/
def observe (r : Route) : IO (Option Entry) := do
  let place := (← IO.currentDir) / placeOf r
  if !(← place.pathExists) then return none
  else if ← place.isDir then return some .directory
  else
    match (← place.metadata).type with
    | .file => return some (.file (← IO.FS.readBinFile place).data.toList)
    | _ => return some .device

/-- The entries on the way along some paths. -/
def snapshot (current : Route) (paths : List Path) : IO FileSystem := do
  let routes := (paths.flatMap (FileSystem.routesOf current)).eraseDups
  let entries ← routes.filterMapM fun r => return (← observe r).map fun e => (r, e)
  return ⟨entries, current⟩

/-- The names from the root down to the directory that the command is run in. -/
def currentRoute : IO Route := do
  let here := Path.ofText (← IO.currentDir).toString
  return here.components.filterMap fun c =>
    match c with
    | .name bytes => some bytes
    | _ => none

/-- Look at all that the call may look at. -/
def lookAround (call : Call) : IO FileSystem := do
  let current ← currentRoute
  let here := FileSystem.routePath current
  let mut files : FileSystem := ⟨[], current⟩
  for _ in List.range reachRounds do
    files ← snapshot current (here :: call.reach files)
  return files

/-- The letters and digits of scratch names. -/
def nameLetters : List Char :=
  "ABCDEFGHIJKLMNOPQRSTUVWXYZabcdefghijklmnopqrstuvwxyz0123456789".toList

/-- A name ending for a scratch directory. -/
def scratchName : IO String := do
  let bytes ← IO.getRandomBytes 6
  return String.ofList (bytes.data.toList.map fun b =>
    nameLetters.getD (b.toNat % nameLetters.length) 'A')

/-- The call that this process was started with. -/
def callOf (args : List String) : IO Call := do
  let environment ← Call.variableNames.filterMapM fun name =>
    return (← IO.getEnv name).map fun value => (name, Text.utf8 value)
  let home := ((← IO.appPath).parent.map toString).getD "."
  let names ← (List.range 16).mapM fun _ => scratchName
  return {
    arguments := args.map Text.utf8
    environment := environment
    home := Path.ofText home
    scratchNames := names }

/-- Carry a change of the file system out. -/
def carryOut (before after : FileSystem) : IO Unit := do
  for r in FileSystem.madeSince before after do
    IO.FS.createDir (placeOf r)
  for r in FileSystem.goneSince before after do
    if (before.entry? r) == some .directory then IO.FS.removeDirAll (placeOf r)
    else IO.FS.removeFile (placeOf r)

/-- The time as a report shows it. -/
def now : IO String := do
  return Clock.text (← Std.Time.Timestamp.now).toNanosecondsSinceUnixEpoch.val.toNat

end SieveRun.Command

open SieveRun in
/-- Run the program on the arguments of the process. -/
def main (args : List String) : IO UInt32 := do
  let call ← Command.callOf args
  let before ← Command.lookAround call
  let (report, after) := run call before
  Command.carryOut before after
  for line in report.lines do
    IO.eprintln (line.text report.plain (← Command.now))
  IO.print report.output
  (← IO.getStdout).flush
  return UInt32.ofNat report.code
