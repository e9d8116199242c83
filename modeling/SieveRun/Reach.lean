import SieveRun.FileSystem.Snapshot
import SieveRun.Program

/-!
# What a call may look at

The paths that decide how a call goes. Some follow from the arguments and the environment
alone; the shipped files and the scripts follow from the layout, and a working directory may
be named in a parameter file. So the paths are computed from what is known of the file
system so far, and one round of looking makes the next round know more; after three rounds
nothing new can turn up.
-/

namespace SieveRun

/-- The rounds of looking after which all paths are known. -/
def reachRounds : Nat := 3

namespace Invocation

/-- The paths that the arguments name. -/
def namedPaths (inv : Invocation) : List Path :=
  inv.parameters.toList ++ inv.workdir.toList ++ inv.layout.toList ++
    inv.tokens.map Path.ofText ++ (inv.tokens.filterMap assignedWorkdir?).map Path.ofText

/-- The numbers that the tokens spell. -/
def numbers (inv : Invocation) : List Number :=
  inv.tokens.filterMap fun token =>
    (numberDigits? token).bind fun digits => Number.ofText? (String.ofList digits)

/-- The shipped files that may be looked for. -/
def shippedPaths (inv : Invocation) (layout : Layout) : List Path :=
  let defaults := inv.shippedFiles layout
  inv.numbers.flatMap fun n =>
    (ShippedFiles.candidates n defaults.goal defaults.degree).map defaults.file

end Invocation

/-- The working directories that a parameter file names. -/
def workdirsIn (files : FileSystem) (file : Path) : List Path :=
  match assignmentsIn files file with
  | .error _ => []
  | .ok assignments =>
    (assignments.filter fun a => a.1.leaf == workdirKey.leaf).map fun a => Path.ofText a.2

namespace Call

/-- The paths that follow from the environment. -/
def environmentPaths (call : Call) : List Path :=
  let temporary := call.surroundings.temporary
  processorListing :: Layout.defaultFile call.configuration :: temporary ::
    call.scratchNames.map fun name => temporary.child (FileSystem.scratchStart ++ name)

/-- The paths that follow from a layout. -/
def layoutPaths (inv : Invocation) (layout : Layout) (files : FileSystem) : List Path :=
  let shipped := inv.shippedPaths layout
  let scripts := (launcherDirectories layout).map fun d => d.child launcherScript
  shipped ++ scripts ++ (inv.namedPaths ++ shipped).flatMap (workdirsIn files)

/-- The paths that the call may look at, as far as they follow from what is known. -/
def reach (call : Call) (files : FileSystem) : List Path :=
  match Invocation.ofArguments call.arguments with
  | .error _ => []
  | .ok inv =>
    call.environmentPaths ++ inv.namedPaths ++
      match call.layout inv files with
      | .error _ => []
      | .ok layout => layoutPaths inv layout files

end Call

end SieveRun
