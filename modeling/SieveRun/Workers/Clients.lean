import SieveRun.Input.Decided
import SieveRun.Layout.Basic
import SieveRun.Workers.Threads

/-!
# Clients

How many clients a run starts, on which hosts, and where the script is that launches them. A
bare server starts none and forgets all keys under `slaves`. Otherwise hosts named by the
user get one client unless another count is set, and a run on a shipped parameter file lays
out its own on the local machine: enough of them to use the server's threads. Where clients
are to be started and no script directory is set, it is looked up.
-/

namespace SieveRun

/-- The script that launches a client. -/
def launcherScript : String := "cado-nfs-client.py"

/-- The namespace of the client parameters. -/
def clientSpace : List String := ["slaves"]

/-- Where the number of clients is stored. -/
def clientCountKey : Key := ⟨clientSpace, "nrclients"⟩

/-- Where the hosts are stored. -/
def hostsKey : Key := ⟨clientSpace, "hostnames"⟩

/-- Where the clients' directory is stored. -/
def basePathKey : Key := ⟨clientSpace, "basepath"⟩

/-- Where the directory of the script is stored. -/
def scriptKey : Key := ⟨clientSpace, "scriptpath"⟩

/-- What the command line says about clients. -/
structure ClientRequest where
  /-- Start no clients. -/
  serverOnly : Bool := false
  count : Option Nat := none
  deriving DecidableEq, Repr

/-- The clients of a run. -/
structure ClientPlan where
  count : Nat := 0
  /-- The directory of the script that launches them. -/
  script : Option Path := none
  deriving DecidableEq, Repr

/-- The least number of clients that together use the server's threads; one when the server
has none. -/
def clientsNeeded (threads : ThreadCounts) : Nat :=
  if threads.server = 0 then 1
  else
    let each := max (max threads.polyselect threads.sieve) 1
    (threads.server + each - 1) / each

/-- Forget the client parameters. -/
def dropClients : Stage Unit := do
  let removed ← removeUnder clientSpace
  noteAll (removed.map fun k => .ignoredForServer k.text)

/-- Fill in what is not set about hosts and the number of clients. -/
def layOutClients (requested : Option Nat) (inputs : DecidedInputs) (threads : ThreadCounts) :
    Stage Unit := do
  match requested with
  | some n => discard (storeIfMissing clientCountKey (Text.numeral n))
  | none => pure ()
  match ← read? hostsKey with
  | some _ => discard (storeIfMissing clientCountKey (Text.numeral 1))
  | none =>
    if inputs.isDefault then
      discard (storeIfMissing hostsKey "localhost")
      discard (storeIfMissing basePathKey (inputs.workdir.child "client").text)
      discard (storeIfMissing clientCountKey (Text.numeral (clientsNeeded threads)))

/-- The directories where the script may be, in order. -/
def launcherDirectories (layout : Layout) : List Path := layout.source.toList ++ [layout.bin]

/-- The first directory that holds the script, in its absolute form. -/
def findLauncher (layout : Layout) (files : FileSystem) : Except RunError Path :=
  match (launcherDirectories layout).find? fun d => files.isFile (d.child launcherScript) with
  | none => .error (.noLauncher (layout.bin.child launcherScript))
  | some directory =>
    match files.absolute directory with
    | .error cause => .error (.file .makeAbsolute directory cause)
    | .ok found => .ok found

/-- Look the script up and store its directory. -/
def storeLauncher (layout : Layout) : Stage Unit := do
  match findLauncher layout (← get).files with
  | .error e => throw e
  | .ok directory =>
    store scriptKey directory.text
    note (.launcherFound scriptKey.text directory)

/-- Settle the clients of a run. -/
def settleClients (request : ClientRequest) (inputs : DecidedInputs) (threads : ThreadCounts)
    (layout : Layout) : Stage ClientPlan := do
  if request.serverOnly then
    dropClients
    pure {}
  else
    layOutClients request.count inputs threads
    let count := (← readCount? clientCountKey).getD 0
    if 0 < count then
      if (← read? scriptKey).getD "" = "" then storeLauncher layout
    let script := (← read? scriptKey).map Path.ofText
    pure ⟨count, script⟩

end SieveRun
