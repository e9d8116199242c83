import SieveRun.CommandLine.Invocation
import SieveRun.Workers.Cores

/-!
# Thread counts

The server and the two task families, polynomial selection and sieving, each get a thread
count of their own. The server's comes from the flag, else from the hierarchy, else it is
the number of physical cores; a stored zero counts as none. A family's comes from the flag
for clients, else from its own key, else it is the server's but at most two.
-/

namespace SieveRun

/-- Where the server's thread count is stored. -/
def serverThreadsKey : Key := ⟨["tasks"], "threads"⟩

/-- Where the thread count of polynomial selection is stored. -/
def polyselectThreadsKey : Key := ⟨["tasks", "polyselect"], "threads"⟩

/-- Where the thread count of sieving is stored. -/
def sieveThreadsKey : Key := ⟨["tasks", "sieve"], "threads"⟩

/-- A family that only inherits the server's count gets at most this many threads. -/
def inheritedThreads : Nat := 2

/-- The thread counts of a run. -/
structure ThreadCounts where
  server : Nat
  polyselect : Nat
  sieve : Nat
  deriving DecidableEq, Repr

/-- Store the number of physical cores as the server's thread count. -/
def storeAllCores (surroundings : Surroundings) : Stage Unit := do
  match physicalCores surroundings (← get).files with
  | .error e => throw e
  | .ok cores =>
    note (.coresCounted serverThreadsKey.text cores)
    store serverThreadsKey (Text.numeral cores)

/-- Settle the server's thread count. -/
def settleServerThreads (requested : Option ThreadRequest) (surroundings : Surroundings) :
    Stage Unit := do
  let current := (← readCount? serverThreadsKey).getD 0
  match requested with
  | some (.count n) => store serverThreadsKey (Text.numeral n)
  | some .all => storeAllCores surroundings
  | none => if current = 0 then storeAllCores surroundings else pure ()

/-- Settle the thread count of a family. -/
def settleFamilyThreads (requested : Option Nat) (server : Nat) (family : Key) : Stage Unit := do
  match requested with
  | some n => store family (Text.numeral n)
  | none =>
    if (← get).params.origin? family ≠ some family then
      store family (Text.numeral (min server inheritedThreads))
  let value := (← read? family).getD ""
  note (.familyThreads family.text value)

/-- Settle all thread counts and read them back. -/
def settleThreads (serverThreads : Option ThreadRequest) (clientThreads : Option Nat)
    (surroundings : Surroundings) : Stage ThreadCounts := do
  settleServerThreads serverThreads surroundings
  let server := (← readCount? serverThreadsKey).getD 0
  settleFamilyThreads clientThreads server polyselectThreadsKey
  settleFamilyThreads clientThreads server sieveThreadsKey
  let polyselect := (← readCount? polyselectThreadsKey).getD 0
  let sieve := (← readCount? sieveThreadsKey).getD 0
  pure ⟨server, polyselect, sieve⟩

end SieveRun
