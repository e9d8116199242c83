import SieveRun.Workers.Clients

/-!
# The configuration of a run

A command line, a layout and the surroundings are turned into one configuration: the
free-form tokens are sorted, then number, parameter file and working directory are decided
and the file is read, then the options override the file, and last threads and clients are
planned. The order is what makes options win over the file and flags win over options.
-/

namespace SieveRun

/-- Where the directory of the programs is stored. -/
def programsKey : Key := ⟨["tasks"], "execpath"⟩

/-- A run that is ready to start. -/
structure Configuration where
  number : Number
  parameterFile : Path
  /-- The file was found among the shipped ones. -/
  isDefault : Bool
  workdir : Path
  threads : ThreadCounts
  clients : ClientPlan
  /-- The level of the log file in the working directory. -/
  fileLog : LogLevel
  parameters : Hierarchy

/-- The shipped files that an invocation may take. -/
def Invocation.shippedFiles (inv : Invocation) (layout : Layout) : ShippedFiles :=
  ⟨layout.data, Goal.ofFlag inv.discreteLog, inv.degree⟩

/-- What an invocation says about clients. -/
def Invocation.clientRequest (inv : Invocation) : ClientRequest := ⟨inv.serverOnly, inv.slaves⟩

/-- Start from an empty hierarchy that holds the directory of the programs, traced or not. -/
def startParameters (layout : Layout) (traced : Bool := false) : Stage Unit := do
  modify fun s => { s with params := .empty, traced }
  store programsKey layout.lib.text

/-- Turn an invocation into a configuration. -/
def configure (inv : Invocation) (layout : Layout) (surroundings : Surroundings) :
    Stage Configuration := do
  let sorted ← sortAndNote inv.namedFlags sortingRules inv.tokens
  startParameters layout inv.verbose
  let inputs ← decideInputs sorted (inv.shippedFiles layout) surroundings
  mergeOptions sorted.options
  let threads ← settleThreads inv.serverThreads inv.clientThreads surroundings
  let clients ← settleClients inv.clientRequest inputs threads layout
  pure ⟨inputs.number, inputs.parameterFile, inputs.isDefault, inputs.workdir, threads, clients,
    inv.fileLog, (← get).params⟩

end SieveRun
