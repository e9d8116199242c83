import SieveRun.Main
import SieveRun.Proofs.Cutting
import SieveRun.Proofs.Keys
import SieveRun.Proofs.Stage
import SieveRun.Proofs.Store
import SieveRun.Proofs.Reading
import SieveRun.Proofs.Spelling
import SieveRun.Proofs.Files
import SieveRun.Proofs.Printing
import SieveRun.Proofs.Tokens
import SieveRun.Proofs.Inputs
import SieveRun.Proofs.ThreadConflicts
import SieveRun.Proofs.Changes
import SieveRun.Proofs.Threads
import SieveRun.Proofs.Clients
import SieveRun.Proofs.Agreement
import SieveRun.Proofs.Fixpoint
import SieveRun.Proofs.Removal
import SieveRun.Proofs.Scratch
import SieveRun.Proofs.Precedence
import SieveRun.Proofs.Independence
import SieveRun.Proofs.NumberSources
import SieveRun.Proofs.Inheritance
import SieveRun.Proofs.ClientPlan
import SieveRun.Proofs.KeptOptions
import SieveRun.Proofs.Reloading
import SieveRun.Proofs.Interference
import SieveRun.Proofs.Diagnostics
import SieveRun.Proofs.Roles
import SieveRun.Proofs.TokenOrder
import SieveRun.Proofs.NamedFlags
import SieveRun.Proofs.ThreadPlan
import SieveRun.Proofs.GivenThreads
import SieveRun.Proofs.ZeroNumber
import SieveRun.Proofs.ClientLayout
import SieveRun.Proofs.Launcher
import SieveRun.Proofs.SettlingAgain
import SieveRun.Proofs.LauncherDirectory
import SieveRun.Proofs.Namespaces
import SieveRun.Proofs.TreeOrder
import SieveRun.Proofs.DepthFirst
import SieveRun.Proofs.LineGrammar
import SieveRun.Proofs.Merging
import SieveRun.Proofs.DirectoryPlaces
import SieveRun.Proofs.Unrecognized
import SieveRun.Proofs.GivenWorkdir
import SieveRun.Proofs.FailedInputs
import SieveRun.Proofs.CurrentDirectory
import SieveRun.Proofs.Release
import SieveRun.Proofs.CoreCounting
import SieveRun.Proofs.LeastCounts
import SieveRun.Proofs.Numerals
import SieveRun.Proofs.ShippedFiles
import SieveRun.Proofs.SingleDash
import SieveRun.Proofs.WriteLog
import SieveRun.Proofs.Remarks
