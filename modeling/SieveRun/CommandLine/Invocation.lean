import SieveRun.LogLevel
import SieveRun.Path.Basic
import SieveRun.Text.Decimal
import SieveRun.Token.Rule

/-!
# What a command line asks for

The options of the program with their values, and the free-form tokens. An option that was
not given is absent, except for the three that have a value of their own then.
-/

namespace SieveRun

open Text

/-- How many threads the server is to use. -/
inductive ThreadRequest where
  /-- One for each physical core. -/
  | all
  | count (n : Nat)
  deriving DecidableEq, Repr

namespace ThreadRequest

/-- The thread count of a text: `all` in any case, or a count. -/
def ofText? (text : String) : Option ThreadRequest :=
  if text.toList.map Char.toLower = "all".toList then some .all
  else (count? text.toList).map .count

end ThreadRequest

/-- What is said about a text that is no thread count. -/
def notThreadRequest (text : String) : String :=
  s!"expected a thread count or \"all\", got '{text}'"

/-- A command line that was understood. -/
structure Invocation where
  screenLog : LogLevel := .info
  fileLog : LogLevel := .debug
  parameters : Option Path := none
  /-- The free-form tokens. -/
  tokens : List String := []
  workdir : Option Path := none
  clientThreads : Option Nat := none
  serverThreads : Option ThreadRequest := none
  slaves : Option Nat := none
  /-- The degree of the extension field. -/
  degree : Nat := 0
  ell : Option String := none
  /-- Run no clients. -/
  serverOnly : Bool := false
  discreteLog : Bool := false
  /-- Show every store and every inherited read. -/
  verbose : Bool := false
  plain : Bool := false
  layout : Option Path := none
  deriving DecidableEq, Repr

/-- The flags that the free-form tokens compete with. -/
def Invocation.namedFlags (inv : Invocation) : NamedFlags where
  parameters := inv.parameters
  workdir := inv.workdir
  serverThreads := inv.serverThreads.isSome
  clientThreads := inv.clientThreads.isSome
  ell := inv.ell

end SieveRun
