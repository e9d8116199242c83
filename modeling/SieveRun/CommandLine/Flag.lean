import SieveRun.CommandLine.Invocation

/-!
# The flags of the command line

A flag either takes a value or is a switch. Each has one long name, the working directory
two, and some have a short one. This module says what a given value or switch makes of an
invocation, and what makes a value unfit.
-/

namespace SieveRun

open Text

/-- One argument: bytes, which need not be text. -/
abbrev Argument := List UInt8

/-- Why a command line is not understood, or not meant to start a run. -/
inductive UsageError where
  | unknownArgument
  /-- A value is missing, or a path is empty. -/
  | invalidValue
  /-- A value that has to be text is not. -/
  | notText
  /-- A text that is not among those the flag takes. -/
  | valueRefused
  /-- A switch has a value attached. -/
  | unexpectedValue
  /-- A flag is given twice. -/
  | repeated
  | helpWanted
  | versionWanted
  deriving DecidableEq, Repr

/-- The flags that take a value. -/
inductive ValueFlag where
  | screenLog
  | fileLog
  | parameters
  | workdir
  | clientThreads
  | serverThreads
  | slaves
  | degree
  | ell
  | layout
  deriving DecidableEq, Repr

/-- The flags that take none. -/
inductive Switch where
  | serverOnly
  | discreteLog
  | verbose
  | plain
  | help
  | version
  deriving DecidableEq, Repr

/-- A flag of either kind. -/
inductive Flag where
  | value (flag : ValueFlag)
  | switch (flag : Switch)
  deriving DecidableEq, Repr

namespace Flag

/-- The names that follow two dashes. -/
def longNames : List (String × Flag) :=
  [("screenlog", .value .screenLog), ("filelog", .value .fileLog),
    ("parameters", .value .parameters), ("workdir", .value .workdir), ("wdir", .value .workdir),
    ("client-threads", .value .clientThreads), ("server-threads", .value .serverThreads),
    ("slaves", .value .slaves), ("gfpext", .value .degree), ("ell", .value .ell),
    ("layout", .value .layout), ("server", .switch .serverOnly), ("dlp", .switch .discreteLog),
    ("verboseparam", .switch .verbose), ("no-colors", .switch .plain), ("help", .switch .help),
    ("version", .switch .version)]

/-- The letters that follow one dash. -/
def shortNames : List (Char × Flag) :=
  [('p', .value .parameters), ('w', .value .workdir), ('t', .value .serverThreads),
    ('s', .value .slaves), ('h', .switch .help), ('V', .switch .version)]

/-- The flag with a long name. -/
def ofLong? (name : Argument) : Option Flag :=
  (longNames.find? fun entry => utf8 entry.1 == name).map Prod.snd

/-- The flag with a short name. -/
def ofShort? (letter : UInt8) : Option Flag :=
  (shortNames.find? fun entry => entry.1.toNat == letter.toNat).map Prod.snd

end Flag

/-- The long names that may also follow a single dash. -/
def singleDashNames : List String := ["gfpext", "dlp", "ell"]

/-- The dash. -/
def dash : UInt8 := 0x2D

/-- The equals sign. -/
def equalsSign : UInt8 := 0x3D

/-- The argument that ends the flags. -/
def endOfFlags : Argument := [dash, dash]

/-- The argument spells a long name with a single dash, alone or with a value attached. -/
def isSingleDash (arg : Argument) : Bool :=
  (utf8? arg).isSome &&
    singleDashNames.any fun name =>
      match afterStart? (dash :: utf8 name) arg with
      | some [] => true
      | some (b :: _) => b == equalsSign
      | none => false

/-- The arguments with two dashes before each long name, up to the end of the flags. -/
def withTwoDashes : List Argument → List Argument
  | [] => []
  | arg :: rest =>
    if arg = endOfFlags then arg :: rest
    else (if isSingleDash arg then dash :: arg else arg) :: withTwoDashes rest

/-- A value that has to be text, read by a rule that may refuse it. -/
def readValue {α : Type} (rule : String → Option α) (arg : Argument) : Except UsageError α :=
  match utf8? arg with
  | none => .error .notText
  | some text =>
    match rule text with
    | none => .error .valueRefused
    | some x => .ok x

/-- A value that is a path. -/
def pathValue (arg : Argument) : Except UsageError Path :=
  if arg = [] then .error .invalidValue else .ok ⟨arg⟩

/-- A value that is a count. -/
def countValue : Argument → Except UsageError Nat :=
  readValue fun text => signedCount? text.toList

namespace Invocation

/-- With the value of a flag. -/
def setValue (inv : Invocation) (flag : ValueFlag) (arg : Argument) :
    Except UsageError Invocation :=
  match flag with
  | .screenLog => (readValue LogLevel.ofText? arg).map fun v => { inv with screenLog := v }
  | .fileLog => (readValue LogLevel.ofText? arg).map fun v => { inv with fileLog := v }
  | .parameters => (pathValue arg).map fun v => { inv with parameters := some v }
  | .workdir => (pathValue arg).map fun v => { inv with workdir := some v }
  | .clientThreads => (countValue arg).map fun v => { inv with clientThreads := some v }
  | .serverThreads =>
    (readValue ThreadRequest.ofText? arg).map fun v => { inv with serverThreads := some v }
  | .slaves => (countValue arg).map fun v => { inv with slaves := some v }
  | .degree => (countValue arg).map fun v => { inv with degree := v }
  | .ell => (readValue some arg).map fun v => { inv with ell := some v }
  | .layout => (pathValue arg).map fun v => { inv with layout := some v }

/-- With a switch on; two switches start no run. -/
def setSwitch (inv : Invocation) : Switch → Except UsageError Invocation
  | .serverOnly => .ok { inv with serverOnly := true }
  | .discreteLog => .ok { inv with discreteLog := true }
  | .verbose => .ok { inv with verbose := true }
  | .plain => .ok { inv with plain := true }
  | .help => .error .helpWanted
  | .version => .error .versionWanted

end Invocation

end SieveRun
