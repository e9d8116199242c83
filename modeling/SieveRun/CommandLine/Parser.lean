import SieveRun.CommandLine.Flag

/-!
# Reading a command line

Arguments are read from left to right. A flag without an attached value waits for the next
argument, which has to look like no flag; free-form tokens are gathered until something else
comes. What was gathered is *settled*, that is, checked and taken over, only when the next
flag or token needs the place, or at the end; so an unknown flag is reported before a bad
value that stands to its left and has not been settled yet. After `--` every argument is a
token.
-/

namespace SieveRun

open Text

/-- What has been read but not settled. -/
inductive Pending where
  | nothing
  /-- A flag waits for its value. -/
  | awaiting (flag : ValueFlag)
  | holding (flag : ValueFlag) (value : Argument)
  | tokens (args : List Argument)
  deriving DecidableEq, Repr

/-- How far a command line has been read. -/
structure Reading where
  /-- The flags that were settled. -/
  seen : List Flag := []
  inv : Invocation := {}
  pending : Pending := .nothing
  /-- The end of the flags is past. -/
  onlyTokens : Bool := false
  deriving DecidableEq, Repr

namespace Reading

/-- Take over the value of a flag. -/
def takeValue (r : Reading) (flag : ValueFlag) (value : Argument) : Except UsageError Reading :=
  if .value flag ∈ r.seen then .error .repeated
  else (r.inv.setValue flag value).map fun inv =>
    { r with seen := .value flag :: r.seen, inv := inv, pending := .nothing }

/-- Take over free-form tokens, which have to be text. -/
def takeTokens (r : Reading) (args : List Argument) : Except UsageError Reading :=
  match args.mapM utf8? with
  | none => .error .notText
  | some texts =>
    .ok { r with inv := { r.inv with tokens := r.inv.tokens ++ texts }, pending := .nothing }

/-- Check and take over what is pending. -/
def settle (r : Reading) : Except UsageError Reading :=
  match r.pending with
  | .nothing => .ok r
  | .awaiting _ => .error .invalidValue
  | .holding flag value => r.takeValue flag value
  | .tokens args => r.takeTokens args

/-- A flag with its value attached. -/
def attached (r : Reading) (flag : ValueFlag) (value : Argument) : Except UsageError Reading :=
  r.settle.bind fun r => r.takeValue flag value

/-- A flag whose value is to come. -/
def await (r : Reading) (flag : ValueFlag) : Except UsageError Reading :=
  r.settle.map fun r => { r with pending := .awaiting flag }

/-- A switch. -/
def turnOn (r : Reading) (flag : Switch) : Except UsageError Reading :=
  r.settle.bind fun r =>
    if .switch flag ∈ r.seen then .error .repeated
    else (r.inv.setSwitch flag).map fun inv =>
      { r with seen := .switch flag :: r.seen, inv := inv }

/-- A long flag: what follows its two dashes. -/
def long (r : Reading) (body : Argument) : Except UsageError Reading :=
  let (name, value?) :=
    match cut equalsSign body with
    | some (name, value) => (name, some value)
    | none => (body, none)
  match Flag.ofLong? name, value? with
  | none, _ => .error .unknownArgument
  | some (.value flag), some value => r.attached flag value
  | some (.value flag), none => r.await flag
  | some (.switch _), some _ => .error .unexpectedValue
  | some (.switch flag), none => r.turnOn flag

/-- Short flags after one dash. The first that takes a value takes the rest for it, without
an equals sign in between. -/
def short (r : Reading) : Argument → Except UsageError Reading
  | [] => .ok r
  | letter :: rest =>
    match Flag.ofShort? letter with
    | none => .error .unknownArgument
    | some (.switch flag) => (r.turnOn flag).bind fun r => r.short rest
    | some (.value flag) =>
      if rest = [] then r.await flag
      else if rest.head? = some equalsSign then r.attached flag rest.tail
      else r.attached flag rest

/-- An argument that is no flag: a token, after tokens or after something that is settled
first. -/
def token (r : Reading) (arg : Argument) : Except UsageError Reading :=
  match r.pending with
  | .tokens args => .ok { r with pending := .tokens (args ++ [arg]) }
  | _ => r.settle.map fun r => { r with pending := .tokens [arg] }

/-- An argument that looks like no flag: the value that a flag waits for, or a token. -/
def bare (r : Reading) (arg : Argument) : Except UsageError Reading :=
  match r.pending with
  | .awaiting flag => .ok { r with pending := .holding flag arg }
  | _ => r.token arg

/-- One more argument. -/
def step (r : Reading) (arg : Argument) : Except UsageError Reading :=
  if r.onlyTokens then r.token arg
  else if arg = endOfFlags then .ok { r with onlyTokens := true }
  else
    match afterStart? [dash, dash] arg, afterStart? [dash] arg with
    | some body, _ => r.long body
    | none, some (letter :: rest) => r.short (letter :: rest)
    | none, _ => r.bare arg

/-- All arguments in order. -/
def steps (r : Reading) : List Argument → Except UsageError Reading
  | [] => .ok r
  | arg :: rest => (r.step arg).bind fun r => r.steps rest

end Reading

/-- Read arguments in which every long name has two dashes. -/
def Invocation.ofTwoDashes (args : List Argument) : Except UsageError Invocation :=
  ((({} : Reading).steps args).bind Reading.settle).map Reading.inv

/-- Read a command line, without the name of the program. -/
def Invocation.ofArguments (args : List Argument) : Except UsageError Invocation :=
  ofTwoDashes (withTwoDashes args)

end SieveRun
