import SieveRun.Token.Rule

/-!
# Sorted tokens

The tokens are taken one by one by the first rule that applies (`Found.take`); what was
found so far is what later rules see. In the end each of number, parameter file and working
directory may have one source, the named flags counted; the options stay as written and in
order, with the one of `--ell` last.
-/

namespace SieveRun

/-- What a list of free-form tokens and the named flags come to. -/
structure SortedTokens where
  number : Option Number := none
  parameters : Option Path := none
  workdir : Option Path := none
  options : List String := []
  deriving DecidableEq, Repr

/-- What was found among the tokens so far. -/
structure Found where
  numbers : List Number
  parameterFiles : List Path
  workdirs : List Path
  options : List String
  deriving DecidableEq, Repr

namespace Found

/-- What the flags supply before any token is looked at. -/
def ofFlags (flags : NamedFlags) : Found :=
  ⟨[], flags.parameters.toList, flags.workdir.toList, []⟩

/-- What a rule may look at now. -/
def context (found : Found) (files : FileSystem) (flags : NamedFlags) : TokenContext :=
  ⟨files, flags, found.parameterFiles.length, found.workdirs.length⟩

/-- With what one more token stands for. -/
def add (found : Found) : TokenRole → Found
  | .number n => { found with numbers := found.numbers ++ [n] }
  | .parameterFile file => { found with parameterFiles := found.parameterFiles ++ [file] }
  | .workdir directory => { found with workdirs := found.workdirs ++ [directory] }
  | .option text => { found with options := found.options ++ [text] }

end Found

/-- The rule that takes a token. -/
def ruleFor? (rules : List SortingRule) (context : TokenContext) (token : String) :
    Option SortingRule :=
  rules.find? fun rule => rule.applies context token

section
variable (files : FileSystem) (flags : NamedFlags) (rules : List SortingRule)

/-- Take one more token. -/
def Found.take (found : Found) (token : String) : Except RunError Found :=
  match ruleFor? rules (found.context files flags) token with
  | none => .error (.unrecognized token)
  | some rule => (rule.role (found.context files flags) token).map found.add

/-- Take all tokens in order. -/
def Found.takeAll (found : Found) : List String → Except RunError Found
  | [] => .ok found
  | token :: rest =>
    match found.take files flags rules token with
    | .error e => .error e
    | .ok next => next.takeAll rest

/-- The notes about the tokens: each one that a rule takes is noted, whether or not the rule
then refuses it. -/
def Found.notes (found : Found) : List String → List Event
  | [] => []
  | token :: rest =>
    match ruleFor? rules (found.context files flags) token with
    | none => []
    | some rule =>
      .tokenTaken token rule.name rule.description ::
        match found.take files flags rules token with
        | .error _ => []
        | .ok next => next.notes rest

end

/-- The outcome, if nothing has two sources. -/
def Found.conclude (found : Found) (flags : NamedFlags) : Except RunError SortedTokens :=
  if 1 < found.numbers.length then .error (.conflict (.numbers found.numbers))
  else if 1 < found.parameterFiles.length then
    .error (.conflict (.parameterFiles found.parameterFiles))
  else if 1 < found.workdirs.length then .error (.conflict (.workdirs found.workdirs))
  else
    .ok ⟨found.numbers.getLast?, found.parameterFiles.getLast?, found.workdirs.getLast?,
      found.options ++ (flags.ell.map fun ell => "ell=" ++ ell).toList⟩

/-- Sort free-form tokens by a table of rules. -/
def sortTokens (files : FileSystem) (flags : NamedFlags) (rules : List SortingRule)
    (tokens : List String) : Except RunError SortedTokens :=
  match (Found.ofFlags flags).takeAll files flags rules tokens with
  | .error e => .error e
  | .ok found => found.conclude flags

/-- Sort free-form tokens, and note which rule took each. -/
def sortAndNote (flags : NamedFlags) (rules : List SortingRule) (tokens : List String) :
    Stage SortedTokens := do
  let files := (← get).files
  noteAll ((Found.ofFlags flags).notes files flags rules tokens)
  match sortTokens files flags rules tokens with
  | .error e => throw e
  | .ok sorted => pure sorted

end SieveRun
