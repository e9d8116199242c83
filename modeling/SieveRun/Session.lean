import SieveRun.Event
import SieveRun.FileSystem.Change
import SieveRun.Hierarchy.Basic

/-!
# Sessions and stages

A *session* is all that a run changes: the parameters, the file system, the scratch
directories it has to answer for, and the journal. A *stage* changes a session and ends with
a value or an error; what it changed before an error stays changed. What a run only reads is
its `Surroundings`.

The stages here read and write parameters. Where parameters are traced, a write notes the
store, and a read notes when another key answered.
-/

namespace SieveRun

/-- What a run reads and never changes. -/
structure Surroundings where
  /-- The text that pretends a core count, if any. -/
  fakeCores : Option String := none
  /-- Debugging is on: scratch data is kept. -/
  debugging : Bool := false
  /-- The core count to use where there is no processor listing. -/
  platformCores : Nat := 1
  /-- The directory for scratch directories. -/
  temporary : Path := Path.ofText "/tmp"
  /-- The name endings to try for a new scratch directory, in order. -/
  scratchNames : List String := []

/-- What a run changes. -/
structure Session where
  params : Hierarchy
  files : FileSystem
  /-- Scratch directories to be released, oldest first. -/
  scratch : List Path
  journal : List Event
  /-- Every store and every inherited read is noted. -/
  traced : Bool

/-- A step of a run. -/
abbrev Stage := ExceptT RunError (StateM Session)

/-- The outcome of a stage and the session after it. -/
def Stage.runOn {α : Type} (stage : Stage α) (session : Session) :
    Except RunError α × Session :=
  (ExceptT.run stage).run session

namespace Session

/-- A session that starts with this file system and nothing else, and notes everything. -/
def ofFiles (files : FileSystem) : Session := ⟨.empty, files, [], [], true⟩

/-- The event is to be noted. -/
def wants (session : Session) (event : Event) : Bool := session.traced || !event.isTrace

/-- The session with more events noted, as far as they are wanted. -/
def noting (session : Session) (events : List Event) : Session :=
  { session with journal := session.journal ++ events.filter session.wants }

/-- The events to be shown, in order. -/
def shown (session : Session) (display : Display) : List Event :=
  session.journal.filter (Event.isShown display)

end Session

/-- Note events in order. -/
def noteAll (events : List Event) : Stage Unit := modify fun s => s.noting events

/-- Note an event. -/
def note (event : Event) : Stage Unit := noteAll [event]

/-- Note an event where the condition holds. -/
def noteIf (condition : Bool) (event : Event) : Stage Unit :=
  noteAll (if condition then [event] else [])

/-- Store a value at exactly this key. -/
def store (key : Key) (value : String) : Stage Unit := do
  note (.stored key.text value)
  modify fun s => { s with params := s.params.set key value }

/-- Read a value, inherited or not. -/
def read? (key : Key) : Stage (Option String) := do
  let params := (← get).params
  match params.origin? key with
  | none => pure none
  | some source =>
    if source ≠ key then note (.inherited key.text source.text)
    pure (params.value? source)

/-- Read a value that has to be there. -/
def demand (key : Key) : Stage String := do
  match ← read? key with
  | some value => pure value
  | none => throw (.params (.missing key.text))

/-- Store a value unless a read already sees one; whether it was stored. -/
def storeIfMissing (key : Key) (value : String) : Stage Bool := do
  match ← read? key with
  | some _ => pure false
  | none =>
    store key value
    pure true

/-- Read a value and interpret it. -/
def readAs? {α : Type} (interpret : String → Option α) (key : Key) : Stage (Option α) := do
  match ← read? key with
  | none => pure none
  | some value =>
    match interpret value with
    | some x => pure (some x)
    | none => throw (.params (.invalid key.text value))

/-- Read a count. -/
def readCount? : Key → Stage (Option Nat) := readAs? fun value => Text.count? value.toList

/-- Read a number. -/
def readNumber? : Key → Stage (Option Number) := readAs? Number.ofText?

/-- Remove the entries inside a namespace; their keys, in tree order. -/
def removeUnder (space : List String) : Stage (List Key) := do
  let removed := ((← get).params.under space).map Prod.fst
  modify fun s => { s with params := s.params.removeUnder space }
  pure removed

/-- Store assignments in order. -/
def storeAll : List (Key × String) → Stage Unit
  | [] => pure ()
  | (key, value) :: rest => do
    store key value
    storeAll rest

/-- The text of a file, and the assignments in it. -/
def assignmentsIn (files : FileSystem) (file : Path) :
    Except ParameterError (List (Key × String)) :=
  match files.readText file with
  | .error cause => .error (.unreadable file cause)
  | .ok text =>
    match Assignment.ofText text with
    | .error fault => .error (.malformed file.text fault)
    | .ok assignments => .ok assignments

/-- Merge a parameter file: nothing is stored unless all of it can be read. -/
def mergeFile (file : Path) : Stage Unit := do
  note (.readingFile file)
  match assignmentsIn (← get).files file with
  | .error cause => throw (.params cause)
  | .ok assignments => storeAll assignments

/-- Merge a list of options: nothing is stored unless all of them can be read. -/
def mergeOptions (options : List String) : Stage Unit :=
  match Assignment.ofOptions options with
  | .error fault => throw (.params (.malformed "command line" fault))
  | .ok assignments => storeAll assignments

end SieveRun
