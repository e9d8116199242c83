import SieveRun.Session

/-!
# Scratch directories

A run answers for the scratch directories it made: they are tracked, oldest first and each
place once, until they are released. A purging release removes them one by one and forgets
each one that is gone; a failure stops it and leaves that directory and all later ones
tracked, so nothing is forgotten that may still be there. When debugging is on, nothing is
removed.
-/

namespace SieveRun

/-- Paths with one more, unless the same place is already among them. -/
def tracked (paths : List Path) (p : Path) : List Path :=
  if paths.any p.same then paths else paths ++ [p]

/-- Track a directory for release. -/
def track (p : Path) : Stage Unit := modify fun s => { s with scratch := tracked s.scratch p }

/-- What becomes of the tracked directories. -/
inductive Disposal where
  /-- They are removed. -/
  | purge
  /-- They stay, and it is said where. -/
  | keep
  deriving DecidableEq, Repr

/-- Note the same of every path. -/
def noteEach (event : Path → Event) : List Path → Stage Unit
  | [] => pure ()
  | p :: rest => do
    note (event p)
    noteEach event rest

/-- Remove the paths in order, and forget each one that is removed. -/
def purgeAll : List Path → Stage Unit
  | [] => pure ()
  | p :: rest => do
    note (.cleaning p)
    let (files, outcome) := (← get).files.removeAll p
    modify fun s => { s with files := files }
    match outcome with
    | .error cause => throw (.file .remove p cause)
    | .ok () =>
      modify fun s => { s with scratch := rest }
      purgeAll rest

/-- Release the tracked directories. -/
def dispose (debugging : Bool) (how : Disposal) : Stage Unit := do
  let paths := (← get).scratch
  if debugging then noteEach .keptForDebugging paths
  else
    match how with
    | .keep => noteEach .kept paths
    | .purge => purgeAll paths

end SieveRun
