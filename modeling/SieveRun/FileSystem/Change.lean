import SieveRun.FileSystem.Basic

/-!
# Changing the file system

Making one directory needs its parent to be there and its own name to be free;
`makeDirectories` makes the missing parents first, and is content with a directory that is
there already. `removeAll` empties a directory and then removes it. A directory that is
named by `.` or through `..` can be emptied but not always removed, as the operating system
refuses to remove those names. When the current directory goes, it is kept aside under names
that no path can spell (`keepCurrent`).
-/

namespace SieveRun

open Text

namespace FileSystem

/-- With an entry at a route that was free. -/
def add (fs : FileSystem) (r : Route) (e : Entry) : FileSystem :=
  { fs with entries := (r, e) :: fs.entries }

/-- How many names of a route, from the root down, lead to entries that are there. -/
def lastingNames (fs : FileSystem) (r : Route) : Nat :=
  ((List.range r.length).takeWhile fun n => (fs.entry? (r.take (n + 1))).isSome).length

/-- The routes of the removed directories that are kept aside for a current directory of
which only the first `n` names are left, shortest first. -/
def keptAside (r : Route) (n : Nat) : List Route :=
  (List.range (r.length - n)).map fun m => r.take n ++ List.replicate (m + 1) removedName

/-- With the current directory kept aside if it is no longer there. -/
def keepCurrent (fs : FileSystem) : FileSystem :=
  let kept := keptAside fs.current (fs.lastingNames fs.current)
  match kept.getLast? with
  | none => fs
  | some current => ⟨kept.map (·, .directory) ++ fs.entries, current⟩

/-- Without the entries for which the test holds. -/
def dropEntries (fs : FileSystem) (test : Route → Bool) : FileSystem :=
  keepCurrent { fs with entries := fs.entries.filter fun e => !test e.1 }

/-- Without empty runs at the end, as slashes after the last name leave them. -/
def withoutEndSlashes (runs : List Name) : List Name := (runs.reverse.dropWhile (· == [])).reverse

/-- The route of the directory that holds the last name of a path, and that name: nothing is
said about whether the name is taken. The last name may be `.` or `..`; a path of slashes
alone has none. -/
def place (fs : FileSystem) (p : Path) : Except FileError (Route × Option Name) :=
  match pathFault? p with
  | some fault => .error fault
  | none =>
    let runs := withoutEndSlashes (pieces Path.slash p.bytes)
    match fs.walk (fs.start p) runs.dropLast with
    | .error e => .error e
    | .ok r =>
      if fs.entry? r = some .directory then .ok (r, runs.getLast?)
      else .error .notDirectory

/-- The name stands for its directory or for the parent. -/
def isDots (name : Name) : Bool := name == [Path.dot] || name == [Path.dot, Path.dot]

/-- Make one directory. -/
def makeDirectory (fs : FileSystem) (p : Path) : Except FileError FileSystem :=
  match fs.place p with
  | .error e => .error e
  | .ok (_, none) => .error .alreadyThere
  | .ok (r, some name) =>
    if isDots name then .error .alreadyThere
    else
      (within r name).bind fun target =>
        if (fs.entry? target).isSome then .error .alreadyThere
        else .ok (fs.add target .directory)

/-- Whether a directory is at the path after making it failed or not. -/
def settle (fs : FileSystem) (p : Path) : FileSystem × Except FileError Unit :=
  match fs.makeDirectory p with
  | .ok made => (made, .ok ())
  | .error e => if fs.isDirectory p then (fs, .ok ()) else (fs, .error e)

/-- Make the first path a directory; if its parent is missing, make the next ones
directories before. -/
def makeAll (fs : FileSystem) : List Path → FileSystem × Except FileError Unit
  | [] => (fs, .error .notFound)
  | p :: parents =>
    if p.bytes = [] then (fs, .ok ())
    else
      match fs.makeDirectory p with
      | .ok made => (made, .ok ())
      | .error .notFound =>
        match fs.makeAll parents with
        | (fs', .ok ()) => fs'.settle p
        | (fs', .error e) => (fs', .error e)
      | .error e => if fs.isDirectory p then (fs, .ok ()) else (fs, .error e)

/-- Make a directory and its missing parents. What was made before a failure stays. -/
def makeDirectories (fs : FileSystem) (p : Path) : FileSystem × Except FileError Unit :=
  fs.makeAll (p :: p.parents)

/-- Remove the empty directory that a path leads to. -/
def removeEmpty (fs : FileSystem) (p : Path) : Except FileError FileSystem :=
  match fs.place p with
  | .error e => .error e
  | .ok (_, none) => .error .busy
  | .ok (r, some name) =>
    if name = [Path.dot] then .error .invalidArgument
    else if name = [Path.dot, Path.dot] then .error .notEmpty
    else .ok (fs.dropEntries fun r' => r' == r ++ [name])

/-- Remove a directory with all that is below it. A path that leads nowhere is left alone. -/
def removeAll (fs : FileSystem) (p : Path) : FileSystem × Except FileError Unit :=
  match fs.resolve p with
  | .error .notFound => (fs, .ok ())
  | .error e => (fs, .error e)
  | .ok r =>
    if fs.entry? r = some .directory then
      let emptied := fs.dropEntries fun r' => r.isPrefixOf r' && r' != r
      match emptied.removeEmpty p with
      | .ok removed => (removed, .ok ())
      | .error .notFound => (emptied, .ok ())
      | .error e => (emptied, .error e)
    else (fs, .error .notDirectory)

/-- Remove a file. -/
def removeFile (fs : FileSystem) (p : Path) : Except FileError FileSystem :=
  match fs.resolve p with
  | .error e => .error e
  | .ok r =>
    match fs.entry? r with
    | none => .error .notFound
    | some .directory => .error .isDirectory
    | some _ => .ok (fs.dropEntries fun r' => r' == r)

/-- Put a file where there is none, in a directory that is there. -/
def writeFile (fs : FileSystem) (p : Path) (content : List UInt8) : Except FileError FileSystem :=
  match fs.place p with
  | .error e => .error e
  | .ok (_, none) => .error .isDirectory
  | .ok (r, some name) =>
    if isDots name then .error .isDirectory
    else
      (within r name).bind fun target =>
        if (fs.entry? target).isSome then .error .alreadyThere
        else .ok (fs.add target (.file content))

/-- What a scratch directory's name starts with. -/
def scratchStart : String := "cado."

/-- Make a new directory in `parent` under the first of the names that is free. -/
def makeFirstFree (fs : FileSystem) (parent : Path) :
    List String → Except FileError (Path × FileSystem)
  | [] => .error (.located .namesTaken parent)
  | name :: names =>
    let p := parent.child (scratchStart ++ name)
    match fs.makeDirectory p with
    | .ok made => .ok (p, made)
    | .error .alreadyThere => fs.makeFirstFree parent names
    | .error e => .error (.located e p)

/-- Make a scratch directory in `parent`; the names to try are chosen by the caller, and the
answer is named from the root. -/
def makeScratch (fs : FileSystem) (parent : Path) (names : List String) :
    Except FileError (Path × FileSystem) :=
  (fs.base parent).bind fun base => fs.makeFirstFree (base.join parent) names

end FileSystem

end SieveRun
