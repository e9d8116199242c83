import SieveRun.Path.Quoted

/-!
# The file system

A file system is a finite tree, kept as the entry at each *route*, the names from the root
down; the root itself is always there. A path is looked up by walking: every step but the
last has to stand on a directory, and so has the last one when a slash or a full stop
follows it. `..` goes back to the parent, which is why a path through something that is no
directory leads nowhere even when it comes back.

Relative paths start from the current directory. When that is removed, they still do: it
stays a directory from which `..` leads to the parent, but nothing is in it and nothing can
be made there, not even after a directory with its old name is made.

Looking up fails with a cause (`FileError`), and each cause has the wording that the
operating system gives it.
-/

namespace SieveRun

open Text

/-- Why an operation on the file system failed. -/
inductive FileError where
  | notFound
  | busy
  | alreadyThere
  | notDirectory
  | isDirectory
  | invalidArgument
  | nameTooLong
  | notEmpty
  /-- The path holds a NUL byte and names nothing. -/
  | nulByte
  /-- The content is not text. -/
  | notText
  /-- The empty path has no absolute form. -/
  | emptyPath
  /-- All names that were tried for a scratch directory are taken. -/
  | namesTaken
  /-- A cause, with the path it arose at. -/
  | located (cause : FileError) (path : Path)
  deriving DecidableEq, Repr

/-- The wording of a cause. -/
def FileError.message : FileError → String
  | .notFound => "No such file or directory (os error 2)"
  | .busy => "Device or resource busy (os error 16)"
  | .alreadyThere => "File exists (os error 17)"
  | .notDirectory => "Not a directory (os error 20)"
  | .isDirectory => "Is a directory (os error 21)"
  | .invalidArgument => "Invalid argument (os error 22)"
  | .nameTooLong => "File name too long (os error 36)"
  | .notEmpty => "Directory not empty (os error 39)"
  | .nulByte => "file name contained an unexpected NUL byte"
  | .notText => "stream did not contain valid UTF-8"
  | .emptyPath => "cannot make an empty path absolute"
  | .namesTaken => "too many temporary files exist"
  | .located cause path => s!"{cause.message} at path {path.quoted}"

/-- The name of an entry in its directory. -/
abbrev Name := List UInt8

/-- Where an entry is: the names from the root down. -/
abbrev Route := List Name

/-- What can be at a route. -/
inductive Entry where
  | directory
  | file (content : List UInt8)
  /-- Something that is neither, and reads as an empty file. -/
  | device
  deriving DecidableEq, Repr

/-- A tree of entries, and the directory that relative paths start from. -/
structure FileSystem where
  entries : List (Route × Entry)
  current : Route
  deriving DecidableEq, Repr

namespace FileSystem

/-- A name has at most this many bytes. -/
def nameLimit : Nat := 255

/-- A path has fewer bytes than this. -/
def pathLimit : Nat := 4096

/-- The entry at a route. -/
def entry? (fs : FileSystem) (r : Route) : Option Entry :=
  if r = [] then some .directory else fs.entries.lookup r

/-- The name by which a removed directory is kept while it is the current one. It holds a
slash, so no path can spell it. -/
def removedName : Name := [Path.slash]

/-- The route leads to a removed directory. -/
def isRemoved (r : Route) : Bool := r.getLast? == some removedName

/-- The route of a name in a directory, whether or not it is taken; a removed directory has
no room for any. -/
def within (r : Route) (name : Name) : Except FileError Route :=
  if isRemoved r then .error .notFound
  else if nameLimit < name.length then .error .nameTooLong
  else .ok (r ++ [name])

/-- The route one step on from a directory. -/
def step (r : Route) (piece : Name) : Except FileError Route :=
  if piece = [] ∨ piece = [Path.dot] then .ok r
  else if piece = [Path.dot, Path.dot] then .ok r.dropLast
  else within r piece

/-- Walk from a route; each step leaves a directory, and the end of the walk exists. -/
def walk (fs : FileSystem) (r : Route) : List Name → Except FileError Route
  | [] => if (fs.entry? r).isSome then .ok r else .error .notFound
  | piece :: rest =>
    match fs.entry? r with
    | none => .error .notFound
    | some .directory => (step r piece).bind fun next => fs.walk next rest
    | some _ => .error .notDirectory

/-- Where a path starts. -/
def start (fs : FileSystem) (p : Path) : Route := if p.isAbsolute then [] else fs.current

/-- What is wrong with a path before anything is looked up. -/
def pathFault? (p : Path) : Option FileError :=
  if 0 ∈ p.bytes then some .nulByte
  else if p.bytes = [] then some .notFound
  else if pathLimit ≤ p.bytes.length then some .nameTooLong
  else none

/-- The route of the entry that a path leads to. -/
def resolve (fs : FileSystem) (p : Path) : Except FileError Route :=
  match pathFault? p with
  | some fault => .error fault
  | none => fs.walk (fs.start p) (pieces Path.slash p.bytes)

/-- The entry that a path leads to, if there is one. -/
def find? (fs : FileSystem) (p : Path) : Option Entry :=
  match fs.resolve p with
  | .ok r => fs.entry? r
  | .error _ => none

/-- The path leads to an entry. -/
def isThere (fs : FileSystem) (p : Path) : Bool := (fs.find? p).isSome

/-- The path leads to a directory. -/
def isDirectory (fs : FileSystem) (p : Path) : Bool := fs.find? p == some .directory

/-- The path leads to a file. -/
def isFile (fs : FileSystem) (p : Path) : Bool :=
  match fs.find? p with
  | some (.file _) => true
  | _ => false

/-- The path leads to a directory, or to nothing in a place that exists. -/
def isDirectoryPlace (fs : FileSystem) (p : Path) : Bool :=
  fs.isDirectory p || (!fs.isThere p && p.parent?.any fs.isThere)

/-- The text that a path leads to. -/
def readText (fs : FileSystem) (p : Path) : Except FileError String :=
  match fs.resolve p with
  | .error e => .error e
  | .ok r =>
    match fs.entry? r with
    | none => .error .notFound
    | some .directory => .error .isDirectory
    | some .device => .ok ""
    | some (.file content) =>
      match utf8? content with
      | some text => .ok text
      | none => .error .notText

/-- The path of the current directory, if it is still there. -/
def currentPath (fs : FileSystem) : Except FileError Path :=
  if isRemoved fs.current then .error .notFound
  else if fs.current = [] then .ok ⟨[Path.slash]⟩
  else .ok ⟨fs.current.flatMap fun name => Path.slash :: name⟩

/-- Where a path starts from when it is made absolute. -/
def base (fs : FileSystem) (p : Path) : Except FileError Path :=
  if p.isAbsolute then .ok .empty else fs.currentPath

/-- The absolute form of a path. -/
def absolute (fs : FileSystem) (p : Path) : Except FileError Path :=
  if p.bytes = [] then .error .emptyPath else (fs.base p).map fun base => p.absolute base

/-- The entries below a directory, by their routes from there. -/
def listing (fs : FileSystem) (top : Route) : List (Route × Entry) :=
  fs.entries.filterMap fun e =>
    if top.isPrefixOf e.1 ∧ e.1 ≠ top then some (e.1.drop top.length, e.2) else none

end FileSystem

end SieveRun
