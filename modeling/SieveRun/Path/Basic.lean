import SieveRun.Text.Pieces
import SieveRun.Text.Utf8

/-!
# Paths

A path is a sequence of bytes, which need not be text. Its *components* are what stands
between slashes, where doubled slashes, a slash at the end and every `.` but one at the very
start say nothing. Two paths with the same components are the same place as far as the path
alone can tell (`Path.same`), so `a/` and `a//` are `a` but `./a` is not.
-/

namespace SieveRun

open Text

/-- A file-system path. -/
structure Path where
  bytes : List UInt8
  deriving DecidableEq, Repr

namespace Path

/-- The separator. -/
def slash : UInt8 := 0x2F

/-- The full stop, of which `.` and `..` are made. -/
def dot : UInt8 := 0x2E

/-- The path that a text spells. -/
def ofText (text : String) : Path := ⟨utf8 text⟩

/-- The path as text, with replacement characters where it is none. -/
def text (p : Path) : String := utf8Lossy p.bytes

/-- The empty path. -/
def empty : Path := ⟨[]⟩

/-- The path starts at the root. -/
def isAbsolute (p : Path) : Bool := p.bytes.head? == some slash

/-- What a path is made of. -/
inductive Component where
  | root
  /-- A full stop at the start of a relative path. -/
  | here
  | up
  | name (bytes : List UInt8)
  deriving DecidableEq, Repr

namespace Component

/-- The bytes of the component. -/
def bytes : Component → List UInt8
  | .root => [slash]
  | .here => [dot]
  | .up => [dot, dot]
  | .name bytes => bytes

/-- The component of a run between slashes, unless the run says nothing. -/
def ofPiece? (piece : List UInt8) : Option Component :=
  if piece = [] ∨ piece = [dot] then none
  else if piece = [dot, dot] then some .up
  else some (.name piece)

end Component

/-- The components from the start to the end. -/
def components (p : Path) : List Component :=
  let runs := pieces slash p.bytes
  let start : List Component :=
    if p.isAbsolute then [.root] else if runs.head? = some [dot] then [.here] else []
  start ++ runs.filterMap Component.ofPiece?

/-- The two paths have the same components. -/
def same (p q : Path) : Bool := p.components == q.components

/-- A path continued by another; an absolute one replaces it. -/
def join (p q : Path) : Path :=
  if q.isAbsolute then q
  else if p.bytes = [] ∨ p.bytes.getLast? = some slash then ⟨p.bytes ++ q.bytes⟩
  else ⟨p.bytes ++ slash :: q.bytes⟩

/-- A path continued by a name. -/
def child (p : Path) (name : String) : Path := p.join (ofText name)

/-- The path with these components. -/
def ofComponents (cs : List Component) : Path := cs.foldl (fun p c => p.join ⟨c.bytes⟩) empty

/-- The path without its last component; the root and the empty path have no parent. -/
def parent? (p : Path) : Option Path :=
  match p.components.getLast? with
  | none | some .root => none
  | some _ => some (ofComponents p.components.dropLast)

/-- The paths of all leading runs of components but the full one, longest first, down to
where there is no parent. -/
def parents (p : Path) : List Path :=
  let cs := p.components
  let least := if cs.head? = some .root then 1 else 0
  (List.range (cs.length - least)).reverse.map fun n => ofComponents (cs.take (n + least))

/-- The path starts with exactly two slashes. -/
def hasTwoSlashes (p : Path) : Bool :=
  [slash, slash].isPrefixOf p.bytes && !([slash, slash, slash].isPrefixOf p.bytes)

/-- The absolute form of a path that is not empty, seen from the directory `current`: full
stops and doubled slashes go, `..` stays, a slash at the end stays, and so do exactly two
slashes at the start. -/
def absolute (p current : Path) : Path :=
  let start :=
    if p.hasTwoSlashes then ⟨[slash, slash]⟩ else if p.isAbsolute then empty else current
  let cs := if p.hasTwoSlashes then p.components.drop 1 else p.components.dropWhile (· == .here)
  let whole := cs.foldl (fun p c => p.join ⟨c.bytes⟩) start
  if p.bytes.getLast? = some slash then whole.join empty else whole

end Path

end SieveRun
