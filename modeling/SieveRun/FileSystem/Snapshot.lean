import SieveRun.FileSystem.Basic

/-!
# Snapshots

A file system that is known in part: the entries on the way along some paths. Looking one of
these paths up passes only through routes on its way, so the snapshot answers as the whole
would. What a run changed is the difference of two snapshots.
-/

namespace SieveRun

namespace FileSystem

/-- The routes that a walk from a route passes through. -/
def routesAlong (r : Route) : List Name → List Route
  | [] => [r]
  | piece :: rest =>
    r :: match step r piece with
      | .ok next => routesAlong next rest
      | .error _ => []

/-- The routes on the way along a path. -/
def routesOf (current : Route) (p : Path) : List Route :=
  routesAlong (if p.isAbsolute then [] else current) (Text.pieces Path.slash p.bytes)

/-- The absolute path of a route. -/
def routePath (r : Route) : Path := ⟨Path.slash :: Text.join Path.slash r⟩

/-- The directories that are there now and were not before, parents first. -/
def madeSince (before after : FileSystem) : List Route :=
  let made := after.entries.filter fun e =>
    e.2 == .directory && (before.entry? e.1).isNone && (after.entry? e.1).isSome
  (made.map Prod.fst).eraseDups.mergeSort fun r s => decide (r.length ≤ s.length)

/-- The routes at which there is nothing now and was something before, children first. -/
def goneSince (before after : FileSystem) : List Route :=
  let gone := before.entries.filter fun e => (after.entry? e.1).isNone
  (gone.map Prod.fst).eraseDups.mergeSort fun r s => decide (s.length ≤ r.length)

end FileSystem

end SieveRun
