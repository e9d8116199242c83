import SieveRun.Path.Basic

/-!
# Where an installation keeps its files

The parameter files live under `data`, the programs of the computation in `lib`, and the
scripts in `bin` or, when one is named, first in a source tree.
-/

namespace SieveRun

/-- The directories of an installation. -/
structure Layout where
  /-- Holds the shipped parameter files. -/
  data : Path
  /-- Holds the programs of the computation. -/
  lib : Path
  /-- Holds the scripts. -/
  bin : Path
  /-- Scripts of a source tree, which win over those in `bin`. -/
  source : Option Path := none
  deriving DecidableEq, Repr

namespace Layout

/-- The layout of an installation that keeps all next to its executable. -/
def besideExecutable (directory : Path) : Layout :=
  ⟨directory.child "parameters", directory, directory, none⟩

end Layout

end SieveRun
