import SieveRun.FileSystem.Basic
import SieveRun.Layout.Basic
import SieveRun.Toml.Document

/-!
# Layout files

A layout file is a TOML document whose table `paths` names the directories of an
installation. A directory that it does not name is where it would be without the file. The
table may also be written as an array with the directories in their order; what follows the
fourth is not looked at. Shipped parameter files have to be looked for somewhere, so `data`
may not be empty; any other empty path stands for the current directory.
-/

namespace SieveRun

open Toml (Value Entries)

/-- Why there is no layout. -/
inductive LayoutError where
  | unreadable (file : Path) (cause : FileError)
  /-- The file is no TOML document, or does not describe directories. -/
  | malformed (file : Path)
  /-- The directory of parameter files is the empty path. -/
  | noData
  deriving DecidableEq, Repr

namespace LayoutError

/-- The wording of a layout error. -/
def message : LayoutError → String
  | .unreadable file cause => s!"Failed to read layout file '{file.text}': {cause.message}"
  | .malformed file => s!"Failed to parse layout file '{file.text}': no table of paths"
  | .noData => "Invalid layout: paths.data must not be empty"

/-- The file-system failure that a layout error arose from. -/
def cause? : LayoutError → Option FileError
  | .unreadable _ cause => some cause
  | _ => none

end LayoutError

namespace Layout

/-- The directory that a value names; without a value the one given instead. -/
def directory? (value : Option Value) (instead : Path) : Option Path :=
  match value with
  | none => some instead
  | some (.text s) => some (.ofText s)
  | some _ => none

/-- The directory that a value names, if there is a value. -/
def sourceDirectory? (value : Option Value) (instead : Option Path) : Option (Option Path) :=
  match value with
  | none => some instead
  | some (.text s) => some (some (.ofText s))
  | some _ => none

/-- This layout with the directories that are named by values. -/
def override? (l : Layout) (data lib bin source : Option Value) : Option Layout :=
  (directory? data l.data).bind fun data =>
    (directory? lib l.lib).bind fun lib =>
      (directory? bin l.bin).bind fun bin =>
        (sourceDirectory? source l.source).map fun source => ⟨data, lib, bin, source⟩

/-- This layout with the directories that the value of `paths` names. A moment names none. -/
def ofPaths? (l : Layout) : Value → Option Layout
  | .table _ es =>
    if Entries.areReadable es then
      l.override? (es.lookup "data") (es.lookup "lib") (es.lookup "bin") (es.lookup "source")
    else none
  | .array items => l.override? items[0]? items[1]? items[2]? items[3]?
  | .moment _ => some l
  | _ => none

/-- This layout with the directories that a document names. All that the document says
besides has to be readable. -/
def ofDocument? (l : Layout) (es : Entries) : Option Layout :=
  if Entries.areReadable (es.filter fun e => e.1 != "paths") then
    match es.lookup "paths" with
    | none => some l
    | some v => l.ofPaths? v
  else none

/-- Read a layout file; `l` says where the directories are that it does not name. -/
def ofFile (l : Layout) (files : FileSystem) (file : Path) : Except LayoutError Layout :=
  match files.readText file with
  | .error cause => .error (.unreadable file cause)
  | .ok text =>
    match (Toml.read? text).bind l.ofDocument? with
    | none => .error (.malformed file)
    | some layout => if layout.data.bytes = [] then .error .noData else .ok layout

/-- Where a layout file is looked for when none is named. -/
def defaultFile (configuration : Path) : Path :=
  (configuration.child "cado-nfs").child "layout.toml"

/-- Read the layout file in the directory of configuration files, if it is there. -/
def ofConfiguration (l : Layout) (files : FileSystem) (configuration : Path) :
    Except LayoutError Layout :=
  if files.isThere (defaultFile configuration) then l.ofFile files (defaultFile configuration)
  else .ok l

end Layout

end SieveRun
