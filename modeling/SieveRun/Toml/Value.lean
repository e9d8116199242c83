import SieveRun.Toml.Numeral

/-!
# Values and tables of a TOML document

A document is a table; a table maps names to values, each name once. What may still be added
to a table depends on where it came from (`Origin`): a table with a header of its own is
closed to dotted keys, one that dotted keys made is closed to headers of its own, and one
written between braces is closed to all that follows. `within` walks down the names of a
header or of a dotted key and changes the table it arrives at, making the missing ones on
the way; a name that holds a list of headed tables leads into the last of them.
-/

namespace SieveRun.Toml

/-- What brought a table about. -/
inductive Origin where
  /-- A header of its own. -/
  | header
  /-- A longer header. -/
  | passing
  /-- A dotted key. -/
  | dotted
  /-- Braces. -/
  | braces
  deriving DecidableEq, Repr

/-- What a name can stand for. -/
inductive Value where
  | text (s : String)
  | truth (b : Bool)
  | numeral (n : Numeral)
  /-- A date, a time or both, as it is spelled. -/
  | moment (spelling : String)
  | array (items : List Value)
  | table (origin : Origin) (entries : List (String × Value))
  /-- The tables of a header that is repeated, each with its entries. -/
  | tables (all : List (List (String × Value)))
  deriving Repr

/-- The entries of a table. -/
abbrev Entries := List (String × Value)

/-! ## Reading all there is -/

mutual

/-- Every number in the value has a value. -/
def Value.isReadable : Value → Bool
  | .numeral n => n.isReadable
  | .array items => areReadable items
  | .table _ entries => Entries.areReadable entries
  | .tables all => allReadable all
  | .text _ | .truth _ | .moment _ => true

/-- Every number in the items of an array has a value. -/
def areReadable : List Value → Bool
  | [] => true
  | v :: rest => v.isReadable && areReadable rest

/-- Every number in the entries of a table has a value. -/
def Entries.areReadable : List (String × Value) → Bool
  | [] => true
  | (_, v) :: rest => v.isReadable && Entries.areReadable rest

/-- Every number in the tables of a repeated header has a value. -/
def allReadable : List (List (String × Value)) → Bool
  | [] => true
  | entries :: rest => Entries.areReadable entries && allReadable rest

end

/-! ## Changing tables -/

namespace Entries

/-- With a value under a name, in place of the one that was there. -/
def put (name : String) (v : Value) : Entries → Entries
  | [] => [(name, v)]
  | e :: es => if e.1 = name then (name, v) :: es else e :: put name v es

/-- With a value under a name that was free. -/
def add? (name : String) (v : Value) (es : Entries) : Option Entries :=
  if (es.lookup name).isSome then none else some (put name v es)

/-- Change the table that the names lead to. A table on the way may be entered if its origin
passes `enter`, and a missing one is made with the origin `fresh`; `here` is the origin of
this table. -/
def within (enter : Origin → Bool) (fresh : Origin)
    (change : Origin → Entries → Option Entries) :
    List String → Origin → Entries → Option Entries
  | [], here, es => change here es
  | name :: path, _, es =>
    match es.lookup name with
    | none =>
      (within enter fresh change path fresh []).map fun sub => put name (.table fresh sub) es
    | some (.table origin sub) =>
      if enter origin then
        (within enter fresh change path origin sub).map fun sub => put name (.table origin sub) es
      else none
    | some (.tables all) =>
      (within enter fresh change path .header (all.getLast?.getD [])).map fun last =>
        put name (.tables (all.dropLast ++ [last])) es
    | some _ => none

/-- The tables that a header may pass through. -/
def enterForHeader (origin : Origin) : Bool := origin != .braces

/-- The tables that a dotted key may pass through. -/
def enterForKey (origin : Origin) : Bool := origin == .passing || origin == .dotted

/-- Open the table of a header. -/
def openTable (path : List String) (name : String) (es : Entries) : Option Entries :=
  within enterForHeader .passing (fun _ es =>
    match es.lookup name with
    | none => some (put name (.table .header []) es)
    | some (.table .passing sub) => some (put name (.table .header sub) es)
    | some _ => none) path .header es

/-- Open one more table of a repeated header. -/
def openRepeated (path : List String) (name : String) (es : Entries) : Option Entries :=
  within enterForHeader .passing (fun _ es =>
    match es.lookup name with
    | none => some (put name (.tables [[]]) es)
    | some (.tables all) => some (put name (.tables (all ++ [[]])) es)
    | some _ => none) path .header es

/-- Assign a value to a dotted key, seen from this table. The table that receives the value
has to be one that dotted keys made, unless it is this one. -/
def assign (enter : Origin → Bool) (path : List String) (name : String) (v : Value)
    (es : Entries) : Option Entries :=
  within enter .dotted (fun origin es =>
    if path ≠ [] ∧ origin ≠ .dotted then none else add? name v es) path .header es

/-- Assign a value to a dotted key in the table of a header. -/
def assignUnder (header path : List String) (name : String) (v : Value) (es : Entries) :
    Option Entries :=
  within enterForHeader .passing (fun _ es => assign enterForKey path name v es) header .header es

end Entries

end SieveRun.Toml
