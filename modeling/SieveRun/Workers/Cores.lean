import SieveRun.Session

/-!
# Counting physical cores

A processor listing states facts, one a line: `processor` once for each logical processor,
and for each of them its `physical id`, which is the socket, and the `cpu cores` of that
socket. The cores of the machine are the sockets times the cores of one, which has to be the
same everywhere. A listing that lacks either number counts its processors instead. Only the
set of sockets and the set of core counts matter, so neither the order of the lines nor
their repetition does.
-/

namespace SieveRun

open Text

namespace Cores

/-- The two sides of a line, at its first colon or, without one, at its first equals sign. -/
def fact? (line : List Char) : Option (List Char × List Char) :=
  ((cut ':' line).or (cut '=' line)).map fun parts => (trim parts.1, trim parts.2)

/-- The facts in a listing. -/
def facts (listing : String) : List (List Char × List Char) :=
  (lines listing.toList).filterMap fact?

/-- The values that are stated for a key, in order. -/
def values (key : String) (fs : List (List Char × List Char)) : List (List Char) :=
  (fs.filter fun f => f.1 == key.toList).map Prod.snd

/-- An increasing list with one more number, which may be in it already. -/
def putNumber (n : Nat) : List Nat → List Nat
  | [] => [n]
  | m :: ms => if n < m then n :: m :: ms else if n = m then m :: ms else m :: putNumber n ms

/-- The set of numbers in a list, in increasing order. -/
def numberSet (ns : List Nat) : List Nat := ns.foldr putNumber []

/-- The sockets that a listing names. -/
def sockets (fs : List (List Char × List Char)) : List (List Char) :=
  (values "physical id" fs).eraseDups

/-- The core counts that a listing states, in increasing order. -/
def coreCounts (fs : List (List Char × List Char)) : List Nat :=
  numberSet ((values "cpu cores" fs).filterMap count?)

/-- The physical cores in a listing. -/
def count (listing : String) : Except RunError Nat :=
  let fs := facts listing
  match coreCounts fs with
  | [] => .ok (max (values "processor" fs).length 1)
  | [perSocket] =>
    if sockets fs = [] then .ok (max (values "processor" fs).length 1)
    else .ok (max (min ((sockets fs).length * perSocket) maxCount) 1)
  | counts =>
    if sockets fs = [] then .ok (max (values "processor" fs).length 1)
    else .error (.disagreement (.coresPerSocket counts))

end Cores

/-- The pretended core count, if one is given and can be read. -/
def Surroundings.fakeCount? (s : Surroundings) : Option Nat :=
  s.fakeCores.bind fun text => count? (trim text.toList)

/-- The file that lists the processors. -/
def processorListing : Path := .ofText "/proc/cpuinfo"

/-- The physical cores of the machine: the pretended count, else what the listing says, else
what the platform says. -/
def physicalCores (surroundings : Surroundings) (files : FileSystem) : Except RunError Nat :=
  match surroundings.fakeCount? with
  | some n => .ok n
  | none =>
    if files.isFile processorListing then
      match files.readText processorListing with
      | .error cause => .error (.file .read processorListing cause)
      | .ok listing => Cores.count listing
    else .ok (max (min surroundings.platformCores maxCount) 1)

end SieveRun
