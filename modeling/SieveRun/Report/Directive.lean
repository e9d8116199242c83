import SieveRun.Event
import SieveRun.Report.FieldValue
import SieveRun.Text.Decimal
import SieveRun.Text.Pieces
import SieveRun.Text.Utf8
import SieveRun.Text.WordChar

/-!
# The directives of a filter

A directive lets events through up to a severity. It may be about some events only: about
those whose target begins in a certain way, and, in brackets, about those that have a
certain field or were noted inside a certain span. The program opens no spans, so a
directive about spans is about no event. Without a level a directive lets everything
through, and a level may stand alone.

    info
    cado_toplevel::plan=debug
    cado_toplevel[span{field}]=warn
-/

namespace SieveRun

open Text

/-- How far down the severities an output goes. -/
inductive Threshold where
  | off
  | downTo (severity : Severity)
  deriving DecidableEq, Repr

namespace Threshold

/-- The output shows an event. -/
def shows (t : Threshold) (severity : Severity) : Bool :=
  match t with
  | .off => false
  | .downTo last => decide (severity.rank ≤ last.rank)

/-- Everything is shown. -/
def everything : Threshold := .downTo .trace

/-- The thresholds in order, by their numbers from zero on. -/
def all : List Threshold :=
  [.off, .downTo .error, .downTo .warn, .downTo .info, .downTo .debug, .downTo .trace]

/-- The name of a threshold in small letters. -/
def name : Threshold → String
  | .off => "off"
  | .downTo severity => severity.filterName

/-- The threshold that a text names, by its number or in any mixture of ASCII letters. -/
def ofText? (cs : List Char) : Option Threshold :=
  match count? cs with
  | some n => all[n]?
  | none => all.find? fun t => t.name.toList == cs.map Char.toLower

/-- The threshold after an equals sign. -/
def ofLevel? (cs : List Char) : Option Threshold :=
  if cs = [] then some everything else ofText? cs

end Threshold

/-- Which events of its targets a directive is about. -/
inductive Scope where
  | all
  /-- Those that have a field of this name. -/
  | withField (name : List Char)
  /-- Those inside certain spans. -/
  | inSpans
  deriving DecidableEq, Repr

namespace Scope

/-- The scope of a field in braces. A field with a value is one of a span; what follows a
second equals sign does not matter. -/
def ofField? (field : List Char) : Option Scope :=
  if field = [] then none
  else match pieces '=' field with
    | _ :: value :: _ => if FieldValue.isReadable value then some .inSpans else none
    | _ => some (.withField field)

/-- The scope of a span without a field, or with one. -/
def ofSpan? (span : List Char) (field : Option (List Char)) : Option Scope :=
  match field with
  | none => some .inSpans
  | some field => (ofField? field).map fun scope => if span = [] then scope else .inSpans

/-- The scope takes in an event. -/
def takesIn (scope : Scope) (e : Event) : Bool :=
  match scope with
  | .all => true
  | .withField name => e.fieldNames.any fun field => field.toList == name
  | .inSpans => false

end Scope

/-- One directive of a filter. -/
structure Directive where
  /-- What the target of an event has to begin with. -/
  target : List Char := []
  scope : Scope := .all
  threshold : Threshold := .everything
  deriving DecidableEq, Repr

namespace Directive

/-- A character that a directive may start with. -/
def isStart (c : Char) : Bool :=
  c == '[' || c == '-' || c == ':' || c == '_' || isLetterOrNumber c

/-- The directive of a level or a target that stands alone. -/
def ofWord (cs : List Char) : Directive :=
  match Threshold.ofText? cs with
  | some threshold => { threshold }
  | none => { target := cs }

/-- What stands in a text from the place on, counted in bytes, that `before` reaches to. -/
def bytesFrom (text before : List Char) : List UInt8 :=
  (utf8 (String.ofList text)).drop (utf8 (String.ofList before)).length

/-- What stands in a text in the place of `part` behind `before`, if characters do. -/
def inPlace? (text before part : List Char) : Option (List Char) :=
  let length := (utf8 (String.ofList part)).length
  (utf8? ((bytesFrom text before).take length)).map String.toList

/-- The threshold of a text from a place on. -/
def levelFrom? (text before : List Char) : Option Threshold :=
  (utf8? (bytesFrom text before)).bind fun level => Threshold.ofLevel? level.toList

/-- What brackets hold: a span and a field in braces, if there is one. What follows them is
also given. -/
def cutBrackets? (cs : List Char) : Option ((List Char × Option (List Char)) × List Char) :=
  let span := cs.takeWhile fun c => c != ']' && c != '{'
  match cs.dropWhile fun c => c != ']' && c != '{' with
  | ']' :: rest => some ((span, none), rest)
  | '{' :: cs =>
    match cut '}' cs with
    | some (field, ']' :: rest) => some ((span, some field), rest)
    | _ => none
  | _ => none

/-- The scope in the brackets that open behind `before`, and what follows them. -/
def scope? (text before cs : List Char) : Option (Scope × List Char) := do
  let ((span, field), rest) ← cutBrackets? cs
  let scope ← match field with
    | none => Scope.ofSpan? span none
    | some field =>
      (inPlace? text (before ++ span ++ ['\x7b']) field).bind fun field =>
        Scope.ofSpan? span (some field)
  pure (scope, rest)

/-- The directive that a text spells. Its parts are found in the text without the blanks
around it, and read in the text with them, each in the place where it was found. So blanks
in front move every part, and blanks behind belong to the last one. -/
def ofText? (text : List Char) : Option Directive :=
  let cs := trim text
  if cs.head?.any isStart then
    let head := cs.takeWhile fun c => c != '=' && c != '['
    match cs.dropWhile fun c => c != '=' && c != '[' with
    | '=' :: _ => do
      let target ← inPlace? text [] head
      let threshold ← levelFrom? text (head ++ ['='])
      pure { target, threshold }
    | '[' :: rest => do
      let target ← inPlace? text [] head
      let (scope, rest) ← scope? text (head ++ ['[']) rest
      match rest with
      | [] => pure { target, scope }
      | '=' :: level => do
        let threshold ← levelFrom? text (cs.take (cs.length - level.length))
        pure { target, scope, threshold }
      | _ => none
    | _ => some (ofWord text)
  else none

/-- The directive is about an event. -/
def concerns (d : Directive) (e : Event) : Bool :=
  d.target.isPrefixOf e.target.toList && d.scope.takesIn e

/-- How special the directive is: the length of its target matters first, and then that it
names a field. -/
def weight (d : Directive) : Nat := 2 * d.target.length + if d.scope = .all then 0 else 1

/-- Of two directives the more special one, the second if they are equally special. -/
def orMoreSpecial (d e : Directive) : Directive := if e.weight < d.weight then d else e

end Directive

end SieveRun
