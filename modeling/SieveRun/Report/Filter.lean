import SieveRun.Report.Directive

/-!
# Which events are shown

A filter is a list of directives between commas. Of the directives that are about an event
the most special one decides, the last of them if it is given again; where there is none,
the event is not shown.
-/

namespace SieveRun

open Text

/-- Which events are shown. -/
structure Filter where
  directives : List Directive
  deriving DecidableEq, Repr

namespace Filter

/-- All events up to a severity. -/
def upTo (severity : Severity) : Filter := ⟨[{ threshold := .downTo severity }]⟩

/-- The filter of some directives; without any only errors are shown. -/
def ofDirectives (ds : List Directive) : Filter := if ds = [] then upTo .error else ⟨ds⟩

/-- The filter that a text spells, if all its directives can be read. -/
def ofText? (text : String) : Option Filter :=
  (((pieces ',' text.toList).filter (· != [])).mapM Directive.ofText?).map ofDirectives

/-- The directive that decides about an event. -/
def decisive? (f : Filter) (e : Event) : Option Directive :=
  match f.directives.filter fun d => d.concerns e with
  | [] => none
  | d :: rest => some (rest.foldl Directive.orMoreSpecial d)

/-- The event is shown. -/
def shows (f : Filter) (e : Event) : Bool :=
  (f.decisive? e).any fun d => d.threshold.shows e.severity

end Filter

end SieveRun
