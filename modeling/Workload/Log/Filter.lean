import Workload.Log.Directive

/-!
# Log filters

A filter is a comma-separated list of directives. Of those that are about the target of an event,
and about a field of it if they name one, the most specific one decides whether it is logged; where
there is none the event is not logged.

A directive about spans lets more be logged: while a span is entered that it is about, everything up
to its level is logged. Such a span is always part of the log, unless no directive at all reaches
its level; every other span is part of it if an event of its target and level could be logged.
-/

namespace Workload.Log

open Text

/-- A filter. -/
structure Filter where
  /-- The directives, no two about the same. -/
  directives : List Directive := []
  /-- The most that any directive says, as a number. -/
  ceiling : Nat := 0
deriving Repr, DecidableEq

namespace Filter

/-- Adds a directive; one about the same is replaced. -/
def add (filter : Filter) (directive : Directive) : Filter where
  directives := filter.directives.filter (fun other => !other.sameSubject directive) ++ [directive]
  ceiling := max filter.ceiling directive.verbosity.rank

/-- The filter that logs everything up to a level. -/
def upTo (level : Level) : Filter := add {} { verbosity := some level }

/-- Reads a filter; empty directives are passed over. -/
def read (text : String) : Option Filter := do
  let pieces := (splitAllChars (· = ',') text.toList).filter fun piece => !piece.isEmpty
  let directives ← pieces.mapM Directive.read
  return directives.foldl add {}

/-- The more specific of two directives. -/
def moreSpecific (first : Option Directive) (second : Directive) : Option Directive :=
  match first with
  | some directive => if directive.isLessSpecific second then some second else some directive
  | none => some second

/-- How much the most specific directive that decides alone says, of those that are `about` it. -/
def decided (filter : Filter) (about : Directive → Bool) : Nat :=
  let applicable := filter.directives.filter fun directive => directive.isStatic && about directive
  ((applicable.foldl moreSpecific none).map fun directive => directive.verbosity.rank).getD 0

/-- How much a filter says about the events of a target that have the given fields. -/
def decidedForEvent (filter : Filter) (target : String) (fields : Fields) : Nat :=
  filter.decided fun directive =>
    directive.coversTarget target && directive.coversFields ("message" :: fields.map Prod.fst)

/-- How much a filter says about the spans of a target. -/
def decidedForSpan (filter : Filter) (target : String) : Nat :=
  filter.decided fun directive => directive.coversTarget target

/-- The directives about a span. -/
def directivesFor (filter : Filter) (span : Span) : List Directive :=
  filter.directives.filter fun directive => directive.isDynamic && directive.coversSpan span

/-- The highest level that a directive may have; where values matter, it is not known before. -/
def reach (filter : Filter) : Nat :=
  if filter.directives.any Directive.hasValue then Level.rank .trace else filter.ceiling

/-- How important spans are. -/
def spanLevel : Level := .info

/-- What a filter has made of the spans that are entered. -/
structure Scope where
  /-- The spans that are part of the log. -/
  spans : List Span := []
  /-- How much is logged on account of the spans, whatever else the filter says. -/
  released : Nat := 0

/-- Whether a span is part of the log, and followed by directives that are about it. -/
def follows (filter : Filter) (span : Span) : Bool :=
  !(filter.directivesFor span).isEmpty && spanLevel.rank ≤ filter.reach

/-- Whether a span inside of others is part of the log. -/
def allowsSpan (filter : Filter) (scope : Scope) (span : Span) : Bool :=
  filter.follows span || spanLevel.rank ≤ scope.released ||
    spanLevel.rank ≤ filter.decidedForSpan span.target

/-- How much is logged on account of a span. -/
def release (filter : Filter) (span : Span) : Nat :=
  ((filter.directivesFor span).filter fun directive => directive.acceptsValue span).foldr
    (fun directive most => max directive.verbosity.rank most) 0

/-- Enters a span. -/
def enter (filter : Filter) (scope : Scope) (span : Span) : Scope where
  spans := if filter.allowsSpan scope span then scope.spans ++ [span] else scope.spans
  released :=
    if filter.follows span then max scope.released (filter.release span) else scope.released

/-- Enters several spans, the outermost first. -/
def scopeOf (filter : Filter) (spans : List Span) : Scope :=
  spans.foldl filter.enter {}

/-- Whether an event inside of spans is logged. -/
def allows (filter : Filter) (scope : Scope) (level : Level) (target : String) (fields : Fields) :
    Bool :=
  level.rank ≤ scope.released || level.rank ≤ filter.decidedForEvent target fields

end Filter

end Workload.Log
