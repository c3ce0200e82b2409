import NeuralBackend.Logging.Directive
import NeuralBackend.Logging.Engine

/-!
# Filters made of directives

One engine of filters.  A filter is a list of directives, separated by commas.

* `Filter.parse?` reads a filter.
* `Filter.showsEvent` takes the most precise directive that applies to the event: the one with the
  longest address, then one that asks for a field.  Of two that apply to just the same the later one
  counts.
* `Filter.showsSpan` also shows a span that a directive names, if any directive goes down to its
  level.
* `Filter.engine` is the engine.
-/

namespace NeuralBackend

/-- The directives of a filter. -/
abbrev Filter := List Directive

namespace Filter

/-- The filter that shows a level and everything more severe. -/
def ofLevel (level : Level) : Filter := [{ threshold := some level }]

/-- A filter; `none` if one of its directives cannot be read.  An empty filter shows nothing. -/
def parse? (text : String) : Option Filter :=
  ((text.splitOn ",").filter (· ≠ "")).mapM fun part => Directive.parse? part.toList

/-- The most precise of the directives, the last of several. -/
def mostPrecise : Filter → Option Directive
  | [] => none
  | d :: rest =>
      match mostPrecise rest with
      | none => some d
      | some e => if e.atLeast d then some e else some d

/-- Whether the most precise of the applicable directives shows a level. -/
def showsBy (filter : Filter) (level : Level) (applies : Directive → Bool) : Bool :=
  match mostPrecise (filter.filter fun d => !d.isContextual && applies d) with
  | none => false
  | some d => d.threshold.shows level

/-- Whether an event is shown. -/
def showsEvent (filter : Filter) (e : Event) : Bool :=
  filter.showsBy e.level fun d =>
    d.admitsAddress e.address && d.field.all fun f => f ∈ "message" :: e.fields.map Prod.fst

/-- Whether any report of a level can pass: some directive shows the level, or waits for a value. -/
def reaches (filter : Filter) (level : Level) : Bool :=
  filter.any fun d => d.comparesValue || d.threshold.shows level

/-- Whether a span is shown. -/
def showsSpan (filter : Filter) (s : Span) : Bool :=
  (filter.reaches s.level &&
    filter.any fun d => d.namesSpan s.name && d.admitsAddress s.address) ||
  filter.showsBy s.level fun d => d.admitsAddress s.address

/-- The engine whose filters are lists of directives. -/
def engine : FilterEngine where
  Filter := Filter
  ofLevel := ofLevel
  parse? := parse?
  showsEvent := showsEvent
  showsSpan := showsSpan

end Filter

end NeuralBackend
