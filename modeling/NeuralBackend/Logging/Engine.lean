import NeuralBackend.Trace.Event

/-!
# Filter engines

What a filter is, how one is read and what it shows is up to the logging library that an application
uses.  A `FilterEngine` is all that the application knows of it.
-/

namespace NeuralBackend

/-- The filters of a logging library. -/
structure FilterEngine where
  Filter : Type
  /-- The filter that shows a level and everything more severe. -/
  ofLevel : Level → Filter
  /-- The filter that a text describes, if it describes one. -/
  parse? : String → Option Filter
  showsEvent : Filter → Event → Bool
  showsSpan : Filter → Span → Bool

end NeuralBackend
