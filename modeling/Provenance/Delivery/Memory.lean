import Provenance.Event
import Provenance.Notice

/-!
# Keeping and logging events

The two simplest ends of an event: it is kept in memory behind those that came before it, or its
text becomes a notice in the diagnostic log.
-/

namespace Provenance.Delivery

/-- The events that are kept, in the order in which they came. -/
structure Memory where
  events : List Event

namespace Memory

/-- The memory of nothing. -/
def empty : Memory := ⟨[]⟩

/-- Keep one more event. -/
def emit (m : Memory) (e : Event) : Memory :=
  ⟨m.events ++ [e]⟩

/-- All events, and the memory without them. -/
def take (m : Memory) : List Event × Memory :=
  (m.events, empty)

/-- How many events are kept. -/
def size (m : Memory) : Nat :=
  m.events.length

/-- Whether no event is kept. -/
def isEmpty (m : Memory) : Bool :=
  m.events.isEmpty

end Memory

/-- The notice of an event. -/
def logged (e : Event) : Notice where
  message := e.toText
  fields := [("event_type", e.type.name)]

end Provenance.Delivery
