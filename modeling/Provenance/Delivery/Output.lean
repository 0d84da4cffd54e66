import Provenance.Event

/-!
# Writing events as lines

The standard output as a collector of events: each event is written as one line, which a newline
ends.
-/

namespace Provenance.Delivery

/-- What has been written. -/
structure Output where
  text : String

namespace Output

/-- Nothing has been written. -/
def empty : Output := ⟨""⟩

/-- Write a line. -/
def line (o : Output) (s : String) : Output :=
  ⟨o.text ++ s ++ "\n"⟩

/-- Write an event. -/
def deliver (o : Output) (e : Event) : Output :=
  o.line e.toText

/-- Write events one after the other. -/
def deliverAll (o : Output) (es : List Event) : Output :=
  es.foldl deliver o

end Output

end Provenance.Delivery
