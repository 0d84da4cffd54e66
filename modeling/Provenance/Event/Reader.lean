import Provenance.Event
import Provenance.Facet.Reader
import Provenance.Time.Timestamp

/-!
# Reading events

An event is a record all of whose fields have to be there.  Its type is a name, which may also
stand as the only key of an object, over null.
-/

namespace Provenance

open Json (Written)

/-- The type of events that a value names. -/
def EventType.ofWritten? : Written → Option EventType
  | .text (some s) => ofName? s
  | .object [(some s, .null)] => ofName? s
  | _ => none

/-- The dataset that a record spells. -/
def Dataset.ofWritten? (w : Written) : Option Dataset := do
  let [some namespaceName, some name] ← w.slots? ["namespace", "name"] false | none
  some ⟨← namespaceName.text?, ← name.text?⟩

/-- The run that a record spells, itself inside `enclosing` arrays and objects. -/
def Run.ofWritten? (enclosing : Nat) (w : Written) : Option Run := do
  let [some id, some facets] ← w.slots? ["runId", "facets"] false | none
  some ⟨← id.text? >>= RunId.ofText?, ← RunFacets.ofWritten? (enclosing + 1) facets⟩

/-- The event that a record spells. -/
def Event.ofWritten? (w : Written) : Option Event := do
  let [some type, some time, some producer, some job, some run, some inputs, some outputs] ←
    w.slots? ["eventType", "eventTime", "producer", "job", "run", "inputs", "outputs"] false
    | none
  some {
    type := ← EventType.ofWritten? type
    time := ← time.text? >>= Timestamp.instant?
    producer := ← producer.text?
    job := ← Job.ofWritten? job
    run := ← Run.ofWritten? 1 run
    inputs := ← inputs.list? Dataset.ofWritten?
    outputs := ← outputs.list? Dataset.ofWritten? }

/-- The event that a JSON text spells. -/
def Event.read? (s : String) : Option Event :=
  Written.read? s >>= ofWritten?

/-- The facets of a run that a JSON text spells. -/
def RunFacets.read? (s : String) : Option RunFacets :=
  Written.read? s >>= ofWritten? 0

end Provenance
