import Provenance.Dataset
import Provenance.Facet
import Provenance.RunId
import Provenance.Time.Instant

/-!
# Events

An *event* reports that a run of a job has started, completed or failed, at which time, and which
datasets the job reads and writes.  The events of one run agree in everything but their type, their
time and the error facet.

An event is written as one line of JSON with its fields in a fixed order.
-/

namespace Provenance

/-- What has become of a run. -/
inductive EventType where
  | start
  | complete
  | fail
  deriving Repr, DecidableEq

namespace EventType

/-- The name of a type of events. -/
def name : EventType → String
  | start => "START"
  | complete => "COMPLETE"
  | fail => "FAIL"

/-- The type of events with a name. -/
def ofName? (name : String) : Option EventType :=
  [start, complete, fail].find? (·.name == name)

/-- Whether no event of a run follows. -/
def isTerminal : EventType → Bool
  | start => false
  | complete => true
  | fail => true

end EventType

/-- One execution of a job. -/
structure Run where
  id : RunId
  facets : RunFacets

/-- A report about a run. -/
structure Event where
  type : EventType
  time : Instant
  producer : String
  job : Job
  run : Run
  inputs : List Dataset
  outputs : List Dataset

/-- A report of this producer. -/
def Event.build (type : EventType) (time : Instant) (job : Job) (run : Run)
    (inputs outputs : List Dataset) : Event :=
  ⟨type, time, Provenance.producer, job, run, inputs, outputs⟩

/-! ## Writing -/

/-- A dataset as JSON. -/
def Dataset.toJson (d : Dataset) : Json :=
  .object [("namespace", .text d.namespaceName), ("name", .text d.name)]

/-- A run as JSON. -/
def Run.toJson (r : Run) : Json :=
  .object [("runId", .text r.id.toText), ("facets", r.facets.toJson)]

/-- An event as JSON. -/
def Event.toJson (e : Event) : Json :=
  .object [
    ("eventType", .text e.type.name), ("eventTime", .text e.time.toText),
    ("producer", .text e.producer), ("job", e.job.toJson), ("run", e.run.toJson),
    ("inputs", .array (e.inputs.map Dataset.toJson)),
    ("outputs", .array (e.outputs.map Dataset.toJson))]

/-- An event as JSON text. -/
def Event.toText (e : Event) : String :=
  e.toJson.render

end Provenance
