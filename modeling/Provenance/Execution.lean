import Provenance.Agent
import Provenance.Outcome

/-!
# Executions

An *execution* follows one job through its lifecycle: it is created, bound to the job's graph,
started and ended.  Binding finds the datasets of the job, once; starting and ending each emit an
event about the same datasets.

The host may call out of order.  A call that skips a phase goes through with a warning: a job that
was never bound has no datasets.  A call for a phase that is over changes nothing and emits nothing.
-/

namespace Provenance

/-- The number that the host gives a job. -/
structure JobId where
  number : UInt64
  deriving Repr, DecidableEq

/-- The number of a job as text. -/
def JobId.toText (id : JobId) : String :=
  Decimal.text id.number.toNat

/-- How far an execution has come. -/
inductive Phase where
  | created
  | bound
  | started
  | ended (type : EventType)
  deriving Repr, DecidableEq

/-- A phase as a diagnostic description. -/
def Phase.describe : Phase → String
  | created => "Created"
  | bound => "Bound"
  | started => "Started"
  | ended .start => "Terminal(Start)"
  | ended .complete => "Terminal(Complete)"
  | ended .fail => "Terminal(Fail)"

/-- The lineage of one job. -/
structure Execution where
  job : JobId
  run : RunId
  phase : Phase
  inputs : List Dataset
  outputs : List Dataset

namespace Execution

/-- The execution of a job about which nothing is known yet. -/
def new (job : JobId) (run : RunId) : Execution :=
  ⟨job, run, .created, [], []⟩

/-! ## Warnings -/

/-- Why a job could not be bound. -/
inductive BindError where
  /-- The datasets have been found already, or the job has started. -/
  | alreadyBound
  deriving Repr, DecidableEq

/-- The wording of the error. -/
def BindError.message : BindError → String
  | alreadyBound => "execution context already bound"

/-- What an execution warns about. -/
inductive Warning where
  /-- A part of a node's storage was skipped. -/
  | skipped (s : Resolver.Skipped)
  /-- A location has no naming rule. -/
  | dropped (job : JobId) (location : Location) (error : UnsupportedScheme)
  /-- The job was to be bound a second time, or after it had started. -/
  | boundLate (job : JobId) (phase : Phase)
  /-- The job could not be bound. -/
  | bindingIgnored (job : JobId) (error : BindError)
  /-- The job started before it was bound. -/
  | startedUnbound (job : JobId)
  /-- The job was to start a second time. -/
  | startedAgain (job : JobId) (phase : Phase)
  /-- The job ended without having started. -/
  | endedUnstarted (job : JobId) (phase : Phase)
  /-- The job was to end a second time. -/
  | endedAgain (job : JobId)
  /-- The time of an event is out of range. -/
  | unrepresentableTime (job : JobId) (millis : Int)

/-- The notice of a warning. -/
def Warning.notice : Warning → Notice
  | skipped s => s.notice
  | dropped job location error =>
    ⟨"dropping dataset",
      [("job_id", job.toText), ("location", location.toText), ("error", error.message)]⟩
  | boundLate job phase =>
    ⟨"bind called more than once or after start",
      [("job_id", job.toText), ("state", phase.describe)]⟩
  | bindingIgnored job error =>
    ⟨"final node binding ignored", [("job_id", job.toText), ("error", error.message)]⟩
  | startedUnbound job =>
    ⟨"job started before its final node was bound; emitting without datasets",
      [("job_id", job.toText)]⟩
  | startedAgain job phase =>
    ⟨"duplicate start ignored", [("job_id", job.toText), ("state", phase.describe)]⟩
  | endedUnstarted job phase =>
    ⟨"job ended without a start notification",
      [("job_id", job.toText), ("state", phase.describe)]⟩
  | endedAgain job => ⟨"duplicate end ignored", [("job_id", job.toText)]⟩
  | unrepresentableTime job millis =>
    ⟨"unrepresentable event time; using current time",
      [("job_id", job.toText), ("epoch_millis", Decimal.intText millis)]⟩

/-! ## Binding -/

/-- The datasets at several locations, those without a naming rule left out. -/
def datasets (registry : NamingRegistry) (locations : List Location) : List Dataset :=
  locations.filterMap fun l => (registry.normalize l).toOption

/-- The warnings about the locations without a naming rule. -/
def drops (job : JobId) (registry : NamingRegistry) (locations : List Location) : List Warning :=
  locations.filterMap fun l =>
    match registry.normalize l with
    | .ok _ => none
    | .error e => some (.dropped job l e)

/-- What binding comes to. -/
structure Bound (g : Graph) where
  execution : Execution
  result : Except BindError Unit
  loads : List g.Vertex
  warnings : List Warning

/-- Find the datasets of a job, after the configuration loads that went `before`. -/
def bind (x : Execution) (a : Agent) (j : JobGraph) (before : List j.graph.Vertex) :
    Bound j.graph :=
  match x.phase with
  | .created =>
    let survey := a.resolver.survey j.graph before j.flatten
    { execution := { x with
        phase := .bound
        inputs := datasets a.registry survey.inputs
        outputs := datasets a.registry survey.outputs }
      result := .ok ()
      loads := survey.loads
      warnings := survey.skips.map .skipped ++ drops x.job a.registry survey.inputs ++
        drops x.job a.registry survey.outputs }
  | phase => ⟨x, .error .alreadyBound, [], [.boundLate x.job phase]⟩

/-! ## Emitting events -/

/-- What a notification of the host comes to. -/
structure Step where
  execution : Execution
  event : Option Event
  warnings : List Warning

/-- The time of an event: that of the host, or the current one if the host's is out of range. -/
def eventTime (x : Execution) (millis : Int) (now : Instant) : Instant × List Warning :=
  match Instant.ofMillis? millis with
  | some time => (time, [])
  | none => (now, [.unrepresentableTime x.job millis])

/-- The facets of the run: its parent, and the error that ended it, if there is one. -/
def facets (a : Agent) (error : Option ErrorFacet) : RunFacets :=
  match error with
  | none => .of a.parent
  | some e => (RunFacets.of a.parent).withError e

/-- Emit an event and go on to a phase. -/
def emit (x : Execution) (a : Agent) (type : EventType) (phase : Phase) (error : Option ErrorFacet)
    (millis : Int) (now : Instant) (warnings : List Warning) : Step :=
  let (time, warning) := x.eventTime millis now
  { execution := { x with phase := phase }
    event := some (.build type time a.job ⟨x.run, facets a error⟩ x.inputs x.outputs)
    warnings := warnings ++ warning }

/-- The host says that the job has started. -/
def start (x : Execution) (a : Agent) (millis : Int) (now : Instant) : Step :=
  match x.phase with
  | .bound => x.emit a .start .started none millis now []
  | .created => x.emit a .start .started none millis now [.startedUnbound x.job]
  | phase => ⟨x, none, [.startedAgain x.job phase]⟩

/-- The host says that the job has ended. -/
def finish (x : Execution) (a : Agent) (millis : Int) (outcome : Outcome) (now : Instant) : Step :=
  let type := outcome.eventType
  match x.phase with
  | .started => x.emit a type (.ended type) outcome.error? millis now []
  | .ended _ => ⟨x, none, [.endedAgain x.job]⟩
  | phase => x.emit a type (.ended type) outcome.error? millis now [.endedUnstarted x.job phase]

end Execution

end Provenance
