import Provenance.Execution

/-!
# Listeners

The *listener* stands between the host and the executions.  The host names a job with each of its
notifications; the listener tracks one execution for each job in flight, which it creates at the
first notification about the job and gives up at its end.
-/

namespace Provenance

/-- The executions of the jobs in flight, no two of them of the same job. -/
structure Listener where
  agent : Agent
  executions : List Execution
  distinct : executions.Pairwise fun x y => x.job ≠ y.job

namespace Listener

/-- The listener that has heard nothing yet. -/
def new (a : Agent) : Listener :=
  ⟨a, [], .nil⟩

/-- The execution of a job, if it is in flight. -/
def find? (l : Listener) (job : JobId) : Option Execution :=
  l.executions.find? (·.job = job)

/-- Whether a job is in flight. -/
def isTracking (l : Listener) (job : JobId) : Bool :=
  (l.find? job).isSome

/-- The number of jobs in flight. -/
def activeJobs (l : Listener) : Nat :=
  l.executions.length

/-- The execution of a job, which is a new one with the given run if the job is not in flight. -/
def executionOf (l : Listener) (job : JobId) (run : RunId) : Execution :=
  (l.find? job).getD (.new job run)

/-- Give up the execution of a job. -/
def release (l : Listener) (job : JobId) : Listener where
  agent := l.agent
  executions := l.executions.filter (·.job ≠ job)
  distinct := l.distinct.filter _

/-- Track an execution in place of one of the same job. -/
def track (l : Listener) (x : Execution) : Listener where
  agent := l.agent
  executions := x :: (l.release x.job).executions
  distinct := List.pairwise_cons.2
    ⟨fun _ hy => Ne.symm (by simpa using (List.mem_filter.1 hy).2), (l.release x.job).distinct⟩

/-! ## Notifications -/

/-- What a notification comes to. -/
structure Reaction where
  listener : Listener
  event : Option Event
  warnings : List Execution.Warning

/-- The final node of a job is known; the result also has the configurations that were loaded. -/
def finalNodeBound (l : Listener) (job : JobId) (j : JobGraph) (before : List j.graph.Vertex)
    (run : RunId) : Reaction × List j.graph.Vertex :=
  let bound := (l.executionOf job run).bind l.agent j before
  let ignored := match bound.result with
    | .ok () => []
    | .error e => [.bindingIgnored job e]
  (⟨l.track bound.execution, none, bound.warnings ++ ignored⟩, bound.loads)

/-- A job has started. -/
def jobStarted (l : Listener) (job : JobId) (millis : Int) (run : RunId) (now : Instant) :
    Reaction :=
  let step := (l.executionOf job run).start l.agent millis now
  ⟨l.track step.execution, step.event, step.warnings⟩

/-- A job has ended. -/
def jobEnded (l : Listener) (job : JobId) (millis : Int) (outcome : Outcome) (run : RunId)
    (now : Instant) : Reaction :=
  let step := (l.executionOf job run).finish l.agent millis outcome now
  ⟨l.release job, step.event, step.warnings⟩

/-- The listener as a diagnostic description. -/
def describe (l : Listener) : String :=
  "LineageListener \x7b active_jobs: " ++ Decimal.text l.activeJobs ++ ", .. \x7d"

end Listener

end Provenance
