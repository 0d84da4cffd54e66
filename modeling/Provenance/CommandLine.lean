import Provenance.CommandLine.Help
import Provenance.Delivery.Collector
import Provenance.Delivery.Output
import Provenance.Listener
import Provenance.Plan.Load
import Provenance.Settings.Load

/-!
# The command line

The program answers a request with lines on the standard output, lines about errors, and an exit
code: zero if all went well, one if the request could not be carried out, and two if it was not
understood.

`replay` tells a listener what a host would: that the final node of the plan is known, that the job
has started, and that it has ended.  The events go through a delivery channel, and the standard
output is their collector.  `flatten` writes one line for each node of the job.
-/

namespace Provenance.CommandLine

/-- What a run of the program depends on besides its arguments. -/
structure Surroundings where
  host : Host
  /-- The run id of the parent, if the settings give none. -/
  parent : RunId
  /-- The run id of the job. -/
  run : RunId
  /-- The time at which the job starts, in milliseconds. -/
  startMillis : Int
  /-- The time at which the job ends, in milliseconds. -/
  endMillis : Int
  /-- The current time, where one of the two is out of range. -/
  now : Instant
  /-- How writing the n-th event to the standard output ends. -/
  write : Nat → Except Delivery.Failure Unit

/-- What a run of the program comes to. -/
structure Report where
  code : Nat
  /-- The lines on the standard output. -/
  output : List String
  /-- The lines about errors. -/
  errors : List String
  /-- What goes to the diagnostic log. -/
  notices : List Notice

/-- The text on the standard output. -/
def Report.text (r : Report) : String :=
  (r.output.foldl Delivery.Output.line .empty).text

/-- The report of a request that could not be carried out. -/
def Report.failure (message : String) : Report :=
  ⟨1, [], ["Error: " ++ message], []⟩

/-! ## Flatten -/

/-- A text with blanks behind it up to a width. -/
def padRight (width : Nat) (s : String) : String :=
  s ++ String.ofList (List.replicate (width - s.length) ' ')

/-- The line of a node. -/
def nodeLine (n : Node) : String :=
  n.id ++ "  " ++ padRight 24 n.operation ++ "  " ++ n.bindingName

/-- Write the nodes of a plan's job. -/
def flatten (h : Host) (plan : String) : Report :=
  match Plan.load h plan with
  | .error e => .failure e.message
  | .ok (_, j) => ⟨0, j.flatten.map fun v => nodeLine (j.graph.node v), [], []⟩

/-! ## Replay -/

/-- The class of the exception of a job that is replayed as failed. -/
def failureClass : String := "lineage.ReplayFailure"

/-- How a replayed job ends. -/
def outcomeOf (fail : Option String) : Outcome :=
  match fail with
  | some message => .failed (some ⟨failureClass, message, []⟩)
  | none => .succeeded

/-- The reactions of a listener to the lifecycle of a job. -/
def reactions (s : Surroundings) (a : Agent) (j : JobGraph) (fail : Option String) (job : JobId) :
    List Listener.Reaction :=
  let bound := ((Listener.new a).finalNodeBound job j [] s.run).1
  let started := bound.listener.jobStarted job s.startMillis s.run s.now
  let ended := started.listener.jobEnded job s.endMillis (outcomeOf fail) s.run s.now
  [bound, started, ended]

/-- Put events into a channel; the result also has the notices about those that are dropped. -/
def emitAll (c : Delivery.Channel) : List Event → Delivery.Channel × List Notice
  | [] => (c, [])
  | e :: es =>
    let (c, warning) := c.emit e
    let (c, notices) := emitAll c es
    (c, (warning.map (·.notice)).toList ++ notices)

/-- Deliver events to the standard output. -/
def deliver (s : Surroundings) (events : List Event) (notices : List Notice) : Report :=
  let (c, dropped) := emitAll (.new Delivery.defaultCapacity) events
  let (c, k, failed) := c.drain ⟨none, s.write, []⟩
  let written := (k.accepted.zipIdx.filter fun (_, n) => (s.write n).isOk).map (·.1)
  let errors := if c.failed = 0 then [] else
    ["Error: " ++ Decimal.text c.failed ++ " of " ++ Decimal.text (c.failed + c.delivered) ++
      " events failed to deliver"]
  { code := if c.failed = 0 then 0 else 1
    output := written.map Event.toText
    errors := errors
    notices := notices ++ dropped ++ failed.map (·.notice) }

/-- Follow a plan's job through its lifecycle. -/
def replay (s : Surroundings) (plan : String) (config appName fail : Option String)
    (job : UInt64) : Report :=
  match Plan.load s.host plan with
  | .error e => .failure e.message
  | .ok (p, j) =>
    match Settings.load (.standard s.parent) s.host config with
    | .error e => .failure ("failed to load config: " ++ e.message)
    | .ok settings =>
      let settings := match appName.or p.appName with
        | some name => settings.withAppName name
        | none => settings
      match Agent.create settings .standard with
      | .error e => .failure ("configuration error: " ++ e.message)
      | .ok a =>
        let rs := reactions s a j fail ⟨job⟩
        deliver s (rs.filterMap (·.event)) (rs.flatMap fun r => r.warnings.map (·.notice))

/-! ## The program -/

/-- The variables that a run of the program looks at. -/
def variableNames : List String := [
  Settings.fileVariable, Settings.namespaceVariable, Settings.parentRunIdVariable,
  Settings.parentJobNameVariable, Host.settingsVariable, Host.homeVariable]

/-- The files that a run of the program may read. -/
def files (h : Host) (args : List String) : List String :=
  match request? args with
  | some (.flatten plan) => [plan]
  | some (.replay plan config _ _ _) => plan :: Settings.places h config
  | _ => []

/-- Run the program. -/
def run (s : Surroundings) (args : List String) : Report :=
  match request? args with
  | none => ⟨2, [], ["The arguments are not understood; --help shows the usage."], []⟩
  | some (.help topic) => ⟨0, topic.lines, [], []⟩
  | some .version => ⟨0, ["lineage " ++ version], [], []⟩
  | some (.flatten plan) => flatten s.host plan
  | some (.replay plan config appName fail job) => replay s plan config appName fail job

end Provenance.CommandLine
