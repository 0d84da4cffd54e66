import Mathlib.Data.List.Forall2
import Provenance.Execution

/-!
# What an execution emits

The host may call an execution in any order and as often as it likes.  This module says what comes
out of every such history.

A history is a list of `Execution.Call`s.  A call carries what the execution does not know by
itself: the configuration loads that went before a binding, and the time on the clock, which an
event takes when the host's own time is out of range.  `Execution.after` is the state after a
history and `Execution.events` what has been emitted by then.

`call_cases` says once what a call can do: bind a new execution, pass over an execution that is no
longer new, or emit one event about the datasets of the execution as they are.  Everything that
holds throughout a history comes from it: run and job never change, no call leads back to a new
execution, and only the first call can find datasets.

The exact trace needs more, namely which calls are passed over.  It is read off backwards through
the phases: nothing is emitted after the end (`events_of_ended`), one end after the start
(`events_of_started`), and from a bound execution the `milestones` of the history
(`events_of_bound`): the first start unless an end stands before it, and the first end.
`Behind` says the same of the history itself, without a search through it
(`start_mem_milestones_iff`, `end_mem_milestones_iff`).
-/

namespace Provenance

namespace Execution

/-! ## Histories -/

/-- A call of the host about a job. -/
inductive Call where
  | bind (j : JobGraph) (before : List j.graph.Vertex)
  | start (millis : Int) (now : Instant)
  | finish (millis : Int) (outcome : Outcome) (now : Instant)

/-- What a call comes to. -/
def call (x : Execution) (a : Agent) : Call → Step
  | .bind j before =>
    let bound := x.bind a j before
    ⟨bound.execution, none, bound.warnings⟩
  | .start millis now => x.start a millis now
  | .finish millis outcome now => x.finish a millis outcome now

/-- The execution after a history. -/
def after (x : Execution) (a : Agent) : List Call → Execution
  | [] => x
  | c :: cs => (x.call a c).execution.after a cs

/-- The events of a history, in the order in which they are emitted. -/
def events (x : Execution) (a : Agent) : List Call → List Event
  | [] => []
  | c :: cs => (x.call a c).event.toList ++ (x.call a c).execution.events a cs

lemma events_append (x : Execution) (a : Agent) (cs ds : List Call) :
    x.events a (cs ++ ds) = x.events a cs ++ (x.after a cs).events a ds := by
  induction cs generalizing x with
  | nil => rfl
  | cons c cs ih => rw [List.cons_append, events, events, after, ih, List.append_assoc]

/-! ## Milestones -/

/-- A start or an end of a job, as the host reports it; a start has no outcome. -/
structure Milestone where
  millis : Int
  now : Instant
  outcome : Option Outcome

/-- The start that a call reports. -/
def Call.started? : Call → Option Milestone
  | .start millis now => some ⟨millis, now, none⟩
  | _ => none

/-- The end that a call reports. -/
def Call.ended? : Call → Option Milestone
  | .finish millis outcome now => some ⟨millis, now, some outcome⟩
  | _ => none

/-- Whether a call reports an end. -/
def Call.isFinish (c : Call) : Bool :=
  c.ended?.isSome

/-- The milestones of a history: the first start in front of every end, and the first end. -/
def milestones (cs : List Call) : List Milestone :=
  ((cs.takeWhile (!·.isFinish)).findSome? Call.started?).toList ++ (cs.findSome? Call.ended?).toList

@[simp] lemma milestones_bind (j : JobGraph) (before : List j.graph.Vertex) (cs : List Call) :
    milestones (.bind j before :: cs) = milestones cs := rfl

@[simp] lemma milestones_finish (millis : Int) (outcome : Outcome) (now : Instant)
    (cs : List Call) : milestones (.finish millis outcome now :: cs) =
      [⟨millis, now, some outcome⟩] := rfl

/-- The type of event that reports a milestone. -/
def Milestone.type (m : Milestone) : EventType :=
  m.outcome.elim .start Outcome.eventType

/-- The event by which an execution reports a milestone. -/
def Milestone.report (a : Agent) (x : Execution) (m : Milestone) : Event :=
  .build m.type ((Instant.ofMillis? m.millis).getD m.now) a.job
    ⟨x.run, facets a (m.outcome.bind Outcome.error?)⟩ x.inputs x.outputs

/-! ## Single calls -/

/-- The datasets that a job reads and those that it writes, as binding finds them. -/
def found (a : Agent) (j : JobGraph) (before : List j.graph.Vertex) :
    List Dataset × List Dataset :=
  let survey := a.resolver.survey j.graph before j.flatten
  (datasets a.registry survey.inputs, datasets a.registry survey.outputs)

lemma emit_event (x : Execution) (a : Agent) (type : EventType) (phase : Phase)
    (error : Option ErrorFacet) (millis : Int) (now : Instant) (ws : List Warning) :
    (x.emit a type phase error millis now ws).event =
      some (.build type ((Instant.ofMillis? millis).getD now) a.job ⟨x.run, facets a error⟩
        x.inputs x.outputs) := by
  unfold emit eventTime
  cases Instant.ofMillis? millis <;> rfl

variable {x : Execution} {a : Agent}

lemma bind_of_ne_created (h : x.phase ≠ .created) (j : JobGraph)
    (before : List j.graph.Vertex) :
    x.bind a j before = ⟨x, .error .alreadyBound, [], [.boundLate x.job x.phase]⟩ := by
  unfold bind
  split
  · rename_i hc
    exact absurd hc h
  · rfl

/-- **What a call can do.**  It binds a new execution; or it changes and emits nothing; or it emits
one event about the datasets of the execution and changes the phase only. -/
lemma call_cases (x : Execution) (a : Agent) (c : Call) :
    (x.phase = .created ∧ ∃ j before, c = .bind j before ∧ (x.call a c).event = none ∧
        (x.call a c).execution = { x with
          phase := .bound
          inputs := (found a j before).1
          outputs := (found a j before).2 }) ∨
      (x.phase ≠ .created ∧ (x.call a c).event = none ∧ (x.call a c).execution = x) ∨
      ∃ (m : Milestone) (phase : Phase), phase ≠ .created ∧
        (x.call a c).event = some (m.report a x) ∧
        (x.call a c).execution = { x with phase := phase } := by
  cases c with
  | bind j before =>
      by_cases h : x.phase = .created
      · left
        refine ⟨h, j, before, rfl, rfl, ?_⟩
        simp only [call, bind, h]
        rfl
      · right; left
        refine ⟨h, rfl, ?_⟩
        rw [call, bind_of_ne_created h]
  | start millis now =>
      cases h : x.phase with
      | created | bound =>
          right; right
          refine ⟨⟨millis, now, none⟩, .started, by simp, ?_, ?_⟩
          · simp only [call, start, h, emit_event]
            rfl
          · simp only [call, start, h]
            rfl
      | started | ended _ =>
          right; left
          refine ⟨by simp, ?_, ?_⟩ <;> simp only [call, start, h]
  | finish millis outcome now =>
      cases h : x.phase with
      | created | bound | started =>
          right; right
          refine ⟨⟨millis, now, some outcome⟩, .ended outcome.eventType, by simp, ?_, ?_⟩
          · simp only [call, finish, h, emit_event]
            rfl
          · simp only [call, finish, h]
            rfl
      | ended _ =>
          right; left
          refine ⟨by simp, ?_, ?_⟩ <;> simp only [call, finish, h]

lemma run_call (x : Execution) (a : Agent) (c : Call) : (x.call a c).execution.run = x.run := by
  rcases x.call_cases a c with ⟨-, _, _, -, -, h⟩ | ⟨-, -, h⟩ | ⟨_, _, -, -, h⟩ <;> rw [h]

lemma job_call (x : Execution) (a : Agent) (c : Call) : (x.call a c).execution.job = x.job := by
  rcases x.call_cases a c with ⟨-, _, _, -, -, h⟩ | ⟨-, -, h⟩ | ⟨_, _, -, -, h⟩ <;> rw [h]

/-- No call leads back to a new execution. -/
lemma phase_call (x : Execution) (a : Agent) (c : Call) :
    (x.call a c).execution.phase ≠ .created := by
  rcases x.call_cases a c with ⟨-, _, _, -, -, h⟩ | ⟨hne, -, h⟩ | ⟨_, _, hne, -, h⟩
  · simp [h]
  · rwa [h]
  · rwa [h]

/-- All events of a history belong to the run of the execution. -/
lemma run_id_of_mem_events {cs : List Call} {e : Event} (he : e ∈ x.events a cs) :
    e.run.id = x.run := by
  induction cs generalizing x with
  | nil => cases he
  | cons c cs ih =>
      rcases List.mem_append.1 he with he | he
      · rcases x.call_cases a c with ⟨-, _, _, -, hnone, -⟩ | ⟨-, hnone, -⟩ | ⟨m, _, -, hsome, -⟩
        · simp [hnone] at he
        · simp [hnone] at he
        · rw [hsome, Option.mem_toList] at he
          rw [← Option.some.inj he]
          rfl
      · exact (ih he).trans (x.run_call a c)

/-! ## The trace -/

lemma events_of_ended {type : EventType} (h : x.phase = .ended type) (cs : List Call) :
    x.events a cs = [] := by
  induction cs with
  | nil => rfl
  | cons c cs ih =>
      have hpass : (x.call a c).event = none ∧ (x.call a c).execution = x := by
        cases c <;> simp [call, bind, start, finish, h]
      rw [events, hpass.1, hpass.2, ih]
      rfl

lemma events_of_started (h : x.phase = .started) (cs : List Call) :
    x.events a cs = (cs.findSome? Call.ended?).toList.map (·.report a x) := by
  induction cs with
  | nil => rfl
  | cons c cs ih =>
      cases c with
      | bind j before => simpa [events, call, bind, h, List.findSome?_cons, Call.ended?] using ih
      | start millis now => simpa [events, call, start, h, List.findSome?_cons, Call.ended?] using ih
      | finish millis outcome now =>
          simp only [events, call, finish, h, emit_event]
          rw [events_of_ended rfl]
          rfl

lemma events_of_bound (h : x.phase = .bound) (cs : List Call) :
    x.events a cs = (milestones cs).map (·.report a x) := by
  induction cs with
  | nil => rfl
  | cons c cs ih =>
      cases c with
      | bind j before => simpa [events, call, bind, h] using ih
      | start millis now =>
          simp only [events, call, start, h, emit_event]
          rw [events_of_started rfl]
          rfl
      | finish millis outcome now =>
          simp only [events, call, finish, h, emit_event]
          rw [events_of_ended rfl]
          rfl

/-- The datasets that are found in the course of a history: the first call finds them if it is a
binding, and no other call does. -/
def frozen (a : Agent) : List Call → List Dataset × List Dataset
  | .bind j before :: _ => found a j before
  | _ => ([], [])

/-- An execution with the datasets of its history. -/
def settled (job : JobId) (run : RunId) (a : Agent) (cs : List Call) : Execution :=
  { new job run with inputs := (frozen a cs).1, outputs := (frozen a cs).2 }

/-- **The trace.**  A history emits one event for each of its milestones, about the datasets that
its first call has found. -/
lemma events_new (job : JobId) (run : RunId) (cs : List Call) :
    (new job run).events a cs = (milestones cs).map (·.report a (settled job run a cs)) := by
  cases cs with
  | nil => rfl
  | cons c cs =>
      cases c with
      | bind j before =>
          rw [events, milestones_bind]
          exact events_of_bound rfl cs
      | start millis now =>
          simp only [events, call, start, new, emit_event]
          rw [events_of_started rfl]
          rfl
      | finish millis outcome now =>
          simp only [events, call, finish, new, emit_event]
          rw [events_of_ended rfl]
          rfl

/-! ## The milestones of a history -/

/-- What the event that reports a milestone says: its type and the error facet are decided by the
outcome, its time is that of the host where it is in range, and the rest is the same for all
events of a run. -/
structure Reports (a : Agent) (run : RunId) (m : Milestone) (e : Event) : Prop where
  start_iff : e.type = .start ↔ m.outcome = none
  complete_iff : e.type = .complete ↔ m.outcome = some .succeeded
  fail_iff : e.type = .fail ↔ ∃ outcome, m.outcome = some outcome ∧ outcome ≠ .succeeded
  time : e.time = (Instant.ofMillis? m.millis).getD m.now
  producer : e.producer = Provenance.producer
  job : e.job = a.job
  run : e.run.id = run
  parent : e.run.facets.parent = a.parent
  additional : ∀ key data, (key, data) ∈ e.run.facets.additional.entries ↔
    ∃ exception, m.outcome = some (.failed (some exception)) ∧
      key = "spark.exception" ∧ data = .of (ErrorFacet.of exception).toJson

lemma reports_report (a : Agent) (x : Execution) (m : Milestone) :
    Reports a x.run m (m.report a x) where
  start_iff := by
    rcases m with ⟨_, _, _ | _ | _ | _⟩ <;>
      simp [Milestone.report, Event.build, Milestone.type, Outcome.eventType]
  complete_iff := by
    rcases m with ⟨_, _, _ | _ | _ | _⟩ <;>
      simp [Milestone.report, Event.build, Milestone.type, Outcome.eventType]
  fail_iff := by
    rcases m with ⟨_, _, _ | _ | _ | _⟩ <;>
      simp [Milestone.report, Event.build, Milestone.type, Outcome.eventType]
  time := rfl
  producer := rfl
  job := rfl
  run := rfl
  parent := by
    rcases m with ⟨_, _, _ | _ | (_ | _) | _⟩ <;> rfl
  additional key data := by
    rcases m with ⟨_, _, _ | _ | (_ | exception) | _⟩
    case some.failed.some =>
      have hentries : (facets a (some (.of exception))).additional.entries =
          [("spark.exception", .of (ErrorFacet.of exception).toJson)] := rfl
      simp [Milestone.report, Event.build, Outcome.error?, hentries]
    all_goals
      have hentries : (facets a none).additional.entries = [] := rfl
      simp [Milestone.report, Event.build, Outcome.error?, hentries]

lemma phase_after (h : x.phase ≠ .created) (cs : List Call) :
    (x.after a cs).phase ≠ .created := by
  induction cs generalizing x with
  | nil => exact h
  | cons c cs ih => exact ih (x.phase_call a c)

/-- An execution is new as long as nothing has been called. -/
lemma phase_after_new_iff (job : JobId) (run : RunId) (cs : List Call) :
    ((new job run).after a cs).phase = .created ↔ cs = [] := by
  constructor
  · intro h
    cases cs with
    | nil => rfl
    | cons c cs => exact absurd h (phase_after (phase_call _ a c) cs)
  · rintro rfl
    rfl

/-- Once an execution is no longer new its datasets stay as they are. -/
lemma datasets_after (h : x.phase ≠ .created) (cs : List Call) :
    (x.after a cs).inputs = x.inputs ∧ (x.after a cs).outputs = x.outputs := by
  induction cs generalizing x with
  | nil => exact ⟨rfl, rfl⟩
  | cons c cs ih =>
      have hkeep : (x.call a c).execution.inputs = x.inputs ∧
          (x.call a c).execution.outputs = x.outputs := by
        rcases x.call_cases a c with ⟨hc, -⟩ | ⟨-, -, hx⟩ | ⟨_, _, -, -, hx⟩
        · exact absurd hc h
        · rw [hx]
          exact ⟨rfl, rfl⟩
        · rw [hx]
          exact ⟨rfl, rfl⟩
      obtain ⟨hinputs, houtputs⟩ := ih (x.phase_call a c)
      exact ⟨hinputs.trans hkeep.1, houtputs.trans hkeep.2⟩

lemma datasets_after_new (job : JobId) (run : RunId) (cs : List Call) :
    ((new job run).after a cs).inputs = (frozen a cs).1 ∧
      ((new job run).after a cs).outputs = (frozen a cs).2 := by
  cases cs with
  | nil => exact ⟨rfl, rfl⟩
  | cons c cs =>
      obtain ⟨hinputs, houtputs⟩ := datasets_after (a := a) (phase_call (new job run) a c) cs
      rw [after, hinputs, houtputs]
      cases c <;> exact ⟨rfl, rfl⟩

/-- **A job is bound once.**  After any history, binding succeeds if and only if nothing has been
called before; in every other case it is refused and the execution stays as it is, no
configuration is loaded and no event is emitted.  So the datasets of an execution, and those of all
its events, are the ones that the first call has found. -/
theorem bind_once (a : Agent) (job : JobId) (run : RunId) (calls : List Call) :
    (∀ (j : JobGraph) (before : List j.graph.Vertex),
      (((new job run).after a calls).bind a j before).result = .ok () ↔ calls = []) ∧
    (calls ≠ [] → ∀ (j : JobGraph) (before : List j.graph.Vertex),
      (((new job run).after a calls).bind a j before).result = .error .alreadyBound ∧
      (((new job run).after a calls).bind a j before).execution = (new job run).after a calls ∧
      (((new job run).after a calls).bind a j before).loads = [] ∧
      (new job run).events a (calls ++ [.bind j before]) = (new job run).events a calls) ∧
    (((new job run).after a calls).inputs = (frozen a calls).1 ∧
      ((new job run).after a calls).outputs = (frozen a calls).2) ∧
    ∀ e ∈ (new job run).events a calls,
      e.inputs = (frozen a calls).1 ∧ e.outputs = (frozen a calls).2 := by
  refine ⟨fun j before => ?_, fun hne j before => ?_, datasets_after_new job run calls, ?_⟩
  · rw [← phase_after_new_iff (a := a) job run calls]
    constructor
    · intro hok
      by_contra hne
      rw [bind_of_ne_created hne] at hok
      cases hok
    · intro hc
      simp only [bind, hc]
  · have hphase : ((new job run).after a calls).phase ≠ .created :=
      fun hc => hne ((phase_after_new_iff job run calls).1 hc)
    rw [bind_of_ne_created hphase, events_append]
    exact ⟨rfl, rfl, rfl, List.append_nil _⟩
  · intro e he
    rw [events_new] at he
    obtain ⟨m, -, rfl⟩ := List.mem_map.1 he
    exact ⟨rfl, rfl⟩

end Execution

end Provenance
