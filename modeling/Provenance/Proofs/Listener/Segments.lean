import Mathlib.Data.List.Nodup
import Provenance.Listener
import Provenance.Proofs.Execution.Steady

/-!
# What the listener does for one job

The host tells one listener about all its jobs, in any interleaving.  For each job the listener
behaves as if it were alone with it, and as if every piece of its life were a life of its own.

A job's notifications are cut behind each end (`segments`): the listener gives up the execution of
a job at its end, so what follows begins a new one.  The run of a segment is the one that is drawn
at its first notification.  `Separated` says what becomes of a job: its events are those that new
executions emit, each of which hears one segment and nothing else; the events of a segment belong
to its run, and no two segments share a run.

The comparison (`entriesOf_emissions`) runs through the whole list of notifications and is stated
from an arbitrary listener on: an execution that is in flight goes on with the first segment, and
every later segment begins a new one.  The runs that the listener draws (`entriesOf_draws`) are
compared with the segments in the same way.
-/

namespace Provenance

namespace Listener

/-! ## Histories -/

/-- A notification of the host, with the run that is drawn for the job if it is not in flight. -/
structure Notification where
  job : JobId
  call : Execution.Call
  run : RunId

/-- What the listener does with a notification. -/
def hear (l : Listener) (n : Notification) : Reaction :=
  match n.call with
  | .bind j before => (l.finalNodeBound n.job j before n.run).1
  | .start millis now => l.jobStarted n.job millis n.run now
  | .finish millis outcome now => l.jobEnded n.job millis outcome n.run now

/-- The events that are emitted in a history, each with the job whose notification emits it. -/
def emissions (l : Listener) : List Notification → List (JobId × Event)
  | [] => []
  | n :: ns => (l.hear n).event.toList.map (n.job, ·) ++ (l.hear n).listener.emissions ns

/-- The runs that are drawn in a history, each with its job. -/
def draws (l : Listener) : List Notification → List (JobId × RunId)
  | [] => []
  | n :: ns =>
    (if l.isTracking n.job then [] else [(n.job, n.run)]) ++ (l.hear n).listener.draws ns

/-- The entries of one job in a log. -/
def entriesOf {α : Type} (job : JobId) (log : List (JobId × α)) : List α :=
  (log.filter (·.1 = job)).map Prod.snd

/-- The notifications about one job. -/
def about (job : JobId) (ns : List Notification) : List Notification :=
  ns.filter (·.job = job)

lemma about_cons_self (n : Notification) (ns : List Notification) :
    about n.job (n :: ns) = n :: about n.job ns := by
  simp [about]

lemma about_cons_of_ne {n : Notification} {job : JobId} (h : n.job ≠ job)
    (ns : List Notification) : about job (n :: ns) = about job ns := by
  simp [about, h]

lemma mem_of_mem_about {job : JobId} {ns : List Notification} {n : Notification}
    (h : n ∈ about job ns) : n ∈ ns :=
  List.mem_of_mem_filter h

/-! ## Segments -/

/-- A piece of a job's life: the run that is drawn for it, and what the host calls. -/
structure Segment where
  run : RunId
  calls : List Execution.Call

/-- The notifications about a job, cut behind each end: a notification that is not an end belongs
to the segment of the next one. -/
def segments : List Notification → List Segment
  | [] => []
  | n :: ns =>
    if n.call.isFinish then ⟨n.run, [n.call]⟩ :: segments ns
    else ⟨n.run, n.call :: (segments ns).head?.elim [] Segment.calls⟩ :: (segments ns).tail

/-- What a new execution emits that hears a segment. -/
def Segment.emitted (s : Segment) (a : Agent) (job : JobId) : List Event :=
  (Execution.new job s.run).events a s.calls

/-- What a new execution emits that hears a segment and nothing else, so that no configuration has
been loaded before. -/
def Segment.events (s : Segment) (a : Agent) (job : JobId) : List Event :=
  (Execution.new job s.run).events a (s.calls.map Execution.Call.unloaded)

lemma segments_cons_of_finish {n : Notification} (h : n.call.isFinish = true)
    (ns : List Notification) : segments (n :: ns) = ⟨n.run, [n.call]⟩ :: segments ns := by
  rw [segments, if_pos h]

lemma segments_cons_of_not_finish {n : Notification} (h : ¬n.call.isFinish = true)
    (ns : List Notification) : segments (n :: ns) =
      ⟨n.run, n.call :: (segments ns).head?.elim [] Segment.calls⟩ :: (segments ns).tail := by
  rw [segments, if_neg h]

/-- Nothing is lost when the notifications are cut. -/
lemma flatMap_calls_segments (ns : List Notification) :
    (segments ns).flatMap Segment.calls = ns.map Notification.call := by
  induction ns with
  | nil => rfl
  | cons n ns ih =>
      by_cases h : n.call.isFinish = true
      · rw [segments_cons_of_finish h, List.flatMap_cons, ih]
        rfl
      · rw [segments_cons_of_not_finish h, List.flatMap_cons, List.map_cons, ← ih]
        cases segments ns <;> simp

/-! ## The executions in flight -/

variable {l : Listener} {job other : JobId}

lemma find?_release (l : Listener) (job other : JobId) :
    (l.release job).find? other = if other = job then none else l.find? other := by
  unfold release find?
  rw [List.find?_filter]
  by_cases h : other = job
  · rw [if_pos h, List.find?_eq_none]
    intro x _
    simp [h]
  · rw [if_neg h]
    congr 1
    funext x
    by_cases hx : x.job = other <;> simp [hx, h]

lemma find?_track (l : Listener) (x : Execution) (other : JobId) :
    (l.track x).find? other = if other = x.job then some x else l.find? other := by
  by_cases h : other = x.job
  · subst h
    rw [if_pos rfl]
    simp [track, find?]
  · have hrelease := l.find?_release x.job other
    rw [if_neg h] at hrelease ⊢
    rw [← hrelease]
    simp [track, find?, Ne.symm h]

lemma job_executionOf (l : Listener) (job : JobId) (run : RunId) :
    (l.executionOf job run).job = job := by
  unfold executionOf
  cases h : l.find? job with
  | none => rfl
  | some x => simpa using List.find?_some h

/-- What the execution of a job makes of a notification about the job. -/
def response (l : Listener) (n : Notification) : Execution.Step :=
  (l.executionOf n.job n.run).call l.agent n.call

lemma event_hear (l : Listener) (n : Notification) : (l.hear n).event = (l.response n).event := by
  unfold hear response
  cases n.call <;> rfl

lemma agent_hear (l : Listener) (n : Notification) : (l.hear n).listener.agent = l.agent := by
  unfold hear
  cases n.call <;> rfl

lemma listener_hear (l : Listener) (n : Notification) :
    (l.hear n).listener =
      if n.call.isFinish then l.release n.job else l.track (l.response n).execution := by
  unfold hear response
  cases n.call <;> rfl

/-- A notification puts the execution of its job in the state that the call leads to, or gives it
up at the end; the executions of other jobs stay as they are. -/
lemma find?_hear (l : Listener) (n : Notification) (other : JobId) :
    (l.hear n).listener.find? other =
      if other ≠ n.job then l.find? other
      else if n.call.isFinish then none
      else some (l.response n).execution := by
  have hjob : (l.response n).execution.job = n.job :=
    (Execution.job_call _ _ _).trans (l.job_executionOf n.job n.run)
  rw [listener_hear]
  by_cases hfinish : n.call.isFinish = true
  · simp only [hfinish, if_true, find?_release]
    by_cases h : other = n.job <;> simp [h]
  · rw [if_neg hfinish, if_neg hfinish, find?_track, hjob]
    by_cases h : other = n.job <;> simp [h]

/-! ## The comparison -/

@[simp] lemma entriesOf_append {α : Type} (job : JobId) (log log' : List (JobId × α)) :
    entriesOf job (log ++ log') = entriesOf job log ++ entriesOf job log' := by
  simp [entriesOf]

lemma entriesOf_map {α : Type} (job other : JobId) (as : List α) :
    entriesOf job (as.map (other, ·)) = if other = job then as else [] := by
  by_cases h : other = job <;> simp [entriesOf, List.filter_map, Function.comp_def, h]

/-- What is emitted in the segments to come: an execution in flight goes on with the first of them,
and every other one begins a new execution. -/
def resume (a : Agent) (job : JobId) (x : Option Execution) (ss : List Segment) : List Event :=
  match x with
  | none => ss.flatMap (·.emitted a job)
  | some x => x.events a (ss.head?.elim [] Segment.calls) ++ ss.tail.flatMap (·.emitted a job)

lemma resume_cons (l : Listener) (job : JobId) (run : RunId) (cs : List Execution.Call)
    (ss : List Segment) : resume l.agent job (l.find? job) (⟨run, cs⟩ :: ss) =
      (l.executionOf job run).events l.agent cs ++ ss.flatMap (·.emitted l.agent job) := by
  unfold executionOf
  cases l.find? job <;> rfl

/-- **The listener works segment by segment.** -/
lemma entriesOf_emissions (l : Listener) (job : JobId) (ns : List Notification) :
    entriesOf job (l.emissions ns) =
      resume l.agent job (l.find? job) (segments (about job ns)) := by
  induction ns generalizing l with
  | nil => cases l.find? job <;> rfl
  | cons n ns ih =>
      rw [emissions, entriesOf_append, entriesOf_map, event_hear, ih, agent_hear, find?_hear]
      by_cases hjob : n.job = job
      · subst hjob
        rw [about_cons_self, if_pos rfl, if_neg (not_not_intro rfl)]
        by_cases hfinish : n.call.isFinish = true
        · rw [if_pos hfinish, segments_cons_of_finish hfinish, resume_cons, Execution.events,
            Execution.events, List.append_nil]
          rfl
        · rw [if_neg hfinish, segments_cons_of_not_finish hfinish, resume_cons, Execution.events,
            List.append_assoc]
          rfl
      · rw [about_cons_of_ne hjob, if_neg hjob, if_pos (Ne.symm hjob), List.nil_append]

lemma entriesOf_draw (job other : JobId) (run : RunId) (tracked : Bool) :
    entriesOf job (if tracked then [] else [(other, run)]) =
      if other = job then (if tracked then [] else [run]) else [] := by
  cases tracked with
  | true => simp [entriesOf]
  | false => simpa using entriesOf_map job other [run]

/-- The runs that are drawn for a job are those of its segments, but for the segment in which an
execution in flight goes on. -/
lemma entriesOf_draws (l : Listener) (job : JobId) (ns : List Notification) :
    entriesOf job (l.draws ns) =
      if l.isTracking job then ((segments (about job ns)).map Segment.run).tail
      else (segments (about job ns)).map Segment.run := by
  induction ns generalizing l with
  | nil => cases l.isTracking job <;> rfl
  | cons n ns ih =>
      rw [draws, entriesOf_append, entriesOf_draw, ih]
      unfold isTracking
      rw [find?_hear]
      by_cases hjob : n.job = job
      · subst hjob
        rw [about_cons_self, if_pos rfl, if_neg (not_not_intro rfl)]
        by_cases hfinish : n.call.isFinish = true
        · rw [if_pos hfinish, segments_cons_of_finish hfinish]
          cases (l.find? n.job).isSome <;> simp
        · rw [if_neg hfinish, segments_cons_of_not_finish hfinish]
          cases (l.find? n.job).isSome <;> simp
      · rw [about_cons_of_ne hjob, if_neg hjob, if_pos (Ne.symm hjob), List.nil_append]

/-! ## Separation -/

/-- What the listener does for one job among all others. -/
structure Separated (a : Agent) (ns : List Notification) (job : JobId) : Prop where
  /-- The events of the job are those of its segments, each heard by a new execution. -/
  events : entriesOf job ((new a).emissions ns) =
    (segments (about job ns)).flatMap (·.events a job)
  /-- The events of a segment belong to its run. -/
  one_run : ∀ s ∈ segments (about job ns), ∀ e ∈ s.events a job, e.run.id = s.run
  /-- No two segments of the job share a run. -/
  runs_nodup : ((segments (about job ns)).map Segment.run).Nodup
  /-- No segment shares a run with one of another job. -/
  runs_disjoint : ∀ other, other ≠ job →
    ((segments (about job ns)).map Segment.run).Disjoint
      ((segments (about other ns)).map Segment.run)
  /-- The events are the same without the notifications about other jobs. -/
  undisturbed : entriesOf job ((new a).emissions ns) =
    entriesOf job ((new a).emissions (about job ns))

lemma nodup_entriesOf {α : Type} {log : List (JobId × α)} (h : (log.map Prod.snd).Nodup)
    (job : JobId) : (entriesOf job log).Nodup :=
  h.sublist (List.filter_sublist.map Prod.snd)

lemma disjoint_entriesOf {α : Type} {log : List (JobId × α)} (h : (log.map Prod.snd).Nodup)
    {job other : JobId} (hne : other ≠ job) :
    (entriesOf job log).Disjoint (entriesOf other log) := by
  intro v hjob hother
  obtain ⟨e, he, rfl⟩ := List.mem_map.1 hjob
  obtain ⟨e', he', heq⟩ := List.mem_map.1 hother
  obtain ⟨hmem, hof⟩ := List.mem_filter.1 he
  obtain ⟨hmem', hof'⟩ := List.mem_filter.1 he'
  have hsame : e' = e := List.inj_on_of_nodup_map h hmem' hmem heq
  have hjobs : e.1 = job := by simpa using hof
  have hothers : e.1 = other := by simpa [hsame] using hof'
  exact hne (hothers.symm.trans hjobs)

lemma isSteady_of_mem_segments {ns : List Notification} (h : ∀ n ∈ ns, n.call.IsSteady)
    {s : Segment} (hs : s ∈ segments ns) : ∀ c ∈ s.calls, c.IsSteady := by
  intro c hc
  have hmem : c ∈ ns.map Notification.call := by
    rw [← flatMap_calls_segments]
    exact List.mem_flatMap.2 ⟨s, hs, hc⟩
  obtain ⟨n, hn, rfl⟩ := List.mem_map.1 hmem
  exact h n hn

lemma entriesOf_emissions_new (a : Agent) (job : JobId) {ns : List Notification}
    (h : ∀ n ∈ ns, n.call.IsSteady) : entriesOf job ((new a).emissions ns) =
      (segments (about job ns)).flatMap (·.events a job) := by
  have hsteady : ∀ n ∈ about job ns, n.call.IsSteady :=
    fun n hn => h n (mem_of_mem_about hn)
  rw [entriesOf_emissions]
  change (segments (about job ns)).flatMap (·.emitted a job) = _
  refine List.flatMap_congr fun s hs => ?_
  exact (Execution.events_map_unloaded _ (isSteady_of_mem_segments hsteady hs)).symm

lemma entriesOf_draws_new (a : Agent) (job : JobId) (ns : List Notification) :
    entriesOf job ((new a).draws ns) = (segments (about job ns)).map Segment.run :=
  entriesOf_draws (new a) job ns

/-- **The listener keeps jobs apart.**  In every history of notifications about any jobs, in any
interleaving and any order, the listener does for each job what new executions do that hear one
segment of the job each, provided that the configuration sources are steady and that no run is
drawn twice. -/
theorem separated (a : Agent) (ns : List Notification) (hsteady : ∀ n ∈ ns, n.call.IsSteady)
    (hfresh : (((new a).draws ns).map Prod.snd).Nodup) (job : JobId) : Separated a ns job where
  events := entriesOf_emissions_new a job hsteady
  one_run s _ e he := Execution.run_id_of_mem_events he
  runs_nodup := by
    rw [← entriesOf_draws_new a job ns]
    exact nodup_entriesOf hfresh job
  runs_disjoint other hne := by
    rw [← entriesOf_draws_new a job ns, ← entriesOf_draws_new a other ns]
    exact disjoint_entriesOf hfresh hne
  undisturbed := by
    have hsame : about job (about job ns) = about job ns := by simp [about]
    rw [entriesOf_emissions_new a job hsteady,
      entriesOf_emissions_new a job fun n hn => hsteady n (mem_of_mem_about hn), hsame]

/-- A job of a single node that reads a fixed directory. -/
def readingJob : JobGraph where
  graph := Graph.empty.add
    ⟨"read", "HadoopRDD", some ⟨.legacy, .ofConfiguration
      (Configuration.empty.set Configuration.legacyInputKey "file:///in")⟩, []⟩ (by simp)
  root := ⟨0, by decide⟩

/-- Two jobs in flight at once, the first of which comes back after its end. -/
def twoJobs : List Notification := [
  ⟨⟨1⟩, .bind readingJob [], ⟨11⟩⟩,
  ⟨⟨2⟩, .bind readingJob [readingJob.root], ⟨12⟩⟩,
  ⟨⟨1⟩, .start 10 ⟨0, 0⟩, ⟨13⟩⟩,
  ⟨⟨1⟩, .finish 20 .succeeded ⟨0, 0⟩, ⟨14⟩⟩,
  ⟨⟨2⟩, .finish 30 (.failed none) ⟨0, 0⟩, ⟨15⟩⟩,
  ⟨⟨1⟩, .finish 40 .cancelled ⟨0, 0⟩, ⟨16⟩⟩]

lemma isSteady_readingJob : readingJob.graph.IsSteady := by
  intro v b hb
  obtain ⟨i, hi⟩ := v
  obtain rfl : i = 0 := by simpa [readingJob, Graph.add, Graph.empty] using hi
  obtain rfl := Option.some.inj hb
  exact Configuration.Source.isSteady_ofConfiguration _

/-- An agent with standard settings. -/
def standardAgent : Agent :=
  ⟨.standard ⟨0⟩, ⟨⟨"file", none, "/"⟩⟩, .standard⟩

theorem separated_twoJobs :
    (∀ n ∈ twoJobs, n.call.IsSteady) ∧
      (((new standardAgent).draws twoJobs).map Prod.snd).Nodup ∧
      Separated standardAgent twoJobs ⟨1⟩ := by
  have hsteady : ∀ n ∈ twoJobs, n.call.IsSteady := by
    simp [twoJobs, Execution.Call.IsSteady, isSteady_readingJob]
  have hfresh : (((new standardAgent).draws twoJobs).map Prod.snd).Nodup := by
    decide
  exact ⟨hsteady, hfresh, separated standardAgent twoJobs hsteady hfresh ⟨1⟩⟩

end Listener

end Provenance
