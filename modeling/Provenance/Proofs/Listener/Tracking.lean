import Mathlib.Data.Set.Card
import Provenance.Proofs.Listener.Segments

/-!
# Which jobs the listener tracks

A job is in flight from the first notification about it up to its end, and again from the next
notification on.  So the listener tracks a job if and only if it has heard of the job and the latest
notification about it is not an end (`IsOpen`), whatever the order in which the host calls.

The executions that are tracked have been bound or have started, and none of them is new or has
ended (`Execution.IsLive`): the notification that creates an execution already leads it out of its
first phase, and the one that ends it gives it up.

What a single notification does to the executions in flight is said by `find?_hear`; the statements
about histories follow from it by induction, from an arbitrary listener on.
-/

namespace Provenance

namespace Execution

/-- The execution is bound or has started, and it has not ended. -/
def IsLive (x : Execution) : Prop :=
  x.phase = .bound ∨ x.phase = .started

variable {x : Execution}

/-- A call other than an end leads a new execution into its life and leaves it there. -/
lemma isLive_call {c : Call} (a : Agent) (hx : x.phase = .created ∨ x.IsLive)
    (hc : c.isFinish = false) : (x.call a c).execution.IsLive := by
  cases c with
  | bind j before =>
      rcases hx with h | h | h <;> simp [IsLive, call, bind, h]
  | start millis now =>
      rcases hx with h | h | h <;> simp [IsLive, call, start, emit, h]
  | finish millis outcome now => cases hc

/-- Only an execution that is no longer new cannot be bound, and it stays as it is. -/
lemma of_bind_eq_error {a : Agent} {j : JobGraph} {before : List j.graph.Vertex} {e : BindError}
    (h : (x.bind a j before).result = .error e) :
    x.phase ≠ .created ∧ (x.bind a j before).execution = x := by
  have hphase : x.phase ≠ .created := by
    intro hcreated
    simp [bind, hcreated] at h
  exact ⟨hphase, by rw [bind_of_ne_created hphase]⟩

end Execution

namespace Listener

variable {l : Listener} {job : JobId}

/-! ## Executions and their jobs -/

lemma job_of_find? {x : Execution} (h : l.find? job = some x) : x.job = job := by
  simpa using List.find?_some h

lemma nodup_jobs (l : Listener) : (l.executions.map (·.job)).Nodup :=
  List.pairwise_map.2 l.distinct

/-- An execution is found under its own job. -/
lemma find?_of_mem {x : Execution} (hx : x ∈ l.executions) : l.find? x.job = some x := by
  cases h : l.find? x.job with
  | none => simpa using List.find?_eq_none.1 h x hx
  | some y =>
      have hy : y ∈ l.executions := List.mem_of_find?_eq_some h
      rw [List.inj_on_of_nodup_map l.nodup_jobs hy hx (job_of_find? h)]

lemma isTracking_iff_mem : l.isTracking job = true ↔ job ∈ l.executions.map (·.job) := by
  simp [isTracking, find?, List.find?_isSome]

/-- No job is counted twice. -/
lemma encard_isTracking (l : Listener) :
    {job | l.isTracking job = true}.encard = l.activeJobs := by
  have hjobs : {job | l.isTracking job = true} =
      ((l.executions.map (·.job)).toFinset : Set JobId) := by
    ext job
    simp [isTracking_iff_mem]
  rw [hjobs, Set.encard_coe_eq_coe_finsetCard, List.toFinset_card_of_nodup l.nodup_jobs,
    List.length_map]
  rfl

/-! ## Histories -/

/-- The listener after a history. -/
def after (l : Listener) (ns : List Notification) : Listener :=
  ns.foldl (fun l n => (l.hear n).listener) l

/-- The host has told of the job, and the latest that it has told is not an end. -/
def IsOpen (ns : List Notification) (job : JobId) : Prop :=
  ∃ n, (about job ns).getLast? = some n ∧ n.call.isFinish = false

/-- A job is tracked behind a notification about it unless it is an end. -/
lemma isTracking_hear (l : Listener) (n : Notification) (job : JobId) :
    (l.hear n).listener.isTracking job =
      if n.job = job then !n.call.isFinish else l.isTracking job := by
  unfold isTracking
  rw [find?_hear]
  by_cases hjob : n.job = job
  · subst hjob
    cases n.call.isFinish <;> simp
  · simp [hjob, Ne.symm hjob]

/-- **The latest notification decides.**  A job about which nothing is told stays as it is. -/
lemma isTracking_after (l : Listener) (ns : List Notification) (job : JobId) :
    (l.after ns).isTracking job =
      (about job ns).getLast?.elim (l.isTracking job) fun n => !n.call.isFinish := by
  induction ns generalizing l with
  | nil => rfl
  | cons n ns ih =>
      show ((l.hear n).listener.after ns).isTracking job = _
      rw [ih, isTracking_hear]
      by_cases hjob : n.job = job
      · subst hjob
        rw [about_cons_self, List.getLast?_cons, if_pos rfl]
        cases (about n.job ns).getLast? <;> rfl
      · rw [about_cons_of_ne hjob, if_neg hjob]

lemma isTracking_after_new (a : Agent) (ns : List Notification) (job : JobId) :
    ((new a).after ns).isTracking job = true ↔ IsOpen ns job := by
  rw [isTracking_after]
  unfold IsOpen
  cases (about job ns).getLast? <;> simp [isTracking, find?, new]

lemma isLive_hear {n : Notification} (hl : ∀ job x, l.find? job = some x → x.IsLive) :
    ∀ job x, (l.hear n).listener.find? job = some x → x.IsLive := by
  intro job x hx
  rw [find?_hear] at hx
  split at hx
  · exact hl job x hx
  · split at hx
    · cases hx
    · rename_i hfinish
      rw [← Option.some.inj hx]
      refine Execution.isLive_call l.agent ?_ (by simpa using hfinish)
      -- the job of the notification has a new execution unless one is in flight
      unfold executionOf
      cases hfind : l.find? n.job with
      | none => exact .inl rfl
      | some y => exact .inr (hl n.job y hfind)

/-- **Executions in flight are bound or have started.** -/
lemma isLive_after {ns : List Notification} (hl : ∀ job x, l.find? job = some x → x.IsLive) :
    ∀ job x, (l.after ns).find? job = some x → x.IsLive := by
  induction ns generalizing l with
  | nil => exact hl
  | cons n ns ih => exact ih (isLive_hear hl)

/-- A job whose binding fails was in flight before, and its execution stays as it was. -/
lemma find?_finalNodeBound_of_error {j : JobGraph} {before : List j.graph.Vertex} {run : RunId}
    {e : Execution.BindError}
    (h : ((l.executionOf job run).bind l.agent j before).result = .error e) :
    l.isTracking job = true ∧
      (l.finalNodeBound job j before run).1.listener.find? job = l.find? job := by
  obtain ⟨hphase, hsame⟩ := Execution.of_bind_eq_error h
  have hfind : l.find? job = some (l.executionOf job run) := by
    unfold executionOf at hphase ⊢
    cases hfind : l.find? job with
    | none =>
        rw [hfind] at hphase
        exact absurd rfl hphase
    | some x => rfl
  refine ⟨by rw [isTracking, hfind]; rfl, ?_⟩
  show (l.track _).find? job = l.find? job
  rw [find?_track, hsame, job_executionOf, if_pos rfl, hfind]

/-! ## Tracking -/

/-- What the listener tracks after a history. -/
structure Tracks (a : Agent) (ns : List Notification) : Prop where
  /-- A job is tracked if and only if the host has told of it and has not told of its end last. -/
  isTracking_iff : ∀ job, ((new a).after ns).isTracking job = true ↔ IsOpen ns job
  /-- The number of active jobs is the number of these jobs. -/
  activeJobs_eq : {job | IsOpen ns job}.encard = ((new a).after ns).activeJobs
  /-- What is tracked under a job is the execution of this job, bound or started. -/
  isLive : ∀ job x, ((new a).after ns).find? job = some x → x.job = job ∧ x.IsLive
  /-- Every execution is tracked under its own job. -/
  find?_of_mem : ∀ x ∈ ((new a).after ns).executions, ((new a).after ns).find? x.job = some x
  /-- A notification is answered by the execution of its job, which is then tracked under this job
  unless the notification is an end. -/
  find?_self : ∀ n : Notification, (((new a).after ns).response n).execution.job = n.job ∧
    (((new a).after ns).hear n).listener.find? n.job =
      if n.call.isFinish then none else some (((new a).after ns).response n).execution
  /-- A notification about one job changes the execution of no other. -/
  find?_of_ne : ∀ (n : Notification) (other : JobId), other ≠ n.job →
    (((new a).after ns).hear n).listener.find? other = ((new a).after ns).find? other
  /-- A job whose binding fails keeps the execution that it had. -/
  find?_of_bind_error : ∀ (job : JobId) (j : JobGraph) (before : List j.graph.Vertex)
    (run : RunId) (e : Execution.BindError),
    ((((new a).after ns).executionOf job run).bind ((new a).after ns).agent j before).result =
      .error e →
    ((new a).after ns).isTracking job = true ∧
      (((new a).after ns).finalNodeBound job j before run).1.listener.find? job =
        ((new a).after ns).find? job

/-- **The listener tracks the open jobs.**  After every history of notifications about any jobs in
any order, exactly the jobs are tracked whose latest notification is not an end, each with its own
execution, which is bound or started; and no notification touches the execution of another job. -/
theorem tracks (a : Agent) (ns : List Notification) : Tracks a ns where
  isTracking_iff := isTracking_after_new a ns
  activeJobs_eq := by
    rw [← encard_isTracking]
    congr 1
    ext job
    exact (isTracking_after_new a ns job).symm
  isLive job x hx := ⟨job_of_find? hx, isLive_after (l := new a) nofun job x hx⟩
  find?_of_mem _ hx := Listener.find?_of_mem hx
  find?_self n := by
    refine ⟨(Execution.job_call _ _ _).trans (job_executionOf _ n.job n.run), ?_⟩
    rw [find?_hear, if_neg (not_not_intro rfl)]
  find?_of_ne n other hother := by
    rw [find?_hear, if_pos hother]
  find?_of_bind_error _ _ _ _ _ h := find?_finalNodeBound_of_error h

end Listener

end Provenance
