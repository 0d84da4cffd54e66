import Provenance.Proofs.Delivery.Lines
import Provenance.Proofs.Delivery.Turns
import Provenance.Proofs.Facet.Reader
import Provenance.Proofs.Listener.Segments
import Provenance.Proofs.Plan.Loading
import Provenance.Proofs.Plan.Verdict
import Provenance.Proofs.Settings.Sources

/-!
# Replaying a plan

A replay needs a plan and settings that can be loaded (`Loads`).  Without them it says so and writes
nothing.  With them nothing can go wrong any more but writing itself: an agent can be made of the
settings, the listener hears of one job three times and emits two events about it (`Replayed`), and
the queue of the channel has room for both, however the turns of its task fall between them.
-/

namespace Provenance.CommandLine

open Delivery

variable {s : Surroundings}

/-! ## What a replay needs -/

/-- The file of the plan is read and spells a plan that describes a job, and there are settings. -/
structure Loads (s : Surroundings) (plan : String) (config : Option String) (p : Plan)
    (j : JobGraph) (settings : Settings) : Prop where
  plan : ∃ text, s.host.read plan = .ok text ∧ Plan.read? text = some p
  job : p.build = .ok j
  settings : Settings.load (.standard s.parent) s.host config = .ok settings

/-- The settings under another name of the application, if there is one. -/
def named (settings : Settings) (name : Option String) : Settings :=
  { settings with appName := name.or settings.appName }

/-- **A replay that cannot begin** writes nothing. -/
lemma replay_of_not_loads {plan : String} {config : Option String}
    (h : ¬∃ p j settings, Loads s plan config p j settings) (appName fail : Option String)
    (job : UInt64) :
    (replay s plan config appName fail job).code = 1 ∧
      (replay s plan config appName fail job).output = [] := by
  unfold replay
  split
  · exact ⟨rfl, rfl⟩
  · rename_i p j hplan
    split
    · exact ⟨rfl, rfl⟩
    · rename_i settings hsettings
      obtain ⟨hp, hj⟩ := Plan.load_eq_ok_iff.1 hplan
      exact absurd ⟨p, j, settings, hp, hj, hsettings⟩ h

lemma replay_of_loads {plan : String} {config : Option String} {p : Plan} {j : JobGraph}
    {settings : Settings} {a : Agent} (h : Loads s plan config p j settings)
    {appName : Option String}
    (ha : Agent.create (named settings (appName.or p.appName)) .standard = .ok a)
    (fail : Option String) (job : UInt64) :
    replay s plan config appName fail job =
      deliver s ((reactions s a j fail ⟨job⟩).filterMap (·.event))
        ((reactions s a j fail ⟨job⟩).flatMap fun r => r.warnings.map (·.notice)) := by
  have hplan : Plan.load s.host plan = .ok (p, j) := Plan.load_eq_ok_iff.2 ⟨h.plan, h.job⟩
  simp only [replay, hplan, h.settings]
  generalize appName.or p.appName = name at ha
  cases name with
  | none =>
      have hagent : Agent.create settings .standard = .ok a := ha
      simp only [hagent]
  | some name =>
      have hagent : Agent.create (settings.withAppName name) .standard = .ok a := ha
      simp only [hagent]

/-! ## The events of a replay -/

section Events

variable (s) (a : Agent) (j : JobGraph) (fail : Option String) (job : JobId)

/-- What the host calls about the job. -/
def calls : List Execution.Call :=
  [.bind j [], .start s.startMillis s.now, .finish s.endMillis (outcomeOf fail) s.now]

/-- What the listener hears. -/
def notifications : List Listener.Notification :=
  (calls s j fail).map (⟨job, ·, s.run⟩)

/-- The execution of the job, with the datasets that binding has found. -/
def bound : Execution :=
  ((Execution.new job s.run).bind a j []).execution

/-- A replay emits what the execution emits that hears the calls. -/
lemma filterMap_event_reactions : (reactions s a j fail job).filterMap (·.event) =
    (Execution.new job s.run).events a (calls s j fail) := by
  have hsegment : Listener.segments (Listener.about job (notifications s j fail job)) =
      [⟨s.run, calls s j fail⟩] := by
    simp [notifications, calls, Listener.about, Listener.segments, Execution.Call.isFinish,
      Execution.Call.ended?]
  calc (reactions s a j fail job).filterMap (·.event)
      = Listener.entriesOf job ((Listener.new a).emissions (notifications s j fail job)) := by
        simp [reactions, notifications, calls, Listener.emissions, Listener.hear,
          Listener.entriesOf_map, List.filterMap_eq_flatMap_toList]
    _ = (Execution.new job s.run).events a (calls s j fail) := by
        rw [Listener.entriesOf_emissions, hsegment]
        exact List.append_nil _

end Events

/-- What the two events of a replay say. -/
structure Replayed (s : Surroundings) (a : Agent) (j : JobGraph) (fail : Option String)
    (job : JobId) (first last : Event) : Prop where
  /-- The job is new when it is bound. -/
  binds : ((Execution.new job s.run).bind a j []).result = .ok ()
  /-- The first one reports the start. -/
  start : first.type = .start ∧ first.run.facets = .of a.parent
  /-- The last one reports the end, with an error facet if the job is to fail. -/
  finish : match fail with
    | none => last.type = .complete ∧ last.run.facets = .of a.parent
    | some message => last.type = .fail ∧
        last.run.facets =
          (RunFacets.of a.parent).withError (.of ⟨"lineage.ReplayFailure", message, []⟩) ∧
        last.run.facets.error? = some (.of ⟨"lineage.ReplayFailure", message, []⟩)
  /-- Both belong to the same run of the same job under the same parent, about the datasets that
  binding has found. -/
  agree : ∀ e ∈ [first, last], e.run.id = s.run ∧ e.run.facets.parent = a.parent ∧ e.job = a.job ∧
    e.inputs = (bound s a j job).inputs ∧ e.outputs = (bound s a j job).outputs
  /-- Each of them is written on one line. -/
  one_line : ∀ e ∈ [first, last], '\n' ∉ e.toText.toList

/-- **A replay emits two events.** -/
lemma exists_events_replayed (s : Surroundings) (a : Agent) (j : JobGraph) (fail : Option String)
    (job : JobId) : ∃ first last, (reactions s a j fail job).filterMap (·.event) = [first, last] ∧
      Replayed s a j fail job first last := by
  rw [filterMap_event_reactions, Execution.events_new]
  refine ⟨_, _, rfl, rfl, ⟨rfl, rfl⟩, ?_, ?_, ?_⟩
  · cases fail with
    | none => exact ⟨rfl, rfl⟩
    | some message => exact ⟨rfl, rfl, RunFacets.error?_withError _ _⟩
  · intro e he
    obtain ⟨m, -, rfl⟩ : ∃ m ∈ Execution.milestones (calls s j fail),
        m.report a (Execution.settled job s.run a (calls s j fail)) = e := List.mem_map.1 he
    have hreports := Execution.reports_report a (Execution.settled job s.run a (calls s j fail)) m
    exact ⟨hreports.run, hreports.parent, hreports.job, rfl, rfl⟩
  · intro e _
    exact e.noControls_toText.newline_not_mem

/-! ## Delivery -/

/-- Events for which there is room are put into the queue. -/
lemma emitAll_eq {c : Channel} {es : List Event} (h : c.HasRoom es.length) :
    emitAll c es = ({ c with queue := c.queue ++ es }, []) := by
  induction es generalizing c with
  | nil =>
      rw [List.append_nil]
      rfl
  | cons e es ih =>
      simp only [emitAll, h.emit_eq, ih (h.push e), List.append_assoc]
      rfl

/-- **What is delivered is written**, if the queue has room for it and writing succeeds. -/
lemma deliver_eq {events : List Event} (hlength : events.length ≤ defaultCapacity)
    (hwrite : ∀ n < events.length, s.write n = .ok ()) (notices : List Notice) :
    deliver s events notices = ⟨0, events.map Event.toText, [], notices⟩ := by
  have hroom : (Channel.new defaultCapacity).HasRoom events.length :=
    (Channel.hasRoom_new defaultCapacity).mono hlength
  have hdrain : ({ Channel.new defaultCapacity with queue := events } : Channel).drain
      ⟨none, s.write, []⟩ =
        ({ Channel.new defaultCapacity with delivered := 0 + events.length },
          ⟨none, s.write, events⟩, []) :=
    Channel.deliver_of_accepting rfl rfl rfl (by simpa using hwrite) (Nat.le_add_right _ 2)
  have hwritten : ∀ x ∈ events.zipIdx, (s.write x.2).isOk = true := by
    rintro ⟨e, n⟩ he
    have hn : n < events.length := (List.mem_zipIdx' he).1
    show (s.write n).isOk = true
    rw [hwrite n hn]
    rfl
  have hqueue : ({ Channel.new defaultCapacity with
      queue := (Channel.new defaultCapacity).queue ++ events } : Channel) =
        { Channel.new defaultCapacity with queue := events } := rfl
  have hfailed : (Channel.new defaultCapacity).failed = 0 := rfl
  unfold deliver
  simp only [emitAll_eq hroom, hqueue, hdrain]
  rw [List.filter_eq_self.2 fun x hx => hwritten x hx, List.zipIdx_map_fst]
  simp [hfailed]

/-! ## End to end -/

/-- **A replay, end to end.**  It exits with one and writes nothing if the plan cannot be read,
parsed or built or if there are no settings.  Otherwise an agent can be made of the settings, which
reports the job under their namespace and the name of the application, under their parent, with bare
paths on their default filesystem; no event is dropped from the queue, in whatever order the events
are emitted and delivered; and if the standard output can be written to, the replay exits with zero
and writes two lines, one for the start of the job and one for its end. -/
theorem run_replay {args : List String} {plan : String} {config appName fail : Option String}
    {job : UInt64} (hargs : request? args = some (.replay plan config appName fail job)) :
    ((¬∃ p j settings, Loads s plan config p j settings) →
        (run s args).code = 1 ∧ (run s args).output = []) ∧
      ∀ p j settings, Loads s plan config p j settings → ∃ a : Agent,
        Agent.create (named settings (appName.or p.appName)) .standard = .ok a ∧
        a.job = ⟨settings.namespaceName,
          JobName.derive ((appName.or p.appName).or settings.appName)⟩ ∧
        a.parent = .of settings.parentRunId ⟨settings.namespaceName, settings.parentJobName⟩ ∧
        Location.parse settings.defaultFs = .ok a.resolver.defaultFs ∧
        ∃ first last, Replayed s a j fail ⟨job⟩ first last ∧
          (∀ turns, (∀ t ∈ turns, t ≠ .abort) → emitted turns = [first, last] →
            ((Channel.new defaultCapacity).after turns).dropped = 0) ∧
          ((∀ n < 2, s.write n = .ok ()) →
            (run s args).code = 0 ∧ (run s args).output = [first.toText, last.toText]) := by
  have hrun : run s args = replay s plan config appName fail job := by
    simp only [run, hargs]
  rw [hrun]
  refine ⟨fun h => replay_of_not_loads h appName fail job, fun p j settings h => ?_⟩
  obtain ⟨l, hl⟩ := Settings.exists_location_of_load h.settings
  have hdefault : Location.parse (named settings (appName.or p.appName)).defaultFs = .ok l := hl
  have ha := Agent.create_of_parse hdefault .standard
  refine ⟨_, ha, rfl, rfl, hl, ?_⟩
  obtain ⟨first, last, hevents, hreplayed⟩ := exists_events_replayed s
    ⟨named settings (appName.or p.appName), ⟨l⟩, .standard⟩ j fail ⟨job⟩
  have htwo : [first, last].length ≤ defaultCapacity := by
    show 2 ≤ 1024
    decide
  refine ⟨first, last, hreplayed, fun turns hturns hemitted => ?_, fun hwrite => ?_⟩
  · have hroom : (Channel.new defaultCapacity).HasRoom (emitted turns).length := by
      rw [hemitted]
      exact (Channel.hasRoom_new defaultCapacity).mono htwo
    exact Channel.dropped_after hroom hturns
  · rw [replay_of_loads h ha fail job, hevents, deliver_eq htwo hwrite]
    exact ⟨rfl, rfl⟩

/-- A plan on one line. -/
def salesText : String :=
  "\x7bapp_name: SalesETL, root: a, " ++
    "nodes: [\x7bid: a, binding: [legacy, \x7bmapred.input.dir: /in\x7d]\x7d]\x7d"

/-- What the text spells. -/
def salesPlan : Plan :=
  ⟨some "SalesETL", "a", [⟨"a", Plan.defaultOperation, [],
    some ⟨.legacy, Configuration.empty.set Configuration.legacyInputKey "/in"⟩⟩]⟩

/-- Surroundings with a host that has nothing but a plan, or not even that. -/
def salesSurroundings (present : Bool) : Surroundings where
  host := .observed (fun _ => none)
    fun path => if present ∧ path = "sales" then .ok salesText else .error .missing
  parent := ⟨0⟩
  run := ⟨1⟩
  startMillis := 0
  endMillis := 1
  now := ⟨0, 0⟩
  write := fun _ => .ok ()

/-- The arguments of a replay that is to fail. -/
def salesArguments : List String :=
  ["replay", "sales", "--fail", "disk full"]

lemma loads_sales : ∃ j, Loads (salesSurroundings true) "sales" none salesPlan j
    (.standard ⟨0⟩) := by
  have hread : Plan.read? salesText = some salesPlan := by decide +kernel
  have hclosed : salesPlan.Closed := by simp [Plan.Closed, salesPlan]
  have hlevels : ∀ item ∈ salesPlan.items, 0 < 1 → ∀ d ∈ item.dependencies, 0 < 1 ∧ 1 < 1 := by
    simp [salesPlan]
  obtain ⟨j, hj⟩ := Plan.exists_build_eq_ok_iff.2 ⟨by decide, hclosed, by decide,
    fun id => @Plan.not_onCycle_of_levels salesPlan (fun _ => 1) Nat.one_pos hlevels id⟩
  exact ⟨j, ⟨salesText, rfl, hread⟩, hj, rfl⟩

theorem run_replay_sales :
    request? salesArguments = some (.replay "sales" none none (some "disk full") 0) ∧
      (∃ (j : JobGraph) (a : Agent) (first last : Event),
        Loads (salesSurroundings true) "sales" none salesPlan j (.standard ⟨0⟩) ∧
        a.job = ⟨"default", "sales_etl"⟩ ∧ a.resolver.defaultFs = ⟨"file", none, "/"⟩ ∧
        Replayed (salesSurroundings true) a j (some "disk full") ⟨0⟩ first last ∧
        (run (salesSurroundings true) salesArguments).code = 0 ∧
        (run (salesSurroundings true) salesArguments).output = [first.toText, last.toText]) ∧
      (run (salesSurroundings false) salesArguments).code = 1 ∧
      (run (salesSurroundings false) salesArguments).output = [] := by
  have hargs : request? salesArguments = some (.replay "sales" none none (some "disk full") 0) := by
    decide +kernel
  have hmissing : ¬∃ p j settings, Loads (salesSurroundings false) "sales" none p j settings := by
    rintro ⟨p, j, settings, ⟨text, htext, -⟩, -, -⟩
    cases htext
  have hparse : Location.parse (Settings.standard ⟨0⟩).defaultFs = .ok ⟨"file", none, "/"⟩ := rfl
  obtain ⟨j, hloads⟩ := loads_sales
  obtain ⟨a, -, hjob, -, hdefault, first, last, hreplayed, -, hwritten⟩ :=
    (run_replay hargs).2 _ j _ hloads
  obtain ⟨hcode, houtput⟩ := hwritten fun _ _ => rfl
  have hname : JobName.derive ((none.or salesPlan.appName).or (Settings.standard ⟨0⟩).appName) =
      "sales_etl" := by
    decide +kernel
  rw [hname] at hjob
  refine ⟨hargs, ⟨j, a, first, last, hloads, hjob, ?_, hreplayed, hcode, houtput⟩,
    (run_replay hargs).1 hmissing⟩
  exact Except.ok.inj (hdefault.symm.trans hparse)

end Provenance.CommandLine
