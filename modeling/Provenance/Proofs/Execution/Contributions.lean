import Provenance.Proofs.Execution.LoadCounts
import Provenance.Proofs.Itemwise

/-!
# What each node contributes

The datasets of a job are those of its nodes.  `Agent.Contributes` says what a node contributes, and
says it of the node alone: how it is bound, what its configuration gives when it is loaded, and
which datasets the configuration names.  Failures stop where they occur.  A configuration that
cannot be loaded costs the node all that it has; a malformed entry of the input list costs the
node its inputs, and a malformed output its output (`Agent.Reads` and `Agent.Writes` know nothing
of each other); a location without a naming rule costs itself (`NamingRegistry.Names`).

Binding a job finds the contributions of its nodes, one behind the other in the order in which the
nodes are listed.  What a load makes a node contribute is the affair of this node, so binding a node
to something else replaces its contributions and no others (`bind_contributions`).  Which load it is
that another node meets may depend on the node that is bound anew only if both hold one source, and
this makes a difference only if that source changes from load to load (`JobGraph.IsApart`).
-/

namespace Provenance

/-- What a node contributes to the datasets of its job. -/
structure Contribution where
  inputs : List Dataset
  output : Option Dataset

/-- The inputs and the outputs of several nodes, one node behind the other. -/
def Contribution.gather (cs : List Contribution) : List Dataset × List Dataset :=
  (cs.flatMap (·.inputs), cs.filterMap (·.output))

/-- The datasets at several locations, in their order.  A location without a naming rule is left
out. -/
inductive NamingRegistry.Names (r : NamingRegistry) : List Location → List Dataset → Prop
  | nil : Names r [] []
  | keep {l : Location} {d : Dataset} {ls : List Location} {ds : List Dataset} :
      r.normalize l = .ok d → Names r ls ds → Names r (l :: ls) (d :: ds)
  | drop {l : Location} {e : UnsupportedScheme} {ls : List Location} {ds : List Dataset} :
      r.normalize l = .error e → Names r ls ds → Names r (l :: ls) ds

/-- The key under which the inputs of a binding through an interface are listed. -/
inductive Configuration.InputsUnder : Interface → String → Prop
  | legacy : InputsUnder .legacy "mapred.input.dir"
  | modern : InputsUnder .modern "mapreduce.input.fileinputformat.inputdir"

/-- The text that names the output of a configuration: that of the legacy key, if there is one, and
else that of the modern key. -/
inductive Configuration.Targets (c : Configuration) : String → Prop
  | legacy {raw : String} : c.get? "mapred.output.dir" = some raw → Targets c raw
  | modern {raw : String} : c.get? "mapred.output.dir" = none →
      c.get? "mapreduce.output.fileoutputformat.outputdir" = some raw → Targets c raw

namespace Agent

/-- The datasets that a configuration lists under an input key.  There are none if one of the
entries is malformed. -/
inductive Reads (a : Agent) (c : Configuration) (key : String) : List Dataset → Prop
  | unset : c.get? key = none → Reads a c key []
  | malformed {value entry : String} {e : Location.Malformed} : c.get? key = some value →
      entry ∈ DirectoryList.split value →
      Location.resolve entry a.resolver.defaultFs = .error e → Reads a c key []
  | listed {value : String} {ls : List Location} {ds : List Dataset} : c.get? key = some value →
      List.Forall₂ (fun entry l => Location.resolve entry a.resolver.defaultFs = .ok l)
        (DirectoryList.split value) ls →
      a.registry.Names ls ds → Reads a c key ds

/-- The dataset that a configuration names as its output. -/
inductive Writes (a : Agent) (c : Configuration) : Option Dataset → Prop
  | unset : (∀ raw, ¬c.Targets raw) → Writes a c none
  | malformed {raw : String} {e : Location.Malformed} : c.Targets raw →
      Location.resolve raw a.resolver.defaultFs = .error e → Writes a c none
  | dropped {raw : String} {l : Location} {e : UnsupportedScheme} : c.Targets raw →
      Location.resolve raw a.resolver.defaultFs = .ok l → a.registry.normalize l = .error e →
      Writes a c none
  | written {raw : String} {l : Location} {d : Dataset} : c.Targets raw →
      Location.resolve raw a.resolver.defaultFs = .ok l → a.registry.normalize l = .ok d →
      Writes a c (some d)

/-- What a node contributes when its source has been loaded a number of times before. -/
inductive Contributes (a : Agent) (n : Node) (earlier : ℕ) : Contribution → Prop
  | unbound : n.binding = none → Contributes a n earlier ⟨[], none⟩
  | unavailable {b : Binding} {e : ResolutionError} : n.binding = some b →
      b.source.load earlier = .error e → Contributes a n earlier ⟨[], none⟩
  | loaded {b : Binding} {c : Configuration} {key : String} {inputs : List Dataset}
      {output : Option Dataset} : n.binding = some b → b.source.load earlier = .ok c →
      Configuration.InputsUnder b.interface key → a.Reads c key inputs → a.Writes c output →
      Contributes a n earlier ⟨inputs, output⟩

/-- The contribution that the resolver and the registry find. -/
def contribution (a : Agent) (n : Node) (earlier : ℕ) : Contribution :=
  let found := a.resolver.resolve n earlier
  ⟨Execution.datasets a.registry found.inputs,
    found.output.bind fun l => (a.registry.normalize l).toOption⟩

end Agent

/-! ## One node -/

open Execution

variable {a : Agent} {n : Node} {c : Configuration}

lemma NamingRegistry.names_iff {r : NamingRegistry} {ls : List Location} {ds : List Dataset} :
    r.Names ls ds ↔ datasets r ls = ds := by
  constructor
  · intro h
    induction h with
    | nil => rfl
    | keep hd _ ih =>
        simp only [datasets, List.filterMap_cons, hd, ← ih]
        rfl
    | drop he _ ih =>
        simp only [datasets, List.filterMap_cons, he, ← ih]
        rfl
  · rintro rfl
    induction ls with
    | nil => exact .nil
    | cons l ls ih =>
        cases hl : r.normalize l with
        | ok d =>
            have hkeep : datasets r (l :: ls) = d :: datasets r ls := by
              simp only [datasets, List.filterMap_cons, hl]
              rfl
            exact hkeep ▸ .keep hl ih
        | error e =>
            have hdrop : datasets r (l :: ls) = datasets r ls := by
              simp only [datasets, List.filterMap_cons, hl]
              rfl
            exact hdrop ▸ .drop hl ih

lemma Configuration.inputsUnder_iff {i : Interface} {key : String} :
    InputsUnder i key ↔ i.inputKey = key := by
  constructor
  · rintro (_ | _)
    · rfl
    · rfl
  · rintro rfl
    cases i with
    | legacy => exact .legacy
    | modern => exact .modern

lemma Configuration.targets_iff {raw : String} :
    c.Targets raw ↔ (c.get? legacyOutputKey).or (c.get? modernOutputKey) = some raw := by
  rw [Option.or_eq_some_iff]
  constructor
  · rintro (h | ⟨hnone, h⟩)
    · exact .inl h
    · exact .inr ⟨hnone, h⟩
  · rintro (h | ⟨hnone, h⟩)
    · exact .legacy h
    · exact .modern hnone h

namespace Agent

/-- The entries of an input list are resolved together. -/
lemma value?_inputsIn (r : Resolver) (n : Node) (i : Configuration.Interface) (c : Configuration) :
    (r.inputsIn n i c).value?.getD [] =
      ((((c.get? i.inputKey).map DirectoryList.split).getD []).mapM
        (Location.resolve · r.defaultFs)).toOption.getD [] := by
  unfold Resolver.inputsIn
  cases ((c.get? i.inputKey).map DirectoryList.split).getD [] with
  | nil => rfl
  | cons entry entries =>
      simp only
      cases (entry :: entries).mapM (Location.resolve · r.defaultFs) <;> rfl

lemma reads_iff (n : Node) (i : Configuration.Interface) {ds : List Dataset} :
    a.Reads c i.inputKey ds ↔
      datasets a.registry ((a.resolver.inputsIn n i c).value?.getD []) = ds := by
  rw [value?_inputsIn]
  constructor
  · rintro (hkey | ⟨hkey, hentry, herror⟩ | ⟨hkey, hall, hnames⟩)
    · rw [hkey]
      rfl
    · obtain ⟨e, he⟩ := Itemwise.exists_mapM_eq_error
        (f := (Location.resolve · a.resolver.defaultFs)) hentry herror
      rw [hkey, Option.map_some, Option.getD_some, he]
      rfl
    · rw [hkey, Option.map_some, Option.getD_some, Itemwise.mapM_eq_ok_of_forall₂ hall]
      exact NamingRegistry.names_iff.1 hnames
  · rintro rfl
    cases hkey : c.get? i.inputKey with
    | none => exact .unset hkey
    | some value =>
        rw [Option.map_some, Option.getD_some]
        rcases Itemwise.mapM_cases (Location.resolve · a.resolver.defaultFs)
          (DirectoryList.split value) with ⟨ls, hls, hall⟩ | ⟨e, he, entry, hentry, hfail⟩
        · rw [hls]
          exact .listed hkey hall (NamingRegistry.names_iff.2 rfl)
        · rw [he]
          exact .malformed hkey hentry hfail

lemma writes_iff (n : Node) (i : Configuration.Interface) {output : Option Dataset} :
    a.Writes c output ↔
      ((a.resolver.outputIn n i c).value?.bind fun l => (a.registry.normalize l).toOption) =
        output := by
  unfold Resolver.outputIn
  constructor
  · rintro (hnone | ⟨hraw, hl⟩ | ⟨hraw, hl, hd⟩ | ⟨hraw, hl, hd⟩)
    · cases hraw : (c.get? Configuration.legacyOutputKey).or
          (c.get? Configuration.modernOutputKey) with
      | none => rfl
      | some raw => exact absurd (Configuration.targets_iff.2 hraw) (hnone raw)
    · rw [Configuration.targets_iff.1 hraw]
      simp only [hl]
      rfl
    · rw [Configuration.targets_iff.1 hraw]
      simp only [hl, Resolver.Attempt.value?, Option.bind_some, hd]
      rfl
    · rw [Configuration.targets_iff.1 hraw]
      simp only [hl, Resolver.Attempt.value?, Option.bind_some, hd]
      rfl
  · rintro rfl
    cases hraw : (c.get? Configuration.legacyOutputKey).or
        (c.get? Configuration.modernOutputKey) with
    | none =>
        refine .unset fun raw hraw' => ?_
        rw [Configuration.targets_iff.1 hraw'] at hraw
        cases hraw
    | some raw =>
        have htarget : c.Targets raw := Configuration.targets_iff.2 hraw
        cases hl : Location.resolve raw a.resolver.defaultFs with
        | error e =>
            simp only [hl]
            exact .malformed htarget hl
        | ok l =>
            simp only [hl, Resolver.Attempt.value?, Option.bind_some]
            cases hd : a.registry.normalize l with
            | error e => exact .dropped htarget hl hd
            | ok d => exact .written htarget hl hd

/-- **One node.**  What the resolver and the registry find is what the node contributes. -/
lemma contributes_iff {earlier : ℕ} {x : Contribution} :
    a.Contributes n earlier x ↔ a.contribution n earlier = x := by
  constructor
  · rintro (hb | ⟨hb, he⟩ | ⟨hb, hc, hkey, hreads, hwrites⟩)
    · simp only [contribution, Resolver.resolve, hb]
      rfl
    · simp only [contribution, Resolver.resolve, hb, he]
      rfl
    · rename_i b _ _ _ _
      obtain rfl := Configuration.inputsUnder_iff.1 hkey
      have hinputs := (reads_iff n b.interface).1 hreads
      have houtput := (writes_iff n b.interface).1 hwrites
      simp only [contribution, Resolver.resolve, hb, hc, hinputs, houtput]
  · rintro rfl
    cases hb : n.binding with
    | none =>
        simp only [contribution, Resolver.resolve, hb]
        exact .unbound hb
    | some b =>
        cases hc : b.source.load earlier with
        | error e =>
            simp only [contribution, Resolver.resolve, hb, hc]
            exact .unavailable hb hc
        | ok c =>
            simp only [contribution, Resolver.resolve, hb, hc]
            exact .loaded hb hc (Configuration.inputsUnder_iff.2 rfl)
              ((reads_iff n b.interface).2 rfl) ((writes_iff n b.interface).2 rfl)

end Agent

/-! ## The nodes of a job -/

namespace Execution

lemma datasets_flatMap {α : Type} (r : NamingRegistry) (f : α → List Location) (as : List α) :
    datasets r (as.flatMap f) = as.flatMap fun a => datasets r (f a) :=
  List.filterMap_flatMap

lemma datasets_toList (r : NamingRegistry) (output : Option Location) :
    datasets r output.toList = (output.bind fun l => (r.normalize l).toOption).toList := by
  cases output with
  | none => rfl
  | some l =>
      simp only [datasets, Option.toList_some, List.filterMap_cons, List.filterMap_nil,
        Option.bind_some]
      cases (r.normalize l).toOption <;> rfl

/-- What binding finds, node by node. -/
lemma found_eq_gather (a : Agent) (j : JobGraph) (before : List j.graph.Vertex) :
    found a j before = Contribution.gather
      (j.flatten.map fun v => a.contribution (j.graph.node v) (j.earlier before v)) := by
  simp only [found, j.survey_flatten a.resolver before, datasets_flatMap, datasets_toList,
    Contribution.gather, List.filterMap_eq_flatMap_toList, List.flatMap_map, Agent.contribution]

/-- What binding finds when one node is bound to something else: every other node contributes what
it contributed at the same load. -/
lemma found_rebind (a : Agent) (j : JobGraph) (before : List j.graph.Vertex)
    (u : j.graph.Vertex) (b : Option Binding) (k : ℕ) :
    found a (j.rebind u b k) (before.map (j.kept u b k)) = Contribution.gather
      (j.flatten.map fun v =>
        Function.update (fun v => a.contribution (j.graph.node v)) u
          (a.contribution ((j.graph.node u).rebind b)) v
          ((j.rebind u b k).earlier (before.map (j.kept u b k)) (j.kept u b k v))) := by
  rw [found_eq_gather, JobGraph.flatten_rebind, List.map_map]
  apply congrArg Contribution.gather
  apply List.map_congr_left
  intro v _
  rw [Function.comp_apply, j.node_kept, Function.update_apply]
  split
  · rfl
  · rfl

/-- A node contributes the same if it is apart from the one that is bound to something else. -/
lemma contribution_of_isApart (a : Agent) {j : JobGraph} (before : List j.graph.Vertex)
    {u v : j.graph.Vertex} (b : Option Binding) {k : ℕ} (hne : v ≠ u) (h : j.IsApart u k v) :
    a.contribution (j.graph.node v)
        ((j.rebind u b k).earlier (before.map (j.kept u b k)) (j.kept u b k v)) =
      a.contribution (j.graph.node v) (j.earlier before v) := by
  unfold Agent.contribution Resolver.resolve
  cases hc : (j.graph.node v).binding with
  | none => rfl
  | some c => simp only [h.load_eq hne hc]

lemma phase_of_bind_ok {x : Execution} {j : JobGraph} {before : List j.graph.Vertex}
    (h : (x.bind a j before).result = .ok ()) : x.phase = .created := by
  by_contra hne
  rw [bind_of_ne_created hne] at h
  cases h

lemma datasets_bind {x : Execution} (hx : x.phase = .created) (j : JobGraph)
    (before : List j.graph.Vertex) :
    ((x.bind a j before).execution.inputs, (x.bind a j before).execution.outputs) =
      found a j before := by
  simp only [bind, hx]
  rfl

/-- **A job has the datasets of its nodes.**  A binding that succeeds finds what the nodes
contribute that the final node reaches, each of them once and in depth-first order.  What a load
makes a node contribute is settled by its own binding: when one node is bound to something else, its
contributions are replaced, and those of the others stay what they are and where they are.  Another
node meets the same load as before, or one that gives the same, unless it holds a source that
changes from load to load and that the node which is bound anew has held or holds now. -/
theorem bind_contributions (x : Execution) (a : Agent) (j : JobGraph)
    (before : List j.graph.Vertex) (h : (x.bind a j before).result = .ok ()) :
    (j.graph.preorder [] j.root).Nodup ∧
    (∀ v, v ∈ j.graph.preorder [] j.root ↔ j.graph.Reaches j.root v) ∧
    ∃ contribution : j.graph.Vertex → ℕ → Contribution,
      (∀ v n c, a.Contributes (j.graph.node v) n c ↔ contribution v n = c) ∧
      ((x.bind a j before).execution.inputs, (x.bind a j before).execution.outputs) =
        Contribution.gather
          ((j.graph.preorder [] j.root).map fun v => contribution v (j.earlier before v)) ∧
      ∀ (u : j.graph.Vertex) (b : Option Binding) (k : ℕ), ∃ new : ℕ → Contribution,
        (∀ n c, a.Contributes ((j.graph.node u).rebind b) n c ↔ new n = c) ∧
        ((x.bind a (j.rebind u b k) (before.map (j.kept u b k))).execution.inputs,
            (x.bind a (j.rebind u b k) (before.map (j.kept u b k))).execution.outputs) =
          Contribution.gather ((j.graph.preorder [] j.root).map fun v =>
            Function.update contribution u new v
              ((j.rebind u b k).earlier (before.map (j.kept u b k)) (j.kept u b k v))) ∧
        ∀ v, v ≠ u → j.IsApart u k v →
          contribution v ((j.rebind u b k).earlier (before.map (j.kept u b k)) (j.kept u b k v)) =
            contribution v (j.earlier before v) := by
  have hx : x.phase = .created := phase_of_bind_ok h
  rw [← j.flatten_eq_preorder]
  refine ⟨j.nodup_flatten, j.mem_flatten_iff, fun v => a.contribution (j.graph.node v),
    fun v n c => Agent.contributes_iff, ?_, fun u b k =>
      ⟨a.contribution ((j.graph.node u).rebind b), fun n c => Agent.contributes_iff, ?_, ?_⟩⟩
  · rw [datasets_bind hx, found_eq_gather]
  · rw [datasets_bind hx, found_rebind]
  · intro v hne hapart
    exact contribution_of_isApart a before b hne hapart

/-- A configuration with a malformed entry in its input list. -/
def malformedInput : Configuration :=
  (Configuration.empty.set Configuration.legacyInputKey "/in,9:/in").set
    Configuration.modernOutputKey "/out"

/-- A job whose final node has a malformed entry among its inputs, and depends on a node whose
configuration cannot be loaded. -/
def defectiveJob : JobGraph where
  graph := {
    nodes := #[
      ⟨"lost", "NewHadoopRDD", some ⟨.modern, ⟨fun _ => .error (.unavailable "gone")⟩⟩, []⟩,
      ⟨"write", "save", some ⟨.legacy, .ofConfiguration malformedInput⟩, [0]⟩]
    ordered := by decide }
  root := ⟨1, by decide⟩

/-- An agent that takes bare paths on a cluster. -/
def clusterAgent : Agent :=
  ⟨.standard ⟨0⟩, ⟨⟨"hdfs", some "nn:8020", ""⟩⟩, .standard⟩

theorem bind_contributions_defectiveJob :
    ((new ⟨1⟩ ⟨0⟩).bind clusterAgent defectiveJob []).result = .ok () ∧
      ∃ contribution : defectiveJob.graph.Vertex → ℕ → Contribution,
        (∀ n, contribution ⟨0, by decide⟩ n = ⟨[], none⟩) ∧
        (∀ n, contribution defectiveJob.root n =
          ⟨[], some ⟨"hdfs://nn:8020", "/out"⟩⟩) ∧
        (((new ⟨1⟩ ⟨0⟩).bind clusterAgent defectiveJob []).execution.inputs,
            ((new ⟨1⟩ ⟨0⟩).bind clusterAgent defectiveJob []).execution.outputs) =
          Contribution.gather ((defectiveJob.graph.preorder [] defectiveJob.root).map fun v =>
            contribution v (defectiveJob.earlier [] v)) ∧
        -- the final node contributes the same when the other one is not bound any more
        contribution defectiveJob.root
            ((defectiveJob.rebind ⟨0, by decide⟩ none 0).earlier []
              (defectiveJob.kept ⟨0, by decide⟩ none 0 defectiveJob.root)) =
          contribution defectiveJob.root (defectiveJob.earlier [] defectiveJob.root) := by
  have hok : ((new ⟨1⟩ ⟨0⟩).bind clusterAgent defectiveJob []).result = .ok () := rfl
  obtain ⟨-, -, contribution, hc, hgather, hrebind⟩ :=
    bind_contributions (new ⟨1⟩ ⟨0⟩) clusterAgent defectiveJob [] hok
  obtain ⟨-, -, -, hkept⟩ := hrebind ⟨0, by decide⟩ none 0
  have hentry : Location.resolve "9:/in" clusterAgent.resolver.defaultFs =
      .error ⟨"9:/in", .invalidScheme⟩ := rfl
  have hmem : "9:/in" ∈ DirectoryList.split "/in,9:/in" := by decide
  have hreads : clusterAgent.Reads malformedInput "mapred.input.dir" [] :=
    .malformed rfl hmem hentry
  have hout : Location.resolve "/out" clusterAgent.resolver.defaultFs =
      .ok ⟨"hdfs", some "nn:8020", "/out"⟩ := rfl
  have hwrites : clusterAgent.Writes malformedInput (some ⟨"hdfs://nn:8020", "/out"⟩) :=
    .written (.modern rfl rfl) hout rfl
  have hapart : defectiveJob.IsApart ⟨0, by decide⟩ 0 defectiveJob.root :=
    .inr ⟨by decide, by decide⟩
  refine ⟨hok, contribution, ?_, ?_, hgather, hkept defectiveJob.root (by decide) hapart⟩
  · intro n
    exact (hc _ n _).1 (.unavailable rfl rfl)
  · intro n
    exact (hc _ n _).1 (.loaded rfl rfl .legacy hreads hwrites)

end Execution

end Provenance
