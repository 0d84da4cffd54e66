import Provenance.Proofs.Execution.Contributions

/-!
# Which configurations a binding loads

Loading a configuration may be slow and may give something else each time, so a binding loads that
of each node at most once, and none that it does not need.  A `Bound` says which nodes' have been
loaded, in their order: those of the bound nodes in the list of the job's nodes
(`loads_bind`).  That this is all is said by what a binding depends on: the source of a node may be
exchanged for any other that gives the same at the load that is listed, if one is
(`bind_withSource`).  Nodes that hold one source have a load of it each.

The resolver looks at one load from both sides.  What it finds is what it would find for each
direction by itself, if each were given that load (`inputs_resolve`, `output_resolve`).
-/

namespace Provenance

/-! ## One node -/

/-- The binding to another source, through the same interface. -/
def Binding.withSource (b : Binding) (s : Configuration.Source) : Binding :=
  { b with source := s }

/-- Two loads of a node's configuration give the same. -/
def Node.LoadsAlike (n : Node) (k l : ℕ) : Prop :=
  ∀ b, n.binding = some b → b.source.load k = b.source.load l

namespace Resolver

variable {n : Node}

lemma lookInto_eq_of_loadsAlike {α : Type} {k l : ℕ} (h : n.LoadsAlike k l)
    (look : Configuration.Interface → Configuration → Attempt α) :
    lookInto n k look = lookInto n l look := by
  unfold lookInto
  cases hb : n.binding with
  | none => rfl
  | some b => simp only [h b hb]

/-- The inputs of a node are those that are found when nothing else is looked for. -/
lemma inputs_resolve (r : Resolver) (n : Node) (k : ℕ) :
    (r.resolve n k).inputs = (r.inputs n k).value?.getD [] := by
  unfold resolve inputs lookInto
  cases n.binding with
  | none => rfl
  | some b =>
      simp only
      cases b.source.load k <;> rfl

/-- The output of a node is the one that is found when nothing else is looked for. -/
lemma output_resolve (r : Resolver) (n : Node) (k : ℕ) :
    (r.resolve n k).output = (r.output n k).value? := by
  unfold resolve output lookInto
  cases n.binding with
  | none => rfl
  | some b =>
      simp only
      cases b.source.load k <;> rfl

/-- What is found of a node depends on its source only through the one load. -/
lemma resolve_rebind_withSource (r : Resolver) {b : Binding} (hb : n.binding = some b)
    {s : Configuration.Source} {k : ℕ} (h : s.load k = b.source.load k) :
    r.resolve (n.rebind (some (b.withSource s))) k = r.resolve n k := by
  have hbinding : (n.rebind (some (b.withSource s))).binding = some (b.withSource s) := rfl
  have hload : (b.withSource s).source.load k = b.source.load k := h
  unfold resolve
  simp only [hb, hbinding, hload]
  rfl

end Resolver

/-! ## The nodes of a job -/

/-- A survey of the job's nodes finds the same when the source of one of them is exchanged for one
in which the same is found. -/
lemma Resolver.survey_rebind (r : Resolver) (j : JobGraph) (before : List j.graph.Vertex)
    (u : j.graph.Vertex) (b : Option Binding)
    (hfound : u ∈ j.flatten → r.resolve ((j.graph.node u).rebind b) (j.earlier before u) =
      r.resolve (j.graph.node u) (j.earlier before u))
    (hbound : b.isSome = (j.graph.node u).binding.isSome) :
    r.survey (j.rebind u b (j.graph.counter u)).graph
        (before.map (j.kept u b (j.graph.counter u))) (j.rebind u b (j.graph.counter u)).flatten =
      { inputs := (r.survey j.graph before j.flatten).inputs
        outputs := (r.survey j.graph before j.flatten).outputs
        skips := (r.survey j.graph before j.flatten).skips
        loads := (r.survey j.graph before j.flatten).loads.map
          (j.kept u b (j.graph.counter u)) } := by
  have hloads : ∀ v, ((j.rebind u b (j.graph.counter u)).graph.node
      (j.kept u b (j.graph.counter u) v)).binding.isSome = (j.graph.node v).binding.isSome := by
    intro v
    rw [j.node_kept]
    by_cases hvu : v = u
    · rw [if_pos hvu, hvu]
      exact hbound
    · rw [if_neg hvu]
  have hparts : ∀ {α : Type} (part : Findings → List α),
      ((j.flatten.map (j.kept u b (j.graph.counter u))).flatMap fun w =>
        part (r.resolve ((j.rebind u b (j.graph.counter u)).graph.node w)
          ((j.rebind u b (j.graph.counter u)).earlier
            (before.map (j.kept u b (j.graph.counter u))) w))) =
        j.flatten.flatMap fun v =>
          part (r.resolve (j.graph.node v) (j.earlier before v)) := by
    intro α part
    rw [List.flatMap_map]
    apply List.flatMap_congr
    intro v hv
    rw [JobGraph.earlier_kept_of_counter hbound, j.node_kept]
    by_cases hvu : v = u
    · rw [if_pos hvu, hvu, hfound (hvu ▸ hv)]
    · rw [if_neg hvu]
  have hfilter : (j.flatten.map (j.kept u b (j.graph.counter u))).filter
        (fun w => ((j.rebind u b (j.graph.counter u)).graph.node w).binding.isSome) =
      (j.flatten.filter fun v => (j.graph.node v).binding.isSome).map
        (j.kept u b (j.graph.counter u)) := by
    rw [List.filter_map]
    exact congrArg _ (List.filter_congr fun v _ => hloads v)
  rw [JobGraph.survey_flatten, JobGraph.survey_flatten, j.flatten_rebind, hparts (·.inputs),
    hparts (·.output.toList), hparts (·.skips), hfilter]

namespace Execution

variable {x : Execution} {a : Agent} {j : JobGraph} {before : List j.graph.Vertex}

lemma bind_of_created (hx : x.phase = .created) (a : Agent) (j : JobGraph)
    (before : List j.graph.Vertex) :
    x.bind a j before =
      let survey := a.resolver.survey j.graph before j.flatten
      { execution := { x with
          phase := .bound
          inputs := datasets a.registry survey.inputs
          outputs := datasets a.registry survey.outputs }
        result := .ok ()
        loads := survey.loads
        warnings := survey.skips.map .skipped ++ drops x.job a.registry survey.inputs ++
          drops x.job a.registry survey.outputs } := by
  simp only [bind, hx]

lemma loads_bind (h : (x.bind a j before).result = .ok ()) :
    (x.bind a j before).loads = j.flatten.filter fun v => (j.graph.node v).binding.isSome := by
  rw [bind_of_created (phase_of_bind_ok h), j.survey_flatten a.resolver before]

lemma mem_loads_bind_iff (h : (x.bind a j before).result = .ok ()) (v : j.graph.Vertex) :
    v ∈ (x.bind a j before).loads ↔
      j.graph.Reaches j.root v ∧ (j.graph.node v).binding ≠ none := by
  rw [loads_bind h, List.mem_filter, j.mem_flatten_iff, Option.isSome_iff_ne_none]

/-- **Nothing else is loaded.**  A source may be exchanged for one that gives the same at the load
that is listed for its node, and for any source at all if none is listed. -/
lemma bind_withSource (h : (x.bind a j before).result = .ok ()) {u : j.graph.Vertex} {b : Binding}
    (hb : (j.graph.node u).binding = some b) {s : Configuration.Source}
    (hs : u ∈ (x.bind a j before).loads →
      s.load (j.earlier before u) = b.source.load (j.earlier before u)) :
    x.bind a (j.rebind u (some (b.withSource s)) (j.graph.counter u))
        (before.map (j.kept u (some (b.withSource s)) (j.graph.counter u))) =
      { execution := (x.bind a j before).execution
        result := (x.bind a j before).result
        loads := (x.bind a j before).loads.map
          (j.kept u (some (b.withSource s)) (j.graph.counter u))
        warnings := (x.bind a j before).warnings } := by
  have hx : x.phase = .created := phase_of_bind_ok h
  have hload : u ∈ j.flatten →
      s.load (j.earlier before u) = b.source.load (j.earlier before u) := by
    intro hu
    apply hs
    rw [mem_loads_bind_iff h, ← j.mem_flatten_iff, hb]
    exact ⟨hu, by simp⟩
  have hsurvey := a.resolver.survey_rebind j before u (some (b.withSource s))
    (fun hu => a.resolver.resolve_rebind_withSource hb (hload hu)) (by rw [hb]; rfl)
  rw [bind_of_created hx, bind_of_created hx, hsurvey]

/-- **One load for each node.**  A binding that succeeds loads the configurations of the bound nodes
that the final node reaches, each of them once and in depth-first order, and no other: of every
source it depends on the load that is listed and on nothing else.  What the resolver finds of a
node in one load is what it finds for each direction by itself in a load that gives the same. -/
theorem loads_once (x : Execution) (a : Agent) (j : JobGraph) (before : List j.graph.Vertex)
    (h : (x.bind a j before).result = .ok ()) :
    (x.bind a j before).loads =
        (j.graph.preorder [] j.root).filter (fun v => (j.graph.node v).binding.isSome) ∧
      (∀ v, j.graph.Reaches j.root v → (j.graph.node v).binding ≠ none →
        (x.bind a j before).loads.count v = 1) ∧
      (∀ v, ¬j.graph.Reaches j.root v ∨ (j.graph.node v).binding = none →
        (x.bind a j before).loads.count v = 0) ∧
      (∀ (u : j.graph.Vertex) (b : Binding) (s : Configuration.Source),
        (j.graph.node u).binding = some b →
        (u ∈ (x.bind a j before).loads →
          s.load (j.earlier before u) = b.source.load (j.earlier before u)) →
        x.bind a (j.rebind u (some (b.withSource s)) (j.graph.counter u))
            (before.map (j.kept u (some (b.withSource s)) (j.graph.counter u))) =
          { execution := (x.bind a j before).execution
            result := (x.bind a j before).result
            loads := (x.bind a j before).loads.map
              (j.kept u (some (b.withSource s)) (j.graph.counter u))
            warnings := (x.bind a j before).warnings }) ∧
      ∀ (r : Resolver) (n : Node) (k l m : ℕ), n.LoadsAlike k l → n.LoadsAlike k m →
        (r.resolve n k).inputs = (r.inputs n l).value?.getD [] ∧
        (r.resolve n k).output = (r.output n m).value? := by
  have hloads : (x.bind a j before).loads =
      j.flatten.filter fun v => (j.graph.node v).binding.isSome := loads_bind h
  have hnodup : (x.bind a j before).loads.Nodup := hloads ▸ j.nodup_flatten.filter _
  refine ⟨j.flatten_eq_preorder ▸ hloads, ?_, ?_, ?_, ?_⟩
  · intro v hv hb
    exact List.count_eq_one_of_mem hnodup ((mem_loads_bind_iff h v).2 ⟨hv, hb⟩)
  · intro v hv
    apply List.count_eq_zero.2
    intro hmem
    obtain ⟨hreached, hb⟩ := (mem_loads_bind_iff h v).1 hmem
    exact hv.elim (fun hnot => hnot hreached) hb
  · intro u b s hb hs
    exact bind_withSource h hb hs
  · intro r n k l m hl hm
    refine ⟨?_, ?_⟩
    · rw [r.inputs_resolve, Resolver.inputs, Resolver.lookInto_eq_of_loadsAlike hl]
      rfl
    · rw [r.output_resolve, Resolver.output, Resolver.lookInto_eq_of_loadsAlike hm]
      rfl

/-- A source that fails at first and gives a configuration from then on. -/
def lateSource : Configuration.Source where
  load
    | 0 => .error (.unavailable "not yet")
    | _ => .ok (Configuration.empty.set Configuration.modernInputKey "/in")

/-- A job whose final node uses one node over three paths, and another node that it does not use. -/
def sharingJob : JobGraph where
  graph := {
    nodes := #[
      ⟨"stray", "NewHadoopRDD", some ⟨.modern, lateSource⟩, []⟩,
      ⟨"read", "NewHadoopRDD", some ⟨.modern, lateSource⟩, []⟩,
      ⟨"left", "map", none, [1]⟩,
      ⟨"right", "map", none, [1]⟩,
      ⟨"write", "save", some ⟨.legacy, lateSource⟩, [2, 3, 1]⟩]
    ordered := by decide }
  root := ⟨4, by decide⟩

lemma not_reaches_stray : ¬sharingJob.graph.Reaches sharingJob.root ⟨0, by decide⟩ := by
  have hstep : ∀ v d : sharingJob.graph.Vertex, d ∈ sharingJob.graph.dependencies v →
      d ≠ ⟨0, by decide⟩ := by decide
  intro hreached
  rcases Relation.ReflTransGen.cases_tail hreached with heq | ⟨v, -, hd⟩
  · exact absurd heq (by decide)
  · exact hstep v _ hd rfl

theorem loads_once_sharingJob :
    ((new ⟨1⟩ ⟨0⟩).bind clusterAgent sharingJob [⟨1, by decide⟩]).result = .ok () ∧
      ((new ⟨1⟩ ⟨0⟩).bind clusterAgent sharingJob [⟨1, by decide⟩]).loads.count
        ⟨1, by decide⟩ = 1 ∧
      ((new ⟨1⟩ ⟨0⟩).bind clusterAgent sharingJob [⟨1, by decide⟩]).loads.count
        ⟨2, by decide⟩ = 0 ∧
      ((new ⟨1⟩ ⟨0⟩).bind clusterAgent sharingJob [⟨1, by decide⟩]).loads.count
        ⟨0, by decide⟩ = 0 := by
  have hok : ((new ⟨1⟩ ⟨0⟩).bind clusterAgent sharingJob [⟨1, by decide⟩]).result = .ok () := rfl
  obtain ⟨-, honce, hnever, -, -⟩ :=
    loads_once (new ⟨1⟩ ⟨0⟩) clusterAgent sharingJob [⟨1, by decide⟩] hok
  have hread : sharingJob.graph.Reaches sharingJob.root ⟨1, by decide⟩ :=
    .single (by decide)
  refine ⟨hok, honce _ hread (by decide), hnever _ (.inr rfl), hnever _ (.inl not_reaches_stray)⟩

end Execution

end Provenance
