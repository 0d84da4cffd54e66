import Provenance.Proofs.Execution.Loads

/-!
# What a binding warns about

Nothing that a configuration names is lost without a warning.  The names are the `Node.entries` of a
node in each direction: the directories under its input key, and the text of its output.  They are
resolved together, so what becomes of them is either a location for each or the fault of the first
that is malformed (`Location.Resolved`), and a fault is a warning about the node
(`Resolver.Finds`).  A location without a naming rule is a warning about itself
(`NamingRegistry.Drops`).

Binding a job gives the warnings of the first kind for one node after the other, and behind them
those of the second kind for the inputs and then for the outputs (`warnings_bind`).
-/

namespace Provenance

open Execution

/-! ## What a node names -/

/-- The two directions of a node's storage. -/
inductive Resolver.Direction where
  | input
  | output
  deriving DecidableEq

/-- What resolving has to do with a direction. -/
def Resolver.Direction.stage : Direction → Stage
  | input => .input
  | output => .output

/-- The texts that name the storage of a configuration in a direction: the directories that are
listed as inputs under the key of the interface, and the output under the legacy key, or else under
the modern one. -/
def Configuration.entries (c : Configuration) : Interface → Resolver.Direction → List String
  | .legacy, .input => ((c.get? "mapred.input.dir").map DirectoryList.split).getD []
  | .modern, .input =>
    ((c.get? "mapreduce.input.fileinputformat.inputdir").map DirectoryList.split).getD []
  | _, .output =>
    ((c.get? "mapred.output.dir").or (c.get? "mapreduce.output.fileoutputformat.outputdir")).toList

lemma Configuration.entries_input (c : Configuration) (i : Interface) :
    c.entries i .input = ((c.get? i.inputKey).map DirectoryList.split).getD [] := by
  cases i with
  | legacy => rfl
  | modern => rfl

lemma Configuration.entries_output (c : Configuration) (i : Interface) :
    c.entries i .output = ((c.get? legacyOutputKey).or (c.get? modernOutputKey)).toList := by
  cases i with
  | legacy => rfl
  | modern => rfl

/-- The texts that name the storage of a node in a direction, when its configuration has been loaded
a number of times before.  There are none if it cannot be loaded. -/
def Node.entries (n : Node) (earlier : ℕ) (d : Resolver.Direction) : List String :=
  match n.binding with
  | none => []
  | some b =>
    match b.source.load earlier with
    | .error _ => []
    | .ok c => c.entries b.interface d

variable {n : Node} {b : Binding} {earlier : ℕ} {c : Configuration}

lemma Node.entries_of_unbound (hb : n.binding = none) (d : Resolver.Direction) :
    n.entries earlier d = [] := by
  simp only [entries, hb]

lemma Node.entries_of_unavailable {e : ResolutionError} (hb : n.binding = some b)
    (he : b.source.load earlier = .error e) (d : Resolver.Direction) :
    n.entries earlier d = [] := by
  simp only [entries, hb, he]

lemma Node.entries_of_loaded (hb : n.binding = some b) (hc : b.source.load earlier = .ok c)
    (d : Resolver.Direction) : n.entries earlier d = c.entries b.interface d := by
  simp only [entries, hb, hc]

/-! ## What is found of a node -/

/-- What several texts resolve to together: a location for each of them, or the fault of the first
that is malformed. -/
inductive Location.Resolved (defaultFs : Location) :
    List String → Except Malformed (List Location) → Prop
  | all {texts : List String} {ls : List Location} :
      List.Forall₂ (fun text l => resolve text defaultFs = .ok l) texts ls →
      Resolved defaultFs texts (.ok ls)
  | first {front back : List String} {text : String} {e : Malformed} :
      (∀ t ∈ front, ∃ l, resolve t defaultFs = .ok l) → resolve text defaultFs = .error e →
      Resolved defaultFs (front ++ text :: back) (.error e)

lemma Location.resolved_iff {defaultFs : Location} {texts : List String}
    {outcome : Except Malformed (List Location)} :
    Resolved defaultFs texts outcome ↔ texts.mapM (resolve · defaultFs) = outcome := by
  constructor
  · rintro (hall | ⟨hfront, hfault⟩)
    · exact Itemwise.mapM_eq_ok_iff.2 hall
    · exact Itemwise.mapM_eq_error_iff.2 ⟨_, _, _, rfl, hfront, hfault⟩
  · intro h
    cases outcome with
    | ok ls => exact .all (Itemwise.mapM_eq_ok_iff.1 h)
    | error e =>
        obtain ⟨front, text, back, rfl, hfront, hfault⟩ := Itemwise.mapM_eq_error_iff.1 h
        exact .first hfront hfault

/-- A direction of a node's storage is skipped if one of its texts is malformed. -/
def Node.skips (n : Node) (b : Binding) (d : Resolver.Direction) :
    Except Location.Malformed (List Location) → List Resolver.Skipped
  | .ok _ => []
  | .error e => [⟨n.id, n.operation, b.interface, d.stage, .malformed e⟩]

namespace Resolver

/-- The locations that have been found in a direction. -/
def Findings.locations (f : Findings) : Direction → List Location
  | .input => f.inputs
  | .output => f.output.toList

/-- What is to be found of a node, and what is to be skipped, when its configuration has been loaded
a number of times before. -/
inductive Finds (r : Resolver) (n : Node) (earlier : ℕ) : Findings → Prop
  | unbound : n.binding = none → Finds r n earlier ⟨[], none, []⟩
  | unavailable {b : Binding} {e : ResolutionError} : n.binding = some b →
      b.source.load earlier = .error e →
      Finds r n earlier ⟨[], none, [⟨n.id, n.operation, b.interface, .configuration, e⟩]⟩
  | loaded {b : Binding} {c : Configuration}
      {inputs outputs : Except Location.Malformed (List Location)} :
      n.binding = some b → b.source.load earlier = .ok c →
      Location.Resolved r.defaultFs (c.entries b.interface .input) inputs →
      Location.Resolved r.defaultFs (c.entries b.interface .output) outputs →
      Finds r n earlier ⟨inputs.toOption.getD [], (outputs.toOption.getD []).head?,
        n.skips b .input inputs ++ n.skips b .output outputs⟩

/-- What the texts of a direction resolve to. -/
def outcome (r : Resolver) (n : Node) (earlier : ℕ) (d : Direction) :
    Except Location.Malformed (List Location) :=
  (n.entries earlier d).mapM (Location.resolve · r.defaultFs)

lemma skip?_inputsIn (r : Resolver) (n : Node) (b : Binding) (c : Configuration) :
    (r.inputsIn n b.interface c).skip?.toList = n.skips b .input
      ((c.entries b.interface .input).mapM (Location.resolve · r.defaultFs)) := by
  rw [inputsIn, Configuration.entries_input]
  cases ((c.get? b.interface.inputKey).map DirectoryList.split).getD [] with
  | nil => rfl
  | cons entry entries =>
      simp only
      cases (entry :: entries).mapM (Location.resolve · r.defaultFs) <;> rfl

lemma outputIn_eq (r : Resolver) (n : Node) (b : Binding) (c : Configuration) :
    (r.outputIn n b.interface c).value? =
        (((c.entries b.interface .output).mapM
          (Location.resolve · r.defaultFs)).toOption.getD []).head? ∧
      (r.outputIn n b.interface c).skip?.toList = n.skips b .output
        ((c.entries b.interface .output).mapM (Location.resolve · r.defaultFs)) := by
  rw [outputIn, Configuration.entries_output]
  cases (c.get? Configuration.legacyOutputKey).or (c.get? Configuration.modernOutputKey) with
  | none => exact ⟨rfl, rfl⟩
  | some raw =>
      simp only [Option.toList_some]
      cases hraw : Location.resolve raw r.defaultFs with
      | ok l =>
          rw [Itemwise.mapM_cons_ok (f := (Location.resolve · r.defaultFs)) [] hraw]
          exact ⟨rfl, rfl⟩
      | error e =>
          rw [Itemwise.mapM_cons_error (f := (Location.resolve · r.defaultFs)) [] hraw]
          exact ⟨rfl, rfl⟩

lemma resolve_of_unavailable (r : Resolver) {e : ResolutionError} (hb : n.binding = some b)
    (he : b.source.load earlier = .error e) :
    r.resolve n earlier =
      ⟨[], none, [⟨n.id, n.operation, b.interface, .configuration, e⟩]⟩ := by
  simp only [resolve, hb, he]

lemma resolve_of_loaded (r : Resolver) (hb : n.binding = some b)
    (hc : b.source.load earlier = .ok c) :
    r.resolve n earlier =
      ⟨(r.outcome n earlier .input).toOption.getD [],
        ((r.outcome n earlier .output).toOption.getD []).head?,
        n.skips b .input (r.outcome n earlier .input) ++
          n.skips b .output (r.outcome n earlier .output)⟩ := by
  obtain ⟨houtput, hskip⟩ := r.outputIn_eq n b c
  have hinputs := Agent.value?_inputsIn r n b.interface c
  rw [← Configuration.entries_input] at hinputs
  simp only [outcome, Node.entries_of_loaded hb hc, ← houtput, ← hskip, ← r.skip?_inputsIn n b c]
  simp only [resolve, hb, hc, hinputs]

/-- **One node.**  What the resolver finds is what is to be found. -/
lemma finds_iff {r : Resolver} {f : Findings} :
    r.Finds n earlier f ↔ r.resolve n earlier = f := by
  constructor
  · rintro (hb | ⟨hb, he⟩ | ⟨hb, hc, hin, hout⟩)
    · exact resolve_of_unbound r (Option.isNone_iff_eq_none.2 hb) earlier
    · exact r.resolve_of_unavailable hb he
    · rw [r.resolve_of_loaded hb hc, outcome, outcome, Node.entries_of_loaded hb hc,
        Node.entries_of_loaded hb hc, Location.resolved_iff.1 hin, Location.resolved_iff.1 hout]
  · rintro rfl
    cases hb : n.binding with
    | none =>
        rw [resolve_of_unbound r (Option.isNone_iff_eq_none.2 hb) earlier]
        exact .unbound hb
    | some b =>
        cases hc : b.source.load earlier with
        | error e =>
            rw [r.resolve_of_unavailable hb hc]
            exact .unavailable hb hc
        | ok c =>
            rw [r.resolve_of_loaded hb hc]
            apply Finds.loaded hb hc
            · rw [Location.resolved_iff, outcome, Node.entries_of_loaded hb hc]
            · rw [Location.resolved_iff, outcome, Node.entries_of_loaded hb hc]

end Resolver

/-! ## Locations without a naming rule -/

/-- The warnings of a job about several locations, in their order: one about each location that has
no naming rule. -/
inductive NamingRegistry.Drops (r : NamingRegistry) (job : JobId) :
    List Location → List Warning → Prop
  | nil : Drops r job [] []
  | keep {l : Location} {d : Dataset} {ls : List Location} {ws : List Warning} :
      r.normalize l = .ok d → Drops r job ls ws → Drops r job (l :: ls) ws
  | drop {l : Location} {e : UnsupportedScheme} {ls : List Location} {ws : List Warning} :
      r.normalize l = .error e → Drops r job ls ws →
      Drops r job (l :: ls) (.dropped job l e :: ws)

lemma NamingRegistry.drops_drops (r : NamingRegistry) (job : JobId) (ls : List Location) :
    r.Drops job ls (drops job r ls) := by
  induction ls with
  | nil => exact .nil
  | cons l ls ih =>
      cases hl : r.normalize l with
      | ok d =>
          have hkeep : drops job r (l :: ls) = drops job r ls := by
            simp only [drops, List.filterMap_cons, hl]
          exact hkeep ▸ .keep hl ih
      | error e =>
          have hdrop : drops job r (l :: ls) = .dropped job l e :: drops job r ls := by
            simp only [drops, List.filterMap_cons, hl]
          exact hdrop ▸ .drop hl ih

/-! ## The nodes of a job -/

namespace Execution

variable {x : Execution} {a : Agent} {j : JobGraph} {before : List j.graph.Vertex}

/-- What is found of a node of the job. -/
def foundAt (a : Agent) (j : JobGraph) (before : List j.graph.Vertex) (v : j.graph.Vertex) :
    Resolver.Findings :=
  a.resolver.resolve (j.graph.node v) (j.earlier before v)

/-- The locations that are found in a direction, node by node. -/
def locations (a : Agent) (j : JobGraph) (before : List j.graph.Vertex)
    (d : Resolver.Direction) : List Location :=
  j.flatten.flatMap fun v => (foundAt a j before v).locations d

/-- A binding keeps the datasets of both directions. -/
lemma datasets_bind_locations (h : (x.bind a j before).result = .ok ()) :
    (x.bind a j before).execution.inputs = datasets a.registry (locations a j before .input) ∧
      (x.bind a j before).execution.outputs =
        datasets a.registry (locations a j before .output) := by
  rw [bind_of_created (phase_of_bind_ok h), j.survey_flatten a.resolver before]
  exact ⟨rfl, rfl⟩

/-- **The warnings of a binding**: what is skipped of each node, and behind it what has no naming
rule among the inputs and among the outputs. -/
lemma warnings_bind (h : (x.bind a j before).result = .ok ()) :
    (x.bind a j before).warnings =
      (j.flatten.flatMap fun v => (foundAt a j before v).skips).map .skipped ++
        drops x.job a.registry (locations a j before .input) ++
        drops x.job a.registry (locations a j before .output) := by
  rw [bind_of_created (phase_of_bind_ok h), j.survey_flatten a.resolver before]
  rfl

end Execution

end Provenance
