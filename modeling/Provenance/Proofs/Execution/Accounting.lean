import Provenance.Proofs.Execution.Entries

/-!
# What becomes of each entry

Here the books of a binding are closed: each text that a node's configuration names as storage is
in the lists of datasets or covered by one warning, and by no other (`Warned.accounted`).

Putting the nodes together keeps the balance of each (`perm_dueEntries`), and as an entry knows its
node and its place, no two of them are the same.  So what is kept and what the warnings cover are
the entries of the job, each of them once.
-/

namespace Provenance

open Execution

variable {a : Agent} {job : JobId} {j : JobGraph} {before : List j.graph.Vertex}
  {v : j.graph.Vertex} {d : Resolver.Direction}

/-! ## The books of a binding -/

/-- The entries of all nodes that are kept in a direction, with their datasets. -/
def keptEntries (a : Agent) (j : JobGraph) (before : List j.graph.Vertex)
    (d : Resolver.Direction) : List (Entry j.graph × Dataset) :=
  j.flatten.flatMap fun v => keptAt a j before v d

/-- All warnings, each with the entries that it covers. -/
def warningLog (a : Agent) (job : JobId) (j : JobGraph) (before : List j.graph.Vertex) :
    List (Warning × List (Entry j.graph)) :=
  (j.flatten.flatMap fun v => skipLogAt a j before v) ++
    (j.flatten.flatMap fun v => droppedAt a job j before v .input) ++
    j.flatten.flatMap fun v => droppedAt a job j before v .output

/-- The books of one node, both directions together. -/
lemma perm_entriesAt_append (a : Agent) (job : JobId) (j : JobGraph) (before : List j.graph.Vertex)
    (v : j.graph.Vertex) :
    ((keptAt a j before v .input).map Prod.fst ++ (keptAt a j before v .output).map Prod.fst ++
      ((skipLogAt a j before v).flatMap Prod.snd ++
        (droppedAt a job j before v .input).flatMap Prod.snd ++
        (droppedAt a job j before v .output).flatMap Prod.snd)).Perm
      (entriesAt j before v .input ++ entriesAt j before v .output) := by
  -- The two sides list the parts in different orders, which counting forgets.
  apply List.perm_iff_count.2
  intro e
  have hinput := List.perm_iff_count.1 (perm_entriesAt a job j before v .input) e
  have houtput := List.perm_iff_count.1 (perm_entriesAt a job j before v .output) e
  rw [flatMap_snd_skipLogAt]
  simp only [List.count_append] at hinput houtput ⊢
  omega

/-- **The books balance.**  The entries of a job are those that are kept as inputs, those that are
kept as outputs and those that warnings cover. -/
lemma perm_dueEntries (a : Agent) (job : JobId) (j : JobGraph) (before : List j.graph.Vertex) :
    ((keptEntries a j before .input).map Prod.fst ++
      (keptEntries a j before .output).map Prod.fst ++
      (warningLog a job j before).flatMap Prod.snd).Perm (dueEntries j before) := by
  unfold keptEntries warningLog dueEntries
  rw [List.map_flatMap, List.map_flatMap, List.flatMap_append, List.flatMap_append,
    List.flatMap_assoc, List.flatMap_assoc, List.flatMap_assoc]
  -- The books go through the nodes once for each part; they are brought together node by node.
  have hkept := List.flatMap_append_perm j.flatten
    (fun v => (keptAt a j before v .input).map Prod.fst)
    (fun v => (keptAt a j before v .output).map Prod.fst)
  have hskipped := List.flatMap_append_perm j.flatten
    (fun v => (skipLogAt a j before v).flatMap Prod.snd)
    (fun v => (droppedAt a job j before v .input).flatMap Prod.snd)
  have hlog := (hskipped.append_right _).trans (List.flatMap_append_perm j.flatten _
    (fun v => (droppedAt a job j before v .output).flatMap Prod.snd))
  have hall := (hkept.append hlog).trans (List.flatMap_append_perm j.flatten _ _)
  exact hall.trans (List.Perm.flatMap_left j.flatten fun v _ =>
    perm_entriesAt_append a job j before v)

variable {x : Execution}

lemma map_snd_keptEntries (a : Agent) (j : JobGraph) (before : List j.graph.Vertex)
    (d : Resolver.Direction) : (keptEntries a j before d).map Prod.snd =
      datasets a.registry (locations a j before d) := by
  rw [locations, datasets_flatMap, keptEntries, List.map_flatMap]
  exact List.flatMap_congr fun v _ => map_snd_keptAt a j before v d

lemma map_fst_warningLog (h : (x.bind a j before).result = .ok ()) :
    (warningLog a x.job j before).map Prod.fst = (x.bind a j before).warnings := by
  have hdropped : ∀ d, (j.flatten.flatMap fun v => droppedAt a x.job j before v d).map Prod.fst =
      drops x.job a.registry (locations a j before d) := by
    intro d
    rw [locations, drops, List.filterMap_flatMap, List.map_flatMap]
    exact List.flatMap_congr fun v _ => map_fst_droppedAt a x.job j before v d
  have hskipped : (j.flatten.flatMap fun v => skipLogAt a j before v).map Prod.fst =
      (j.flatten.flatMap fun v => (foundAt a j before v).skips).map .skipped := by
    rw [List.map_flatMap, List.map_flatMap]
    exact List.flatMap_congr fun v _ => map_fst_skipLogAt a j before v
  rw [warnings_bind h, warningLog, List.map_append, List.map_append, hskipped, hdropped, hdropped]

lemma names_of_mem_keptEntries {p : Entry j.graph × Dataset} (h : p ∈ keptEntries a j before d) :
    p.1.direction = d ∧ a.Names p.1.text p.2 := by
  obtain ⟨v, -, hp⟩ := List.mem_flatMap.1 h
  refine ⟨?_, names_of_mem_keptAt hp⟩
  have hentry : p.1 ∈ entriesAt j before v d := by
    apply (perm_entriesAt a ⟨0⟩ j before v d).subset
    exact List.mem_append_left _ (List.mem_map_of_mem hp)
  exact (mem_entriesAt_iff.1 hentry).2.1

lemma covers_of_mem_warningLog {p : Warning × List (Entry j.graph)}
    (h : p ∈ warningLog a job j before) : a.Covers job j before p.1 p.2 := by
  rcases List.mem_append.1 h with h | h
  · rcases List.mem_append.1 h with h | h
    · obtain ⟨v, hv, hp⟩ := List.mem_flatMap.1 h
      exact covers_of_mem_skipLogAt ((j.mem_flatten_iff v).1 hv) hp
    · obtain ⟨v, -, hp⟩ := List.mem_flatMap.1 h
      exact covers_of_mem_droppedAt hp
  · obtain ⟨v, -, hp⟩ := List.mem_flatMap.1 h
    exact covers_of_mem_droppedAt hp

lemma mem_books_iff (a : Agent) (job : JobId) {e : Entry j.graph} :
    e ∈ (keptEntries a j before .input).map Prod.fst ++
        (keptEntries a j before .output).map Prod.fst ++
          (warningLog a job j before).flatMap Prod.snd ↔ e.IsDue before :=
  (perm_dueEntries a job j before).mem_iff.trans mem_dueEntries_iff

/-! ## Warnings and what they say -/

/-- The word for an interface in the log. -/
inductive Configuration.Interface.IsCalled : Interface → String → Prop
  | legacy : IsCalled .legacy "legacy"
  | modern : IsCalled .modern "modern"

/-- The word for a stage in the log. -/
inductive Resolver.Stage.IsCalled : Stage → String → Prop
  | configuration : IsCalled .configuration "configuration"
  | input : IsCalled .input "input"
  | output : IsCalled .output "output"

/-- The wording of an error in the log. -/
inductive ResolutionError.IsWorded : ResolutionError → String → Prop
  | unavailable {cause : String} :
      IsWorded (.unavailable cause) ("configuration unavailable: " ++ cause)
  | malformed {raw : String} {fault : Location.Fault} :
      IsWorded (.malformed ⟨raw, fault⟩)
        ("malformed location '" ++ raw ++ "': " ++ fault.message)

/-- What the log says of a warning about the storage of a job: it names the node that the warning is
about, or else the location that is dropped. -/
inductive JobGraph.Logs (j : JobGraph) (job : JobId) : Warning → Notice → Prop
  | skipped {v : j.graph.Vertex} {b : Binding} {stage : Resolver.Stage} {error : ResolutionError}
      {binding word text : String} :
      j.graph.Reaches j.root v → (j.graph.node v).binding = some b →
      b.interface.IsCalled binding → stage.IsCalled word → error.IsWorded text →
      Logs j job
        (.skipped ⟨(j.graph.node v).id, (j.graph.node v).operation, b.interface, stage, error⟩)
        ⟨"could not resolve storage location; skipping",
          [("node", (j.graph.node v).id), ("operation", (j.graph.node v).operation),
            ("binding", binding), ("stage", word), ("error", text)]⟩
  | dropped {l : Location} {error : UnsupportedScheme} :
      Logs j job (.dropped job l error)
        ⟨"dropping dataset",
          [("job_id", job.toText), ("location", l.toText),
            ("error", "no naming rule for scheme '" ++ error.scheme ++ "' (location " ++
              error.location ++ ")")]⟩

lemma Configuration.Interface.isCalled_name (i : Interface) : i.IsCalled i.name := by
  cases i with
  | legacy => exact .legacy
  | modern => exact .modern

lemma Resolver.Stage.isCalled_name (s : Stage) : s.IsCalled s.name := by
  cases s with
  | configuration => exact .configuration
  | input => exact .input
  | output => exact .output

lemma ResolutionError.isWorded_message (e : ResolutionError) : e.IsWorded e.message := by
  cases e with
  | unavailable cause => exact .unavailable
  | malformed e => exact .malformed

/-- The log says what a warning is about. -/
lemma logs_of_covers {w : Warning} {es : List (Entry j.graph)} (h : a.Covers job j before w es) :
    j.Logs job w w.notice := by
  cases h with
  | @unavailable _ b _ hv hb _ =>
      exact .skipped hv hb b.interface.isCalled_name (Resolver.Stage.isCalled_name _)
        (ResolutionError.isWorded_message _)
  | @malformed _ b d _ hv hb _ =>
      exact .skipped hv hb b.interface.isCalled_name d.stage.isCalled_name
        (ResolutionError.isWorded_message _)
  | unnamed _ _ => exact .dropped

/-- Nothing fails in a binding: every configuration can be loaded, and every text names a
dataset. -/
def IsFlawless (a : Agent) (j : JobGraph) (before : List j.graph.Vertex) : Prop :=
  ∀ v, j.graph.Reaches j.root v →
    (∀ b, (j.graph.node v).binding = some b → ∃ c, b.source.load (j.earlier before v) = .ok c) ∧
    ∀ d, ∀ text ∈ (j.graph.node v).entries (j.earlier before v) d, ∃ dataset, a.Names text dataset

lemma isFlawless_of_warnings_eq_nil (h : (x.bind a j before).result = .ok ())
    (hnil : (x.bind a j before).warnings = []) : IsFlawless a j before := by
  intro v hv
  refine ⟨?_, ?_⟩
  · intro b hb
    cases hc : b.source.load (j.earlier before v) with
    | ok c => exact ⟨c, rfl⟩
    | error e =>
        rw [warnings_bind h] at hnil
        have hskips := List.map_eq_nil_iff.1 (List.append_eq_nil_iff.1
          (List.append_eq_nil_iff.1 hnil).1).1
        have hnone := List.flatMap_eq_nil_iff.1 hskips v ((j.mem_flatten_iff v).2 hv)
        rw [foundAt, a.resolver.resolve_of_unavailable hb hc] at hnone
        cases hnone
  · intro d text htext
    obtain ⟨k, hk⟩ := List.mem_iff_getElem?.1 htext
    have hdue : (⟨v, d, k, text⟩ : Entry j.graph).IsDue before := ⟨hv, hk⟩
    have hlog : warningLog a x.job j before = [] := by
      rw [← map_fst_warningLog h] at hnil
      exact List.map_eq_nil_iff.1 hnil
    have hmem := (mem_books_iff a x.job).2 hdue
    rw [hlog, List.flatMap_nil, List.append_nil] at hmem
    have hkept : ∀ d', (⟨v, d, k, text⟩ : Entry j.graph) ∈
        (keptEntries a j before d').map Prod.fst → ∃ dataset, a.Names text dataset := by
      intro d' hentry
      obtain ⟨p, hp, hsame⟩ := List.mem_map.1 hentry
      have hnames := (names_of_mem_keptEntries hp).2
      rw [hsame] at hnames
      exact ⟨p.2, hnames⟩
    exact (List.mem_append.1 hmem).elim (hkept .input) (hkept .output)

/-- What a warning is about has failed. -/
lemma not_covers_of_isFlawless (hflawless : IsFlawless a j before) {w : Warning}
    {es : List (Entry j.graph)} (hes : ∀ e ∈ es, e.IsDue before) : ¬a.Covers job j before w es := by
  intro hcovers
  cases hcovers with
  | unavailable hv hb he =>
      obtain ⟨c, hc⟩ := (hflawless _ hv).1 _ hb
      rw [he] at hc
      cases hc
  | @malformed v b d e hv _ hresolved =>
      obtain ⟨-, hnames⟩ := hflawless v hv
      generalize hentries : (j.graph.node v).entries (j.earlier before v) d = texts at hresolved
      cases hresolved with
      | @first front back text _ _ hfault =>
          have htext : text ∈ (j.graph.node v).entries (j.earlier before v) d := by
            rw [hentries]
            exact List.mem_append_right front List.mem_cons_self
          obtain ⟨_, l, hl, -⟩ := hnames d text htext
          rw [hfault] at hl
          cases hl
  | @unnamed e l u hl hu =>
      obtain ⟨hv, htext⟩ := hes e List.mem_cons_self
      obtain ⟨dataset, l', hl', hnormalize⟩ :=
        (hflawless e.node hv).2 e.direction e.text (List.mem_of_getElem? htext)
      rw [hl] at hl'
      cases hl'
      rw [hu] at hnormalize
      cases hnormalize

lemma warnings_eq_nil_of_isFlawless (h : (x.bind a j before).result = .ok ())
    (hflawless : IsFlawless a j before) : (x.bind a j before).warnings = [] := by
  rw [← map_fst_warningLog h, List.map_eq_nil_iff, List.eq_nil_iff_forall_not_mem]
  intro p hp
  apply not_covers_of_isFlawless hflawless _ (covers_of_mem_warningLog hp)
  intro e he
  apply (mem_books_iff a x.job).1
  exact List.mem_append_right _ (List.mem_flatMap.2 ⟨p, hp, he⟩)

/-! ## The statement -/

/-- A binding warns about everything that it loses, and about nothing else. -/
structure Warned (x : Execution) (a : Agent) (j : JobGraph) (before : List j.graph.Vertex) :
    Prop where
  /-- The warnings are those about the nodes, in depth-first order, and behind them those about the
  locations that are found for the inputs and for the outputs. -/
  ordered : ∃ (found : j.graph.Vertex → Resolver.Findings)
      (dropped : Resolver.Direction → List Warning),
    (∀ v f, a.resolver.Finds (j.graph.node v) (j.earlier before v) f ↔ found v = f) ∧
    (∀ d, a.registry.Drops x.job
      ((j.graph.preorder [] j.root).flatMap fun v => (found v).locations d) (dropped d)) ∧
    (x.bind a j before).warnings =
      ((j.graph.preorder [] j.root).flatMap fun v => (found v).skips).map .skipped ++
        dropped .input ++ dropped .output
  /-- The log names what a warning is about, and why there is one. -/
  described : ∀ w ∈ (x.bind a j before).warnings, j.Logs x.job w w.notice
  /-- Each entry is in the lists of datasets or covered by one warning, and not twice in either. -/
  accounted : ∃ (kept : Resolver.Direction → List (Entry j.graph × Dataset))
      (log : List (Warning × List (Entry j.graph))),
    (kept .input).map Prod.snd = (x.bind a j before).execution.inputs ∧
    (kept .output).map Prod.snd = (x.bind a j before).execution.outputs ∧
    log.map Prod.fst = (x.bind a j before).warnings ∧
    (∀ d, ∀ p ∈ kept d, p.1.direction = d ∧ a.Names p.1.text p.2) ∧
    (∀ p ∈ log, a.Covers x.job j before p.1 p.2) ∧
    ((kept .input).map Prod.fst ++ (kept .output).map Prod.fst ++ log.flatMap Prod.snd).Nodup ∧
    ∀ e, e ∈ (kept .input).map Prod.fst ++ (kept .output).map Prod.fst ++ log.flatMap Prod.snd ↔
      e.IsDue before
  /-- There is no warning if and only if nothing fails. -/
  silent_iff : (x.bind a j before).warnings = [] ↔ IsFlawless a j before

namespace Execution

/-- **Nothing is dropped silently.**  A binding that succeeds warns about each node whose
configuration cannot be loaded, or else about each direction with a malformed text in it, and about
each location without a naming rule, in this order.  Each text that names storage is in the lists of
datasets or covered by exactly one of the warnings, and there is none if nothing fails. -/
theorem bind_warned (x : Execution) (a : Agent) (j : JobGraph) (before : List j.graph.Vertex)
    (h : (x.bind a j before).result = .ok ()) : Warned x a j before where
  ordered := by
    refine ⟨foundAt a j before, fun d => drops x.job a.registry (locations a j before d),
      fun v f => Resolver.finds_iff, ?_, ?_⟩
    · intro d
      rw [← j.flatten_eq_preorder]
      exact a.registry.drops_drops x.job (locations a j before d)
    · rw [← j.flatten_eq_preorder]
      exact warnings_bind h
  described := by
    intro w hw
    rw [← map_fst_warningLog h] at hw
    obtain ⟨p, hp, rfl⟩ := List.mem_map.1 hw
    exact logs_of_covers (covers_of_mem_warningLog hp)
  accounted := by
    obtain ⟨hinputs, houtputs⟩ := datasets_bind_locations h
    refine ⟨keptEntries a j before, warningLog a x.job j before,
      (map_snd_keptEntries a j before .input).trans hinputs.symm,
      (map_snd_keptEntries a j before .output).trans houtputs.symm, map_fst_warningLog h,
      fun d p hp => names_of_mem_keptEntries hp, fun p hp => covers_of_mem_warningLog hp, ?_,
      fun e => mem_books_iff a x.job⟩
    exact (perm_dueEntries a x.job j before).nodup_iff.2 (nodup_dueEntries j before)
  silent_iff := by
    constructor
    · intro hnil
      exact isFlawless_of_warnings_eq_nil h hnil
    · intro hflawless
      exact warnings_eq_nil_of_isFlawless h hflawless

theorem bind_warned_defectiveJob :
    ((new ⟨1⟩ ⟨0⟩).bind clusterAgent defectiveJob []).result = .ok () ∧
      Warned (new ⟨1⟩ ⟨0⟩) clusterAgent defectiveJob [] ∧
      ((new ⟨1⟩ ⟨0⟩).bind clusterAgent defectiveJob []).warnings ≠ [] := by
  have hok : ((new ⟨1⟩ ⟨0⟩).bind clusterAgent defectiveJob []).result = .ok () := rfl
  have hwarned : Warned (new ⟨1⟩ ⟨0⟩) clusterAgent defectiveJob [] :=
    bind_warned (new ⟨1⟩ ⟨0⟩) clusterAgent defectiveJob [] hok
  have hlost : defectiveJob.graph.Reaches defectiveJob.root ⟨0, by decide⟩ := .single (by decide)
  refine ⟨hok, hwarned, fun hnil => ?_⟩
  obtain ⟨c, hc⟩ := (hwarned.silent_iff.1 hnil _ hlost).1 _ rfl
  cases hc

end Execution

end Provenance
