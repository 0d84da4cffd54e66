import Mathlib.Data.List.Flatten
import Mathlib.Data.List.Perm.Basic
import Provenance.Proofs.Execution.Warnings

/-!
# The entries of a job

An `Entry` is a text that a node's configuration names as storage, at its place.  What a warning
covers is said by `Covers`: a malformed text costs its node the whole direction, so that warning
covers all entries of the direction, and a location without a naming rule is one entry.  A
configuration that cannot be loaded names nothing, so its warning covers no entry.

In one direction of one node, the entries either are all covered by one warning or are kept and
dropped one by one (`perm_entriesAt`).
-/

namespace Provenance

open Execution

/-- A text that names storage of a node, at its place among those of one direction. -/
structure Entry (g : Graph) where
  node : g.Vertex
  direction : Resolver.Direction
  place : ℕ
  text : String
  deriving DecidableEq

/-- The entries of a node that several texts make. -/
def Entry.ofTexts {g : Graph} (v : g.Vertex) (d : Resolver.Direction) (texts : List String) :
    List (Entry g) :=
  texts.zipIdx.map fun t => ⟨v, d, t.2, t.1⟩

/-- A binding has the entry to account for: its node is one of the job's nodes, and the node's
configuration names the text at this place. -/
def Entry.IsDue {j : JobGraph} (before : List j.graph.Vertex) (e : Entry j.graph) : Prop :=
  j.graph.Reaches j.root e.node ∧
    ((j.graph.node e.node).entries (j.earlier before e.node) e.direction)[e.place]? = some e.text

/-- The text names a dataset. -/
def Agent.Names (a : Agent) (text : String) (d : Dataset) : Prop :=
  ∃ l, Location.resolve text a.resolver.defaultFs = .ok l ∧ a.registry.normalize l = .ok d

/-- The entries that a warning is about. -/
inductive Agent.Covers (a : Agent) (job : JobId) (j : JobGraph) (before : List j.graph.Vertex) :
    Warning → List (Entry j.graph) → Prop
  /-- A configuration that cannot be loaded names nothing. -/
  | unavailable {v : j.graph.Vertex} {b : Binding} {e : ResolutionError} :
      j.graph.Reaches j.root v → (j.graph.node v).binding = some b →
      b.source.load (j.earlier before v) = .error e →
      Covers a job j before
        (.skipped ⟨(j.graph.node v).id, (j.graph.node v).operation, b.interface, .configuration, e⟩)
        []
  /-- A malformed text costs the node the direction. -/
  | malformed {v : j.graph.Vertex} {b : Binding} {d : Resolver.Direction}
      {e : Location.Malformed} :
      j.graph.Reaches j.root v → (j.graph.node v).binding = some b →
      Location.Resolved a.resolver.defaultFs
        ((j.graph.node v).entries (j.earlier before v) d) (.error e) →
      Covers a job j before
        (.skipped ⟨(j.graph.node v).id, (j.graph.node v).operation, b.interface, d.stage,
          .malformed e⟩)
        (Entry.ofTexts v d ((j.graph.node v).entries (j.earlier before v) d))
  /-- A location without a naming rule is dropped alone. -/
  | unnamed {e : Entry j.graph} {l : Location} {u : UnsupportedScheme} :
      Location.resolve e.text a.resolver.defaultFs = .ok l → a.registry.normalize l = .error u →
      Covers a job j before (.dropped job l u) [e]

/-! ## One direction of a node -/

section Direction

variable (a : Agent) (job : JobId) (j : JobGraph) (before : List j.graph.Vertex)
  (v : j.graph.Vertex) (d : Resolver.Direction)

/-- The entries of a node in a direction. -/
def entriesAt : List (Entry j.graph) :=
  Entry.ofTexts v d ((j.graph.node v).entries (j.earlier before v) d)

/-- What the entries resolve to. -/
def outcomeAt : Except Location.Malformed (List Location) :=
  a.resolver.outcome (j.graph.node v) (j.earlier before v) d

/-- The entries with their locations, if none of them is malformed. -/
def locatedAt : List (Entry j.graph × Location) :=
  (entriesAt j before v d).zip ((outcomeAt a j before v d).toOption.getD [])

/-- The entries whose locations have naming rules, with their datasets. -/
def keptAt : List (Entry j.graph × Dataset) :=
  (locatedAt a j before v d).filterMap fun p => (a.registry.normalize p.2).toOption.map (p.1, ·)

/-- The warnings about the other locations, each with the entry that it covers. -/
def droppedAt : List (Warning × List (Entry j.graph)) :=
  (locatedAt a j before v d).filterMap fun p =>
    match a.registry.normalize p.2 with
    | .ok _ => none
    | .error e => some (.dropped job p.2 e, [p.1])

/-- The entries that are skipped because one of them is malformed. -/
def skippedAt : List (Entry j.graph) :=
  match outcomeAt a j before v d with
  | .ok _ => []
  | .error _ => entriesAt j before v d

end Direction

variable {a : Agent} {job : JobId} {j : JobGraph} {before : List j.graph.Vertex}
  {v : j.graph.Vertex} {d : Resolver.Direction}

lemma forall₂_of_outcomeAt {ls : List Location} (h : outcomeAt a j before v d = .ok ls) :
    List.Forall₂ (fun text l => Location.resolve text a.resolver.defaultFs = .ok l)
      ((j.graph.node v).entries (j.earlier before v) d) ls :=
  Itemwise.mapM_eq_ok_iff (f := (Location.resolve · a.resolver.defaultFs)).1 h

lemma length_outcomeAt {ls : List Location} (h : outcomeAt a j before v d = .ok ls) :
    ls.length = (entriesAt j before v d).length := by
  rw [entriesAt, Entry.ofTexts, List.length_map, List.length_zipIdx,
    (forall₂_of_outcomeAt h).length_eq]

/-- Every location has its entry. -/
lemma map_snd_locatedAt (a : Agent) (j : JobGraph) (before : List j.graph.Vertex)
    (v : j.graph.Vertex) (d : Resolver.Direction) :
    (locatedAt a j before v d).map Prod.snd = (outcomeAt a j before v d).toOption.getD [] := by
  cases h : outcomeAt a j before v d with
  | error e =>
      rw [locatedAt, h]
      simp [Except.toOption]
  | ok ls =>
      rw [locatedAt, h]
      exact List.map_snd_zip (Nat.le_of_eq (length_outcomeAt h))

/-- Each entry of several is kept or dropped. -/
lemma perm_filterMap_normalize (a : Agent) (job : JobId)
    (located : List (Entry j.graph × Location)) :
    ((located.filterMap fun p => (a.registry.normalize p.2).toOption.map (p.1, ·)).map Prod.fst ++
      (located.filterMap fun p => match a.registry.normalize p.2 with
        | .ok _ => none
        | .error e => some (Warning.dropped job p.2 e, [p.1])).flatMap Prod.snd).Perm
      (located.map Prod.fst) := by
  induction located with
  | nil => exact .nil
  | cons p located ih =>
      cases hp : a.registry.normalize p.2 with
      | ok d =>
          simp only [List.filterMap_cons, hp]
          exact ih.cons p.1
      | error e =>
          simp only [List.filterMap_cons, hp]
          exact List.perm_middle.trans (ih.cons p.1)

/-- **The books of one direction.**  Its entries are kept, skipped together, or dropped one by
one. -/
lemma perm_entriesAt (a : Agent) (job : JobId) (j : JobGraph) (before : List j.graph.Vertex)
    (v : j.graph.Vertex) (d : Resolver.Direction) :
    ((keptAt a j before v d).map Prod.fst ++
      (skippedAt a j before v d ++ (droppedAt a job j before v d).flatMap Prod.snd)).Perm
      (entriesAt j before v d) := by
  cases h : outcomeAt a j before v d with
  | error e =>
      have hnone : locatedAt a j before v d = [] := by
        rw [locatedAt, h]
        exact List.zip_nil_right
      simp [keptAt, droppedAt, skippedAt, hnone, h]
  | ok ls =>
      have hfst : (locatedAt a j before v d).map Prod.fst = entriesAt j before v d := by
        rw [locatedAt, h]
        exact List.map_fst_zip (Nat.le_of_eq (length_outcomeAt h).symm)
      have hperm := perm_filterMap_normalize a job (locatedAt a j before v d)
      rw [hfst] at hperm
      simpa [keptAt, droppedAt, skippedAt, h] using hperm

/-! ## The warnings of a node -/

/-- The warnings about what is skipped of a node, each with the entries that it covers. -/
def skipLogAt (a : Agent) (j : JobGraph) (before : List j.graph.Vertex) (v : j.graph.Vertex) :
    List (Warning × List (Entry j.graph)) :=
  match (j.graph.node v).binding with
  | none => []
  | some b =>
    match b.source.load (j.earlier before v) with
    | .error e =>
      [(.skipped ⟨(j.graph.node v).id, (j.graph.node v).operation, b.interface, .configuration, e⟩,
        [])]
    | .ok _ =>
      [.input, .output].flatMap fun d =>
        ((j.graph.node v).skips b d (outcomeAt a j before v d)).map fun s =>
          (.skipped s, entriesAt j before v d)

lemma skippedAt_of_entries_eq_nil (h : (j.graph.node v).entries (j.earlier before v) d = []) :
    skippedAt a j before v d = [] := by
  have houtcome : outcomeAt a j before v d = .ok [] := by
    rw [outcomeAt, Resolver.outcome, h]
    rfl
  rw [skippedAt, houtcome]

lemma map_fst_skipLogAt (a : Agent) (j : JobGraph) (before : List j.graph.Vertex)
    (v : j.graph.Vertex) :
    (skipLogAt a j before v).map Prod.fst = (foundAt a j before v).skips.map .skipped := by
  unfold skipLogAt foundAt
  cases hb : (j.graph.node v).binding with
  | none =>
      rw [Resolver.resolve_of_unbound _ (Option.isNone_iff_eq_none.2 hb)]
      rfl
  | some b =>
      cases hc : b.source.load (j.earlier before v) with
      | error e =>
          rw [a.resolver.resolve_of_unavailable hb hc]
          simp only [hc]
          rfl
      | ok c =>
          rw [a.resolver.resolve_of_loaded hb hc]
          simp [hc, outcomeAt, Function.comp_def]

lemma flatMap_snd_skipLogAt (a : Agent) (j : JobGraph) (before : List j.graph.Vertex)
    (v : j.graph.Vertex) : (skipLogAt a j before v).flatMap Prod.snd =
      skippedAt a j before v .input ++ skippedAt a j before v .output := by
  have hnone : (∀ d, (j.graph.node v).entries (j.earlier before v) d = []) →
      skippedAt a j before v .input ++ skippedAt a j before v .output = [] := by
    intro h
    rw [skippedAt_of_entries_eq_nil (h .input), skippedAt_of_entries_eq_nil (h .output)]
    rfl
  unfold skipLogAt
  cases hb : (j.graph.node v).binding with
  | none =>
      rw [hnone (Node.entries_of_unbound hb)]
      rfl
  | some b =>
      cases hc : b.source.load (j.earlier before v) with
      | error e =>
          rw [hnone (Node.entries_of_unavailable hb hc)]
          simp [hc]
      | ok c =>
          have hskips : ∀ d, (((j.graph.node v).skips b d (outcomeAt a j before v d)).map fun s =>
              (Warning.skipped s, entriesAt j before v d)).flatMap Prod.snd =
                skippedAt a j before v d := by
            intro d
            unfold skippedAt
            cases outcomeAt a j before v d <;> simp [Node.skips]
          simp [hc, List.flatMap_append, hskips]

/-! ## What the books say -/

lemma Node.length_entries_output (n : Node) (earlier : ℕ) :
    (n.entries earlier .output).length ≤ 1 := by
  cases hb : n.binding with
  | none => simp [Node.entries_of_unbound hb]
  | some b =>
      cases hc : b.source.load earlier with
      | error e => simp [Node.entries_of_unavailable hb hc]
      | ok c =>
          rw [Node.entries_of_loaded hb hc, Configuration.entries_output]
          cases (c.get? Configuration.legacyOutputKey).or
            (c.get? Configuration.modernOutputKey) <;> simp

lemma toList_head?_of_length_le {α : Type} {as : List α} (h : as.length ≤ 1) :
    as.head?.toList = as := by
  match as, h with
  | [], _ => rfl
  | [a], _ => rfl

/-- There are not more locations than entries. -/
lemma length_locations_le (a : Agent) (j : JobGraph) (before : List j.graph.Vertex)
    (v : j.graph.Vertex) (d : Resolver.Direction) :
    ((outcomeAt a j before v d).toOption.getD []).length ≤
      ((j.graph.node v).entries (j.earlier before v) d).length := by
  have hentries : (entriesAt j before v d).length =
      ((j.graph.node v).entries (j.earlier before v) d).length := by
    rw [entriesAt, Entry.ofTexts, List.length_map, List.length_zipIdx]
  rw [← map_snd_locatedAt, List.length_map, locatedAt, List.length_zip, hentries]
  exact Nat.min_le_left _ _

/-- The locations that are found in a direction are those of its entries. -/
lemma locations_foundAt (a : Agent) (j : JobGraph) (before : List j.graph.Vertex)
    (v : j.graph.Vertex) (d : Resolver.Direction) :
    (foundAt a j before v).locations d = (outcomeAt a j before v d).toOption.getD [] := by
  have hnone : (j.graph.node v).entries (j.earlier before v) d = [] →
      (outcomeAt a j before v d).toOption.getD [] = [] := by
    intro h
    rw [outcomeAt, Resolver.outcome, h]
    rfl
  unfold foundAt
  cases hb : (j.graph.node v).binding with
  | none =>
      rw [Resolver.resolve_of_unbound _ (Option.isNone_iff_eq_none.2 hb),
        hnone (Node.entries_of_unbound hb d)]
      cases d <;> rfl
  | some b =>
      cases hc : b.source.load (j.earlier before v) with
      | error e =>
          rw [a.resolver.resolve_of_unavailable hb hc,
            hnone (Node.entries_of_unavailable hb hc d)]
          cases d <;> rfl
      | ok c =>
          rw [a.resolver.resolve_of_loaded hb hc]
          cases d with
          | input => rfl
          | output =>
              apply toList_head?_of_length_le
              exact Nat.le_trans (length_locations_le a j before v .output)
                (Node.length_entries_output _ _)

lemma map_snd_keptAt (a : Agent) (j : JobGraph) (before : List j.graph.Vertex)
    (v : j.graph.Vertex) (d : Resolver.Direction) : (keptAt a j before v d).map Prod.snd =
      datasets a.registry ((foundAt a j before v).locations d) := by
  rw [locations_foundAt, ← map_snd_locatedAt, datasets, List.filterMap_map, keptAt,
    List.map_filterMap]
  apply List.filterMap_congr
  intro p _
  rw [Option.map_map]
  exact Option.map_id'

lemma map_fst_droppedAt (a : Agent) (job : JobId) (j : JobGraph) (before : List j.graph.Vertex)
    (v : j.graph.Vertex) (d : Resolver.Direction) : (droppedAt a job j before v d).map Prod.fst =
      drops job a.registry ((foundAt a j before v).locations d) := by
  rw [locations_foundAt, ← map_snd_locatedAt, drops, List.filterMap_map, droppedAt,
    List.map_filterMap]
  apply List.filterMap_congr
  intro p _
  rw [Function.comp_apply]
  cases a.registry.normalize p.2 <;> rfl

/-- An entry has the location that its text resolves to. -/
lemma resolve_of_mem_locatedAt {e : Entry j.graph} {l : Location}
    (h : (e, l) ∈ locatedAt a j before v d) :
    Location.resolve e.text a.resolver.defaultFs = .ok l := by
  have hzip : ∀ {texts : List String} {ls : List Location} (k : ℕ),
      List.Forall₂ (fun text l => Location.resolve text a.resolver.defaultFs = .ok l) texts ls →
      ∀ p ∈ ((texts.zipIdx k).map fun t => (⟨v, d, t.2, t.1⟩ : Entry j.graph)).zip ls,
        Location.resolve p.1.text a.resolver.defaultFs = .ok p.2 := by
    intro texts ls k hall
    induction hall generalizing k with
    | nil => simp
    | cons hhead _ ih =>
        rw [List.zipIdx_cons, List.map_cons, List.zip_cons_cons, List.forall_mem_cons]
        exact ⟨hhead, ih (k + 1)⟩
  unfold locatedAt at h
  cases houtcome : outcomeAt a j before v d with
  | error e' =>
      rw [houtcome] at h
      simp [Except.toOption] at h
  | ok ls =>
      rw [houtcome] at h
      exact hzip 0 (forall₂_of_outcomeAt houtcome) (e, l) h

lemma names_of_mem_keptAt {e : Entry j.graph} {dataset : Dataset}
    (h : (e, dataset) ∈ keptAt a j before v d) : a.Names e.text dataset := by
  obtain ⟨⟨e', l⟩, hmem, hkept⟩ := List.mem_filterMap.1 h
  obtain ⟨dataset', hnormalize, hpair⟩ := Option.map_eq_some_iff.1 hkept
  obtain ⟨rfl, rfl⟩ := Prod.mk.inj hpair
  refine ⟨l, resolve_of_mem_locatedAt hmem, ?_⟩
  cases hl : a.registry.normalize l with
  | ok dataset'' =>
      rw [hl] at hnormalize
      cases hnormalize
      rfl
  | error u =>
      rw [hl] at hnormalize
      cases hnormalize

lemma covers_of_mem_droppedAt {w : Warning} {es : List (Entry j.graph)}
    (h : (w, es) ∈ droppedAt a job j before v d) : a.Covers job j before w es := by
  obtain ⟨⟨e, l⟩, hmem, hdropped⟩ := List.mem_filterMap.1 h
  cases hl : a.registry.normalize l with
  | ok dataset =>
      simp only [hl] at hdropped
      cases hdropped
  | error u =>
      simp only [hl] at hdropped
      obtain ⟨rfl, rfl⟩ := Prod.mk.inj (Option.some.inj hdropped)
      exact .unnamed (resolve_of_mem_locatedAt hmem) hl

lemma covers_of_mem_skipLogAt (hv : j.graph.Reaches j.root v) {w : Warning}
    {es : List (Entry j.graph)} (h : (w, es) ∈ skipLogAt a j before v) :
    a.Covers job j before w es := by
  unfold skipLogAt at h
  cases hb : (j.graph.node v).binding with
  | none => simp [hb] at h
  | some b =>
      cases hc : b.source.load (j.earlier before v) with
      | error e =>
          simp only [hb, hc, List.mem_singleton] at h
          obtain ⟨rfl, rfl⟩ := Prod.mk.inj h
          exact .unavailable hv hb hc
      | ok c =>
          simp only [hb, hc] at h
          obtain ⟨d, -, hd⟩ := List.mem_flatMap.1 h
          obtain ⟨s, hs, hpair⟩ := List.mem_map.1 hd
          obtain ⟨rfl, rfl⟩ := Prod.mk.inj hpair
          cases houtcome : outcomeAt a j before v d with
          | ok ls => simp [houtcome, Node.skips] at hs
          | error e =>
              rw [houtcome, Node.skips, List.mem_singleton] at hs
              rw [hs]
              exact .malformed hv hb (Location.resolved_iff.2 houtcome)

/-! ## The entries of a job -/

lemma mem_entriesAt_iff {e : Entry j.graph} : e ∈ entriesAt j before v d ↔
    e.node = v ∧ e.direction = d ∧
      ((j.graph.node v).entries (j.earlier before v) d)[e.place]? = some e.text := by
  unfold entriesAt Entry.ofTexts
  rw [List.mem_map]
  constructor
  · rintro ⟨⟨text, k⟩, ht, rfl⟩
    exact ⟨rfl, rfl, List.mem_zipIdx_iff_getElem?.1 ht⟩
  · rintro ⟨rfl, rfl, htext⟩
    exact ⟨(e.text, e.place), List.mem_zipIdx_iff_getElem?.2 htext, rfl⟩

lemma nodup_entriesAt : (entriesAt j before v d).Nodup := by
  have hplaces : ((entriesAt j before v d).map Entry.place).Nodup := by
    rw [entriesAt, Entry.ofTexts, List.map_map]
    have hcomp : (Entry.place ∘ fun t : String × ℕ => (⟨v, d, t.2, t.1⟩ : Entry j.graph)) =
        Prod.snd := rfl
    rw [hcomp, List.zipIdx_map_snd]
    exact List.nodup_range'
  exact hplaces.of_map

/-- The entries of all nodes of a job. -/
def dueEntries (j : JobGraph) (before : List j.graph.Vertex) : List (Entry j.graph) :=
  j.flatten.flatMap fun v => entriesAt j before v .input ++ entriesAt j before v .output

lemma mem_dueEntries_iff {e : Entry j.graph} : e ∈ dueEntries j before ↔ e.IsDue before := by
  unfold dueEntries Entry.IsDue
  rw [List.mem_flatMap, ← j.mem_flatten_iff]
  constructor
  · rintro ⟨v, hv, he⟩
    rcases List.mem_append.1 he with he | he
    · obtain ⟨rfl, hd, htext⟩ := mem_entriesAt_iff.1 he
      exact ⟨hv, hd ▸ htext⟩
    · obtain ⟨rfl, hd, htext⟩ := mem_entriesAt_iff.1 he
      exact ⟨hv, hd ▸ htext⟩
  · rintro ⟨hv, htext⟩
    refine ⟨e.node, hv, List.mem_append.2 ?_⟩
    cases hd : e.direction with
    | input => exact .inl (mem_entriesAt_iff.2 ⟨rfl, hd, hd ▸ htext⟩)
    | output => exact .inr (mem_entriesAt_iff.2 ⟨rfl, hd, hd ▸ htext⟩)

lemma nodup_dueEntries (j : JobGraph) (before : List j.graph.Vertex) :
    (dueEntries j before).Nodup := by
  unfold dueEntries
  apply List.nodup_flatMap.2
  constructor
  · intro v _
    apply List.nodup_append'.2
    refine ⟨nodup_entriesAt, nodup_entriesAt, ?_⟩
    intro e hin hout
    obtain ⟨-, hin, -⟩ := mem_entriesAt_iff.1 hin
    obtain ⟨-, hout, -⟩ := mem_entriesAt_iff.1 hout
    rw [hin] at hout
    cases hout
  · refine j.nodup_flatten.imp fun {v w} hne => ?_
    intro e hv hw
    have hnode : ∀ u, e ∈ entriesAt j before u .input ++ entriesAt j before u .output →
        e.node = u := by
      intro u hu
      rcases List.mem_append.1 hu with hu | hu
      · exact (mem_entriesAt_iff.1 hu).1
      · exact (mem_entriesAt_iff.1 hu).1
    exact hne ((hnode v hv).symm.trans (hnode w hw))

end Provenance
