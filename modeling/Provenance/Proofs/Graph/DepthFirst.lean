import Mathlib.Data.List.Nodup
import Mathlib.Logic.Relation
import Provenance.Graph.Flatten

/-!
# The order in which a job's nodes are listed

`JobGraph.flatten` keeps its pending nodes on a list of its own.  This module compares it with the
walk that it stands for: `Graph.preorder` calls itself for each dependency of a node, in their
order, right after it has listed the node, and passes over a node that is listed already.

The two agree at every point of the walk, not only at its end (`walk_eq_foldl_preorder`): what the
loop still finds is what the recursive walk finds when it goes through the pending nodes one after
another.  The loop leaves out dependencies that have been visited when it puts a node's
dependencies on the list, and passes over those that are visited between then and their turn; the
recursive walk passes over both, because it never forgets a node (`prefix_preorder`).

Which nodes are listed is read off the loop itself.  `Graph.Explored` is its invariant: nothing
but what the final node depends on is found or pending, and every dependency of a node that has
been found is found or pending.  When nothing is pending the nodes that have been found are closed
under dependencies, so they are all nodes on which the final node depends.
-/

namespace Provenance

namespace Graph

variable {g : Graph}

/-! ## Dependencies -/

lemma mem_dependencies {v d : g.Vertex} :
    d ∈ g.dependencies v ↔ d.val ∈ (g.node v).dependencies := by
  simp only [dependencies, List.mem_map, List.mem_attach, true_and, Subtype.exists]
  constructor
  · rintro ⟨i, hi, rfl⟩
    exact hi
  · intro h
    exact ⟨d.val, h, rfl⟩

lemma map_val_dependencies (v : g.Vertex) :
    (g.dependencies v).map Fin.val = (g.node v).dependencies := by
  rw [dependencies, List.map_map]
  exact List.attach_map_subtype_val _

/-- A node stands behind its dependencies, so no chain of dependencies returns to a node. -/
lemma lt_of_mem_dependencies {v d : g.Vertex} (h : d ∈ g.dependencies v) : d < v :=
  g.ordered v.val v.isLt d.val (mem_dependencies.1 h)

/-- The second node is the first one or one on which it depends, directly or through others. -/
def Reaches (g : Graph) : g.Vertex → g.Vertex → Prop :=
  Relation.ReflTransGen fun v d => d ∈ g.dependencies v

/-! ## The recursive walk -/

/-- The nodes that have been `found`, then `v` and the nodes on which it depends that have not been
found before: `v` first, and its dependencies in their order, each with all that it depends on. -/
def preorder (g : Graph) (found : List g.Vertex) (v : g.Vertex) : List g.Vertex :=
  if v ∈ found then found
  else (g.dependencies v).attach.foldl (fun found d => g.preorder found d.1) (found ++ [v])
termination_by v.val
decreasing_by exact lt_of_mem_dependencies d.2

lemma preorder_of_mem {found : List g.Vertex} {v : g.Vertex} (h : v ∈ found) :
    g.preorder found v = found := by
  rw [preorder, if_pos h]

lemma preorder_of_notMem {found : List g.Vertex} {v : g.Vertex} (h : v ∉ found) :
    g.preorder found v = (g.dependencies v).foldl g.preorder (found ++ [v]) := by
  rw [preorder, if_neg h, List.foldl_subtype (g := g.preorder) (fun _ _ _ => rfl)]
  simp

/-- A fold that only ever appends keeps what it starts from in front. -/
lemma prefix_foldl {α β : Type} {f : List α → β → List α} {bs : List β}
    (h : ∀ acc, ∀ b ∈ bs, acc <+: f acc b) (acc : List α) : acc <+: bs.foldl f acc := by
  induction bs generalizing acc with
  | nil => exact List.prefix_rfl
  | cons b bs ih =>
      have hhead : acc <+: f acc b := h acc b List.mem_cons_self
      have htail : f acc b <+: bs.foldl f (f acc b) :=
        ih (fun acc b hb => h acc b (List.mem_cons_of_mem _ hb)) (f acc b)
      exact hhead.trans htail

/-- **The walk never forgets a node.**  What has been found stays in front of what is found
later. -/
lemma prefix_preorder (found : List g.Vertex) (v : g.Vertex) : found <+: g.preorder found v := by
  induction found, v using preorder.induct with
  | case1 found v h =>
      have hsame : g.preorder found v = found := preorder_of_mem h
      simp only [hsame, List.prefix_rfl]
  | case2 found v h ih =>
      rw [preorder_of_notMem h]
      have hfold : found ++ [v] <+: (g.dependencies v).foldl g.preorder (found ++ [v]) :=
        prefix_foldl (fun acc d hd => ih acc ⟨d, hd⟩) _
      exact (List.prefix_append found [v]).trans hfold

/-- Nodes that have been found already may be left out of those that are still to be walked to. -/
lemma foldl_preorder_filter {p : g.Vertex → Bool} (vs : List g.Vertex) {found : List g.Vertex}
    (h : ∀ v, p v = false → v ∈ found) :
    (vs.filter p).foldl g.preorder found = vs.foldl g.preorder found := by
  induction vs generalizing found with
  | nil => rfl
  | cons v vs ih =>
      cases hp : p v with
      | false =>
          rw [List.filter_cons_of_neg (by simp [hp]), List.foldl_cons, preorder_of_mem (h v hp)]
          exact ih h
      | true =>
          rw [List.filter_cons_of_pos hp, List.foldl_cons, List.foldl_cons]
          exact ih fun w hw => (prefix_preorder found v).subset (h w hw)

/-! ## The loop against the recursive walk -/

lemma visited_set_iff {visited : Vector Bool g.nodes.size} {found : List g.Vertex}
    (h : ∀ w, visited.get w = true ↔ w ∈ found) (v w : g.Vertex) :
    (visited.set v true v.isLt).get w = true ↔ w ∈ v :: found := by
  have hcons : w ∈ v :: found ↔ v.val = w.val ∨ visited[w.val] = true := by
    rw [List.mem_cons, ← h w, Fin.ext_iff, eq_comm]
    rfl
  rw [hcons]
  show (visited.set v true v.isLt)[w.val] = true ↔ _
  by_cases hvw : v.val = w.val
  · simp [hvw]
  · simp [hvw]

/-- **The loop is the recursive walk.**  From any point on, the loop finds what the recursive walk
finds when it goes through the pending nodes in their order. -/
lemma walk_eq_foldl_preorder (visited : Vector Bool g.nodes.size) (found pending : List g.Vertex)
    (h : ∀ w, visited.get w = true ↔ w ∈ found) :
    g.walk visited found pending = pending.foldl g.preorder found.reverse := by
  induction visited, found, pending using walk.induct with
  | case1 visited found => rw [walk, List.foldl_nil]
  | case2 visited found v pending hv ih =>
      have hmem : v ∈ found.reverse := List.mem_reverse.2 ((h v).1 hv)
      rw [walk, if_pos hv, List.foldl_cons, preorder_of_mem hmem]
      exact ih h
  | case3 visited found v pending hv seen ih =>
      have hseen : ∀ w, seen.get w = true ↔ w ∈ v :: found := visited_set_iff h v
      have hnew : v ∉ found.reverse := fun hmem => hv ((h v).2 (List.mem_reverse.1 hmem))
      have hdrop : ∀ d, (!seen.get d) = false → d ∈ found.reverse ++ [v] := by
        intro d hd
        have hd : d ∈ v :: found := (hseen d).1 (by simpa using hd)
        simpa [or_comm] using hd
      rw [walk, if_neg hv, List.foldl_cons, preorder_of_notMem hnew]
      calc g.walk seen (v :: found) ((g.dependencies v).filter (fun d => !seen.get d) ++ pending)
          = ((g.dependencies v).filter (fun d => !seen.get d) ++ pending).foldl g.preorder
              (v :: found).reverse := ih hseen
        _ = pending.foldl g.preorder (((g.dependencies v).filter (fun d => !seen.get d)).foldl
              g.preorder (found.reverse ++ [v])) := by rw [List.foldl_append, List.reverse_cons]
        _ = pending.foldl g.preorder
              ((g.dependencies v).foldl g.preorder (found.reverse ++ [v])) := by
            rw [foldl_preorder_filter _ hdrop]

/-! ## What the loop finds -/

/-- The invariant of the walk from `root`. -/
structure Explored (root : g.Vertex) (visited : Vector Bool g.nodes.size)
    (found pending : List g.Vertex) : Prop where
  visited_iff : ∀ v, visited.get v = true ↔ v ∈ found
  nodup : found.Nodup
  reached : ∀ v, v ∈ found ∨ v ∈ pending → g.Reaches root v
  covers_root : root ∈ found ∨ root ∈ pending
  covers_dependencies : ∀ v ∈ found, ∀ d ∈ g.dependencies v, d ∈ found ∨ d ∈ pending

namespace Explored

variable {root : g.Vertex} {visited : Vector Bool g.nodes.size} {found pending : List g.Vertex}

lemma start (root : g.Vertex) :
    Explored root (.replicate _ false) [] [root] where
  visited_iff v := by
    show (Vector.replicate g.nodes.size false)[v.val] = true ↔ _
    simp
  nodup := List.nodup_nil
  reached v hv := by
    have hv : v = root := by simpa using hv
    exact hv ▸ Relation.ReflTransGen.refl
  covers_root := by simp
  covers_dependencies v hv := by simp at hv

/-- What is found or pending stays so when a node that has been found is taken from the pending
ones. -/
lemma covered_of_mem {v w : g.Vertex} (hv : v ∈ found) (h : w ∈ found ∨ w ∈ v :: pending) :
    w ∈ found ∨ w ∈ pending := by
  rcases h with hfound | hpending
  · exact .inl hfound
  · rcases List.mem_cons.1 hpending with rfl | hpending
    · exact .inl hv
    · exact .inr hpending

/-- What is found or pending stays so when a pending node is found and others become pending. -/
lemma covered_cons {v w : g.Vertex} (others : List g.Vertex)
    (h : w ∈ found ∨ w ∈ v :: pending) : w ∈ v :: found ∨ w ∈ others ++ pending := by
  rcases h with hfound | hpending
  · exact .inl (List.mem_cons_of_mem v hfound)
  · rcases List.mem_cons.1 hpending with rfl | hpending
    · exact .inl List.mem_cons_self
    · exact .inr (List.mem_append_right others hpending)

/-- Taking a visited node from the pending ones uncovers nothing. -/
lemma pass {v : g.Vertex} (h : Explored root visited found (v :: pending))
    (hv : visited.get v = true) : Explored root visited found pending where
  visited_iff := h.visited_iff
  nodup := h.nodup
  reached w hw := h.reached w (hw.imp_right (List.mem_cons_of_mem v))
  covers_root := covered_of_mem ((h.visited_iff v).1 hv) h.covers_root
  covers_dependencies w hw d hd :=
    covered_of_mem ((h.visited_iff v).1 hv) (h.covers_dependencies w hw d hd)

/-- Visiting a node covers its dependencies: those that are not pending now have been visited. -/
lemma visit {v : g.Vertex} (h : Explored root visited found (v :: pending))
    (hv : ¬visited.get v = true) :
    Explored root (visited.set v true v.isLt) (v :: found)
      ((g.dependencies v).filter (fun d => !(visited.set v true v.isLt).get d) ++ pending) where
  visited_iff := visited_set_iff h.visited_iff v
  nodup := List.nodup_cons.2 ⟨fun hmem => hv ((h.visited_iff v).2 hmem), h.nodup⟩
  reached w hw := by
    have hroot : g.Reaches root v := h.reached v (.inr List.mem_cons_self)
    rcases hw with hw | hw
    · rcases List.mem_cons.1 hw with rfl | hw
      · exact hroot
      · exact h.reached w (.inl hw)
    · rcases List.mem_append.1 hw with hw | hw
      · exact hroot.tail (List.mem_of_mem_filter hw)
      · exact h.reached w (.inr (List.mem_cons_of_mem v hw))
  covers_root := covered_cons _ h.covers_root
  covers_dependencies w hw d hd := by
    rcases List.mem_cons.1 hw with rfl | hw
    · cases hseen : (visited.set w true w.isLt).get d with
      | true => exact .inl ((visited_set_iff h.visited_iff w d).1 hseen)
      | false => exact .inr (List.mem_append_left _ (List.mem_filter.2 ⟨hd, by simp [hseen]⟩))
    · exact covered_cons _ (h.covers_dependencies w hw d hd)

/-- When nothing is pending, the nodes that have been found are those that the root reaches. -/
lemma mem_found_iff (h : Explored root visited found []) (v : g.Vertex) :
    v ∈ found ↔ g.Reaches root v := by
  constructor
  · intro hv
    exact h.reached v (.inl hv)
  · intro hv
    induction hv with
    | refl => simpa using h.covers_root
    | tail _ hd ih => simpa using h.covers_dependencies _ ih _ hd

/-- The walk keeps the invariant until nothing is pending. -/
lemma walk (visited : Vector Bool g.nodes.size) (found pending : List g.Vertex)
    (h : Explored root visited found pending) :
    ∃ seen, Explored root seen (g.walk visited found pending).reverse [] := by
  induction visited, found, pending using Graph.walk.induct with
  | case1 visited found =>
      rw [Graph.walk, List.reverse_reverse]
      exact ⟨visited, h⟩
  | case2 visited found v pending hv ih =>
      rw [Graph.walk, if_pos hv]
      exact ih (h.pass hv)
  | case3 visited found v pending hv seen ih =>
      rw [Graph.walk, if_neg hv]
      exact ih (h.visit hv)

end Explored

end Graph

namespace JobGraph

variable (j : JobGraph)

lemma nodup_flatten : j.flatten.Nodup := by
  obtain ⟨_, h⟩ := Graph.Explored.walk _ _ _ (Graph.Explored.start j.root)
  exact List.nodup_reverse.1 h.nodup

lemma mem_flatten_iff (v : j.graph.Vertex) : v ∈ j.flatten ↔ j.graph.Reaches j.root v := by
  obtain ⟨_, h⟩ := Graph.Explored.walk _ _ _ (Graph.Explored.start j.root)
  rw [← h.mem_found_iff v, List.mem_reverse, flatten]

lemma flatten_eq_preorder : j.flatten = j.graph.preorder [] j.root :=
  Graph.walk_eq_foldl_preorder _ _ _ (Graph.Explored.start j.root).visited_iff

lemma head?_flatten : j.flatten.head? = some j.root := by
  have hbegins : [j.root] <+: j.flatten := by
    rw [flatten_eq_preorder, Graph.preorder_of_notMem List.not_mem_nil]
    exact Graph.prefix_foldl (fun acc d _ => Graph.prefix_preorder acc d) _
  obtain ⟨rest, hrest⟩ := hbegins
  rw [← hrest]
  rfl

/-- **A job's nodes are listed in recursive depth-first order.**  The list begins with the final
node and holds every node that the final node reaches exactly once, and nothing else.  Nodes are
told apart by their position: two of them with the same id and the same contents stand in two
places of the list. -/
theorem flatten_depthFirst :
    j.flatten = j.graph.preorder [] j.root ∧
      j.flatten.head? = some j.root ∧
      (∀ v, j.graph.Reaches j.root v → j.flatten.count v = 1) ∧
      (∀ v ∈ j.flatten, j.graph.Reaches j.root v) ∧
      ∀ v w, v ≠ w → j.graph.node v = j.graph.node w →
        j.graph.Reaches j.root v → j.graph.Reaches j.root w →
        ∃ m n : ℕ, m ≠ n ∧ j.flatten[m]? = some v ∧ j.flatten[n]? = some w := by
  refine ⟨j.flatten_eq_preorder, j.head?_flatten, ?_, ?_, ?_⟩
  · intro v hv
    exact List.count_eq_one_of_mem j.nodup_flatten ((j.mem_flatten_iff v).2 hv)
  · intro v hv
    exact (j.mem_flatten_iff v).1 hv
  · intro v w hne _ hv hw
    obtain ⟨m, hm⟩ := List.mem_iff_getElem?.1 ((j.mem_flatten_iff v).2 hv)
    obtain ⟨n, hn⟩ := List.mem_iff_getElem?.1 ((j.mem_flatten_iff w).2 hw)
    refine ⟨m, n, ?_, hm, hn⟩
    rintro rfl
    exact hne (Option.some.inj (hm.symm.trans hn))

end JobGraph

end Provenance
