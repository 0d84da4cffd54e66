import Provenance.Proofs.Delivery.Lines
import Provenance.Proofs.Plan.Depiction
import Provenance.Proofs.Plan.Loading

/-!
# Listing the nodes of a plan

The listing of a plan has one line for each node on which the root depends, in the depth-first order
of the plan (`Plan.Listed`).  A line shows the id of a node, its operation and the kind of its
storage.

The operation stands in a field of its own, with blanks behind it.  The id does not: it is written
as it is (`itemLine`), and the operation begins two blanks behind wherever it ends.  So a line is
laid out in columns if and only if its id is at least as long as a field is wide
(`inColumns_itemLine_iff`), and behind short ids of unlike lengths the operations do not stand below
each other.
-/

namespace Provenance

namespace Plan

/-- The file at a path spells the plan, and the plan describes a job. -/
def IsAt (p : Plan) (h : Host) (path : String) : Prop :=
  (∃ text, h.read path = .ok text ∧ read? text = some p) ∧ ∃ j, p.build = .ok j

/-- The kind of a node's storage. -/
def Item.bindingName (item : Item) : String :=
  match item.storage with
  | some s => s.interface.name
  | none => "none"

/-- The items are those that the root reaches, each of them once and in depth-first order. -/
structure Listed (p : Plan) (items : List Item) : Prop where
  mem_iff : ∀ item, item ∈ items ↔ item ∈ p.items ∧ p.Reaches p.root item.id
  nodup : (items.map (·.id)).Nodup
  /-- The walk from the root comes by the ids in this order. -/
  walk_iff : ∀ result, p.Walk [] [p.root] result ↔ result = items.map (·.id)

variable {p : Plan} {j : JobGraph}

/-- The nodes of a job are described, one after the other, by the items that are listed. -/
lemma Depicts.exists_listed (h : p.Depicts j) (hids : p.ids.Nodup) : ∃ items, p.Listed items ∧
    List.Forall₂ (fun v item => item.Describes j.graph v) j.flatten items := by
  choose item hitem hdescribes using h.described
  have hmap : (j.flatten.map item).map (·.id) = j.flatten.map j.graph.idAt := by
    rw [List.map_map]
    exact List.map_congr_left fun v _ => (hdescribes v).id.symm
  refine ⟨j.flatten.map item, ⟨fun other => ?_, ?_, fun result => ?_⟩, ?_⟩
  · constructor
    · intro hother
      obtain ⟨v, hv, rfl⟩ := List.mem_map.1 hother
      have hid : (item v).id ∈ j.flatten.map j.graph.idAt :=
        (hdescribes v).id ▸ List.mem_map_of_mem hv
      exact ⟨hitem v, (h.mem_flatten_iff hids _).1 hid⟩
    · rintro ⟨hother, hreached⟩
      obtain ⟨v, hv, hid⟩ := List.mem_map.1 ((h.mem_flatten_iff hids _).2 hreached)
      have hsame : item v = other :=
        List.inj_on_of_nodup_map hids (hitem v) hother ((hdescribes v).id.symm.trans hid)
      exact hsame ▸ List.mem_map_of_mem hv
  · rw [hmap]
    exact h.nodup_flatten
  · rw [hmap]
    constructor
    · exact fun hwalk => hwalk.unique hids h.walk_flatten
    · rintro rfl
      exact h.walk_flatten
  · rw [List.forall₂_map_right_iff, List.forall₂_same]
    exact fun v _ => hdescribes v

/-- Items whose ids are walked to in this order are those that are listed. -/
lemma Listed.eq_of_walk {items others : List Item} (h : p.Listed items) (hids : p.ids.Nodup)
    (hothers : ∀ item ∈ others, item ∈ p.items) (hwalk : p.Walk [] [p.root] (others.map (·.id))) :
    items = others := by
  have hmap : others.map (·.id) = items.map (·.id) := (h.walk_iff _).1 hwalk
  have hlength : items.length = others.length := by
    simpa using (congrArg List.length hmap).symm
  refine List.ext_getElem hlength fun n hn hn' => ?_
  have hid : items[n].id = others[n].id := by
    simpa [hn, hn'] using (congrArg (·[n]?) hmap).symm
  exact List.inj_on_of_nodup_map hids ((h.mem_iff _).1 (List.getElem_mem hn)).1
    (hothers _ (List.getElem_mem hn')) hid

end Plan

namespace CommandLine

variable {s : Surroundings} {p : Plan} {item : Plan.Item}

/-! ## Fields -/

/-- A field of a line has a text at its left and blanks behind it, and is as wide as it should be, or
as wide as the text if this is wider. -/
def IsField (width : ℕ) (text field : String) : Prop :=
  ∃ blanks, field = text ++ String.ofList (List.replicate blanks ' ') ∧
    field.length = max width text.length

lemma isField_padRight (width : ℕ) (text : String) : IsField width text (padRight width text) := by
  refine ⟨width - text.length, rfl, ?_⟩
  rw [padRight, String.length_append, String.length_ofList, List.length_replicate]
  omega

/-- A text that is as wide as the field fills it. -/
lemma isField_self_iff {width : ℕ} {text : String} :
    IsField width text text ↔ width ≤ text.length := by
  constructor
  · rintro ⟨-, -, hlength⟩
    omega
  · intro h
    exact ⟨0, by simp, by omega⟩

/-- A line in columns: the id and the operation stand in fields of their own. -/
def InColumns (item : Plan.Item) (line : String) : Prop :=
  ∃ id operation, IsField 24 item.id id ∧ IsField 24 item.operation operation ∧
    line = id ++ "  " ++ operation ++ "  " ++ item.bindingName

/-! ## Lines -/

/-- The line of an item: its operation stands in a field, its id does not. -/
def itemLine (item : Plan.Item) : String :=
  item.id ++ "  " ++ padRight 24 item.operation ++ "  " ++ item.bindingName

/-- What a line shows of an item. -/
structure IsRow (item : Plan.Item) (line : String) : Prop where
  /-- The id is followed by two blanks, the operation in its field, two blanks, and the kind of the
  storage. -/
  layout : ∃ operation, IsField 24 item.operation operation ∧
    line = item.id ++ "  " ++ operation ++ "  " ++ item.bindingName
  /-- The operation begins where the id ends, but for the blanks. -/
  offset : item.operation.toList <+: line.toList.drop (item.id.length + 2)
  /-- The line is in columns just if the id is as wide as its field would be. -/
  inColumns_iff : InColumns item line ↔ 24 ≤ item.id.length

lemma length_itemLine (item : Plan.Item) : (itemLine item).length =
    item.id.length + 2 + max 24 item.operation.length + 2 + item.bindingName.length := by
  obtain ⟨-, -, hlength⟩ := isField_padRight 24 item.operation
  simp only [itemLine, String.length_append, hlength]
  rfl

lemma InColumns.length_eq {line : String} (h : InColumns item line) : line.length =
    max 24 item.id.length + 2 + max 24 item.operation.length + 2 + item.bindingName.length := by
  obtain ⟨id, operation, ⟨-, -, hid⟩, ⟨-, -, hoperation⟩, rfl⟩ := h
  simp only [String.length_append, hid, hoperation]
  rfl

/-- **A line is in columns just if its id is as wide as the field.** -/
lemma inColumns_itemLine_iff : InColumns item (itemLine item) ↔ 24 ≤ item.id.length := by
  constructor
  · intro h
    have hlength := h.length_eq
    rw [length_itemLine] at hlength
    omega
  · intro h
    exact ⟨item.id, padRight 24 item.operation, isField_self_iff.2 h, isField_padRight .., rfl⟩

lemma isRow_itemLine (item : Plan.Item) : IsRow item (itemLine item) where
  layout := ⟨_, isField_padRight 24 item.operation, rfl⟩
  offset := by
    have hline : (itemLine item).toList = (item.id ++ "  ").toList ++ (item.operation.toList ++
        (List.replicate (24 - item.operation.length) ' ' ++ ("  " ++ item.bindingName).toList)) := by
      simp [itemLine, padRight]
    have hlength : (item.id ++ "  ").toList.length = item.id.length + 2 := by
      simp [String.length_toList]
    rw [hline, ← hlength, List.drop_left]
    exact List.prefix_append ..
  inColumns_iff := inColumns_itemLine_iff

/-- A line has no break but in the id or the operation. -/
lemma newline_notMem_itemLine (hid : '\n' ∉ item.id.toList)
    (hoperation : '\n' ∉ item.operation.toList) : '\n' ∉ (itemLine item).toList := by
  have hkind : '\n' ∉ item.bindingName.toList := by
    unfold Plan.Item.bindingName
    split
    · rename_i storage _
      cases storage.interface <;> decide
    · decide
  simp [itemLine, padRight, hid, hoperation, hkind]

/-! ## Listing a plan -/

/-- The line of a node is that of the item that describes it. -/
lemma nodeLine_eq {g : Graph} {v : g.Vertex} (h : item.Describes g v) :
    nodeLine (g.node v) = itemLine item := by
  have hid : (g.node v).id = item.id := h.id
  have hkind : (g.node v).bindingName = item.bindingName := by
    have hbinding := h.binding
    unfold Node.bindingName Plan.Item.bindingName
    generalize item.storage = storage at hbinding ⊢
    generalize (g.node v).binding = binding at hbinding ⊢
    cases hbinding with
    | none => rfl
    | some hdescribes => exact congrArg Configuration.Interface.name hdescribes.interface
  rw [nodeLine, itemLine, hid, h.operation, hkind]

/-- **A plan is listed item by item.** -/
lemma flatten_of_isAt {h : Host} {path : String} (hp : p.IsAt h path) :
    ∃ items, p.Listed items ∧ flatten h path = ⟨0, items.map itemLine, [], []⟩ := by
  obtain ⟨hread, j, hj⟩ := hp
  obtain ⟨items, hlisted, hdescribes⟩ := (Plan.depicts_of_build hj).exists_listed
    (Plan.exists_build_eq_ok_iff.1 ⟨j, hj⟩).1
  refine ⟨items, hlisted, ?_⟩
  have hlines : (j.flatten.map fun v => nodeLine (j.graph.node v)) = items.map itemLine := by
    rw [← List.forall₂_eq_eq_eq, List.forall₂_map_left_iff, List.forall₂_map_right_iff]
    exact hdescribes.imp fun v item => nodeLine_eq
  simp only [flatten, Plan.load_eq_ok_iff.2 ⟨hread, hj⟩, hlines]

lemma flatten_of_not_isAt {h : Host} {path : String} (hno : ¬∃ p : Plan, p.IsAt h path) :
    (flatten h path).code = 1 ∧ (flatten h path).output = [] := by
  unfold flatten
  split
  · exact ⟨rfl, rfl⟩
  · rename_i p j hload
    obtain ⟨hread, hj⟩ := Plan.load_eq_ok_iff.1 hload
    exact absurd ⟨p, hread, j, hj⟩ hno

/-- **The listing of a plan.**  A plan that cannot be read, parsed or built is not listed, and the
exit code is one.  For any other plan the exit code is zero, and there is one line for each node that
the root reaches, in depth-first order; if no id and no operation has a line break, these are the
lines of the text.  The operation stands in a field, but the id does not, so the lines are in columns
just where the ids are as wide as theirs. -/
theorem run_flatten {args : List String} {path : String}
    (hargs : request? args = some (.flatten path)) :
    ((¬∃ p : Plan, p.IsAt s.host path) → (run s args).code = 1 ∧ (run s args).text = "") ∧
      ∀ p : Plan, p.IsAt s.host path → (run s args).code = 0 ∧
        ∃ items, p.Listed items ∧ List.Forall₂ IsRow items (run s args).output ∧
          ((∀ item ∈ items, '\n' ∉ item.id.toList ∧ '\n' ∉ item.operation.toList) →
            (run s args).text.toList.splitOn '\n' =
              (run s args).output.map String.toList ++ [[]]) := by
  have hrun : run s args = flatten s.host path := by
    simp only [run, hargs]
  rw [hrun]
  refine ⟨fun hno => ?_, fun p hp => ?_⟩
  · obtain ⟨hcode, houtput⟩ := flatten_of_not_isAt hno
    refine ⟨hcode, ?_⟩
    rw [Report.text, houtput]
    rfl
  · obtain ⟨items, hlisted, hflatten⟩ := flatten_of_isAt hp
    rw [hflatten]
    refine ⟨rfl, items, hlisted, ?_, fun hbreaks => ?_⟩
    · rw [List.forall₂_map_right_iff, List.forall₂_same]
      exact fun item _ => isRow_itemLine item
    · have hlines : ∀ l ∈ (items.map itemLine).map String.toList, '\n' ∉ l := by
        intro l hl
        obtain ⟨line, hline, rfl⟩ := List.mem_map.1 hl
        obtain ⟨item, hitem, rfl⟩ := List.mem_map.1 hline
        obtain ⟨hid, hoperation⟩ := hbreaks item hitem
        exact newline_notMem_itemLine hid hoperation
      rw [Report.text, Delivery.Output.toList_foldl_line]
      exact Delivery.splitOn_lines hlines

/-- A plan of two nodes. -/
def pairText : String :=
  "\x7broot: load, nodes: [\x7bid: a\x7d, \x7bid: load, dependencies: [a]\x7d]\x7d"

/-- What the text spells. -/
def pairPlan : Plan :=
  ⟨none, "load", [⟨"a", Plan.defaultOperation, [], none⟩,
    ⟨"load", Plan.defaultOperation, ["a"], none⟩]⟩

/-- Surroundings with a host that has nothing but the plan. -/
def pairSurroundings : Surroundings where
  host := .observed (fun _ => none)
    fun path => if path = "pair" then .ok pairText else .error .missing
  parent := ⟨0⟩
  run := ⟨1⟩
  startMillis := 0
  endMillis := 1
  now := ⟨0, 0⟩
  write := fun _ => .ok ()

lemma isAt_pair : pairPlan.IsAt pairSurroundings.host "pair" := by
  have hread : Plan.read? pairText = some pairPlan := by decide +kernel
  have hclosed : pairPlan.Closed := by simp [Plan.Closed, Plan.ids, pairPlan]
  -- Of the two nodes the one that depends on the other has the longer id.
  have hlevels : ∀ item ∈ pairPlan.items, 0 < item.id.length → ∀ d ∈ item.dependencies,
      0 < d.length ∧ d.length < item.id.length := by
    decide
  refine ⟨⟨pairText, rfl, hread⟩, Plan.exists_build_eq_ok_iff.2 ⟨by decide, hclosed, by decide, ?_⟩⟩
  exact fun id => Plan.not_onCycle_of_levels (by decide) hlevels

/-- The node of the root comes first, and then the one on which it depends. -/
lemma items_pair {items : List Plan.Item} (h : pairPlan.Listed items) :
    items = pairPlan.items.reverse := by
  have hload : ⟨"load", Plan.defaultOperation, ["a"], none⟩ ∈ pairPlan.items := by decide
  have ha : ⟨"a", Plan.defaultOperation, [], none⟩ ∈ pairPlan.items := by decide
  have hwalk : pairPlan.Walk [] ["load"] ["load", "a"] := by
    apply Plan.Walk.visit hload (by decide) _ .done
    exact .visit ha (by decide) .done .done
  exact h.eq_of_walk (by decide) (fun item => List.mem_reverse.1) hwalk

theorem run_flatten_pair :
    request? ["flatten", "pair"] = some (.flatten "pair") ∧
      pairPlan.IsAt pairSurroundings.host "pair" ∧
      (run pairSurroundings ["flatten", "pair"]).code = 0 ∧
      List.Forall₂ IsRow pairPlan.items.reverse
        (run pairSurroundings ["flatten", "pair"]).output ∧
      (run pairSurroundings ["flatten", "pair"]).text.toList.splitOn '\n' =
        (run pairSurroundings ["flatten", "pair"]).output.map String.toList ++ [[]] ∧
      request? ["flatten", "none"] = some (.flatten "none") ∧
      (run pairSurroundings ["flatten", "none"]).code = 1 ∧
      (run pairSurroundings ["flatten", "none"]).text = "" := by
  have hpair : request? ["flatten", "pair"] = some (.flatten "pair") := by decide +kernel
  have hnone : request? ["flatten", "none"] = some (.flatten "none") := by decide +kernel
  have hmissing : ¬∃ p : Plan, p.IsAt pairSurroundings.host "none" := by
    rintro ⟨p, ⟨text, htext, -⟩, -⟩
    cases htext
  obtain ⟨hcode, items, hlisted, hrows, htext⟩ := (run_flatten hpair).2 _ isAt_pair
  obtain rfl := items_pair hlisted
  exact ⟨hpair, isAt_pair, hcode, hrows, htext (by decide), hnone, (run_flatten hnone).1 hmissing⟩

/-- The ids of the two nodes are short, so their lines are not in columns, and their operations do
not begin at the same place. -/
theorem not_inColumns_pair :
    request? ["flatten", "pair"] = some (.flatten "pair") ∧
      pairPlan.IsAt pairSurroundings.host "pair" ∧
      (∀ item ∈ pairPlan.items, item.id.length ≤ 24 ∧ '\n' ∉ item.id.toList ∧
        '\n' ∉ item.operation.toList) ∧
      (run pairSurroundings ["flatten", "pair"]).output =
        ["load  transform                 none", "a  transform                 none"] ∧
      (∀ items, pairPlan.Listed items →
        ¬List.Forall₂ InColumns items (run pairSurroundings ["flatten", "pair"]).output) ∧
      ¬∃ n, ∀ line ∈ (run pairSurroundings ["flatten", "pair"]).output,
        Plan.defaultOperation.toList <+: line.toList.drop n := by
  have hpair : request? ["flatten", "pair"] = some (.flatten "pair") := by decide +kernel
  have houtput : (run pairSurroundings ["flatten", "pair"]).output =
      ["load  transform                 none", "a  transform                 none"] := by
    obtain ⟨items, hlisted, hflatten⟩ := flatten_of_isAt isAt_pair
    obtain rfl := items_pair hlisted
    simp only [run, hpair, hflatten]
    decide
  refine ⟨hpair, isAt_pair, by decide, houtput, fun items hlisted hcolumns => ?_, ?_⟩
  · obtain rfl := items_pair hlisted
    rw [houtput] at hcolumns
    obtain ⟨hload, -⟩ := List.forall₂_cons.1 hcolumns
    exact absurd hload.length_eq (by decide)
  · rintro ⟨n, hn⟩
    rw [houtput] at hn
    obtain ⟨hload, ha⟩ : Plan.defaultOperation.toList <+:
          "load  transform                 none".toList.drop n ∧
        Plan.defaultOperation.toList <+: "a  transform                 none".toList.drop n := by
      simpa using hn
    have hbound : n < 33 := by
      have hlength := ha.length_le
      rw [List.length_drop] at hlength
      have hline : "a  transform                 none".toList.length = 33 := by decide
      have hoperation : Plan.defaultOperation.toList.length = 9 := by decide
      omega
    have hapart : ∀ m < 33, ¬(Plan.defaultOperation.toList <+:
          "load  transform                 none".toList.drop m ∧
        Plan.defaultOperation.toList <+: "a  transform                 none".toList.drop m) := by
      decide
    exact hapart n hbound ⟨hload, ha⟩

end CommandLine

end Provenance
