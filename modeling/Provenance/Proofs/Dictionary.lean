import Mathlib.Data.List.Dedup
import Mathlib.Data.List.Sort
import Provenance.Dictionary

/-!
# Dictionaries

A dictionary is determined by its entries, and its entries as settings make it up again
(`ofSettings_entries`).  Setting a key twice leaves the second value (`insert_insert`); what is kept
under all other keys stays as it is (`get?_insert`, `filter_ne_insert`).

Since its entries are sorted, a dictionary is also determined by its look-ups (`eq_of_get?_eq`).  So
of a history of settings it keeps the last one of each key (`LastSets`) and nothing else
(`ofSettings_eq_iff`).
-/

namespace Provenance

namespace Entries

variable {β : Type u}

/-- Whether entries are sorted can be told from their keys. -/
lemma sorted_of_keys {es : List (String × β)} {ks : List String} (hks : es.map (·.1) = ks)
    (h : ks.Pairwise (· < ·)) : Sorted es := by
  rw [← hks, List.pairwise_map] at h
  exact h

lemma Sorted.nodup_keys {es : List (String × β)} (h : Sorted es) : (es.map (·.1)).Nodup := by
  rw [List.Nodup, List.pairwise_map]
  refine h.imp fun {a b} hlt heq => ?_
  rw [heq] at hlt
  exact Std.lt_irrefl hlt

/-- Setting the value at a key is seen at that key and at no other. -/
lemma find?_insert (k k' : String) (v : β) (es : List (String × β)) :
    find? k (insert k' v es) = if k' = k then some v else find? k es := by
  induction es with
  | nil => rfl
  | cons e es ih =>
      rw [insert]
      split
      · rw [find?]
      · split
        · rename_i heq
          rw [find?, find?, heq]
          split <;> rfl
        · rename_i hne
          rw [find?, find?, ih]
          split
          · rename_i hk
            rw [if_neg (hk ▸ hne)]
          · rfl

lemma find?_insert_self (k : String) (v : β) (es : List (String × β)) :
    find? k (insert k v es) = some v := by
  rw [find?_insert, if_pos rfl]

lemma find?_eq_none {k : String} {es : List (String × β)} (h : ∀ e ∈ es, e.1 ≠ k) :
    find? k es = none := by
  induction es with
  | nil => rfl
  | cons e es ih =>
      obtain ⟨he, hes⟩ := List.forall_mem_cons.1 h
      rw [find?, if_neg he, ih hes]

lemma isSome_find?_iff (k : String) (es : List (String × β)) :
    (find? k es).isSome = true ↔ k ∈ es.map (·.1) := by
  induction es with
  | nil => simp [find?]
  | cons e es ih =>
      rw [find?, List.map_cons, List.mem_cons]
      split
      · rename_i hk
        simp [hk]
      · rename_i hk
        rw [ih, or_iff_right (Ne.symm hk)]

/-- The value at a key is the first one that is listed under it. -/
lemma lookup_eq_find? (k : String) (es : List (String × β)) : es.lookup k = find? k es := by
  induction es with
  | nil => rfl
  | cons e es ih =>
      rw [List.lookup_cons, find?, ih]
      split
      · rename_i hk
        rw [if_pos (eq_of_beq hk).symm]
      · rename_i hk
        rw [if_neg (Ne.symm (ne_of_beq_false hk))]

/-- Entries in order list a key once, if it has a value. -/
lemma Sorted.filter_eq {es : List (String × β)} (h : Sorted es) (k : String) :
    es.filter (·.1 == k) = (find? k es).toList.map (k, ·) := by
  induction es with
  | nil => rfl
  | cons e es ih =>
      obtain ⟨hhead, htail⟩ := List.pairwise_cons.1 h
      by_cases hk : e.1 = k
      · have hothers : es.filter (·.1 == k) = [] := by
          refine List.filter_eq_nil_iff.2 fun e' he' heq => ?_
          have hlt : e.1 < e'.1 := hhead e' he'
          rw [hk, eq_of_beq heq] at hlt
          exact Std.lt_irrefl hlt
        rw [List.filter_cons_of_pos (by simpa using hk), hothers, find?, if_pos hk, ← hk]
        rfl
      · rw [List.filter_cons_of_neg (by simpa using hk), ih htail, find?, if_neg hk]

/-- An entry of a sorted list is what a look-up of its key finds. -/
lemma Sorted.mem_iff {es : List (String × β)} (h : Sorted es) {k : String} {v : β} :
    (k, v) ∈ es ↔ find? k es = some v := by
  have hfilter : (k, v) ∈ es ↔ (k, v) ∈ es.filter (·.1 == k) := by simp
  rw [hfilter, h.filter_eq]
  simp

/-- Entries in order are determined by which of them there are. -/
lemma Sorted.eq_of_mem_iff {es es' : List (String × β)} (h : Sorted es) (h' : Sorted es')
    (hmem : ∀ e, e ∈ es ↔ e ∈ es') : es = es' := by
  have : Std.Irrefl fun a b : String × β => a.1 < b.1 := ⟨fun _ => Std.lt_irrefl⟩
  have : Std.Antisymm fun a b : String × β => a.1 < b.1 :=
    ⟨fun _ _ hab hba => absurd (Std.lt_trans hab hba) Std.lt_irrefl⟩
  exact List.Pairwise.eq_of_mem_iff h h' hmem

/-- Setting a key leaves the entries under other keys as they are. -/
lemma filter_ne_insert (k : String) (v : β) (es : List (String × β)) :
    (insert k v es).filter (·.1 != k) = es.filter (·.1 != k) := by
  induction es with
  | nil => simp [insert]
  | cons e es ih =>
      obtain ⟨k', w⟩ := e
      rw [insert]
      split
      · rw [List.filter_cons_of_neg (by simp)]
      · split
        · rename_i heq
          rw [List.filter_cons_of_neg (by simp), List.filter_cons_of_neg (by simp [heq])]
        · rw [List.filter_cons, List.filter_cons, ih]

/-- Of two values that are set at one key the second is kept. -/
lemma insert_insert (k : String) (v v' : β) (es : List (String × β)) :
    insert k v' (insert k v es) = insert k v' es := by
  have hself : ∀ es : List (String × β), insert k v' ((k, v) :: es) = (k, v') :: es := by
    intro es
    rw [insert, if_neg Std.lt_irrefl, if_pos rfl]
  induction es with
  | nil => exact hself []
  | cons e es ih =>
      obtain ⟨k', w⟩ := e
      rw [insert, insert]
      split
      · exact hself _
      · split
        · exact hself _
        · rename_i hnlt hne
          rw [insert, if_neg hnlt, if_neg hne, ih]

/-! ### The last of several settings -/

/-- The last one of the settings of a key sets it to the value. -/
def LastSets (settings : List (String × β)) (k : String) (v : β) : Prop :=
  ∃ before after, settings = before ++ (k, v) :: after ∧ k ∉ after.map (·.1)

/-- Where a key is set there is a last setting of it. -/
lemma exists_lastSets {settings : List (String × β)} {k : String}
    (h : k ∈ settings.map (·.1)) : ∃ v, LastSets settings k v := by
  induction settings with
  | nil => cases h
  | cons s settings ih =>
      by_cases hlater : k ∈ settings.map (·.1)
      · obtain ⟨v, before, after, rfl, hlast⟩ := ih hlater
        exact ⟨v, s :: before, after, rfl, hlast⟩
      · have hs : s.1 = k := ((List.mem_cons.1 h).resolve_right hlater).symm
        refine ⟨s.2, [], settings, ?_, hlater⟩
        rw [← hs]
        rfl

end Entries

namespace Dictionary

variable {β : Type u}

lemma eq_of_entries_eq {d d' : Dictionary β} (h : d.entries = d'.entries) : d = d' := by
  obtain ⟨es, hes⟩ := d
  obtain ⟨es', hes'⟩ := d'
  obtain rfl : es = es' := h
  rfl

lemma get?_insert (d : Dictionary β) (k k' : String) (v : β) :
    (d.insert k' v).get? k = if k' = k then some v else d.get? k :=
  Entries.find?_insert k k' v d.entries

lemma get?_insert_self (d : Dictionary β) (k : String) (v : β) : (d.insert k v).get? k = some v :=
  Entries.find?_insert_self k v d.entries

lemma contains_iff (d : Dictionary β) (k : String) : d.contains k = true ↔ k ∈ d.keys :=
  Entries.isSome_find?_iff k d.entries

lemma contains_eq_false {d : Dictionary β} {k : String} (h : ∀ e ∈ d.entries, e.1 ≠ k) :
    d.contains k = false := by
  rw [contains, get?, Entries.find?_eq_none h]
  rfl

/-- An entry of a dictionary in which a key has been set is that of the key or an earlier one. -/
lemma mem_entries_insert {d : Dictionary β} {k : String} {v : β} {e : String × β}
    (h : e ∈ (d.insert k v).entries) : e = (k, v) ∨ e ∈ d.entries :=
  Entries.mem_insert h

lemma insert_insert (d : Dictionary β) (k : String) (v v' : β) :
    (d.insert k v).insert k v' = d.insert k v' :=
  eq_of_entries_eq (Entries.insert_insert k v v' d.entries)

lemma entries_ofSettings (settings : List (String × β)) :
    (ofSettings settings).entries = Entries.ofSettings settings := by
  have hfold : ∀ d : Dictionary β,
      (settings.foldl (fun d s => d.insert s.1 s.2) d).entries =
        settings.foldl (fun es s => Entries.insert s.1 s.2 es) d.entries := by
    induction settings with
    | nil => exact fun d => rfl
    | cons s settings ih => exact fun d => ih (d.insert s.1 s.2)
  exact hfold empty

/-- **The entries of a dictionary, taken as settings, are the dictionary.** -/
lemma ofSettings_entries (d : Dictionary β) : ofSettings d.entries = d := by
  refine eq_of_entries_eq ?_
  rw [entries_ofSettings, Entries.ofSettings_of_sorted d.sorted]

/-! ## Dictionaries by their history -/

open Entries (LastSets)

lemma mem_entries_iff {d : Dictionary β} {k : String} {v : β} :
    (k, v) ∈ d.entries ↔ d.get? k = some v :=
  d.sorted.mem_iff

/-- **A dictionary is what it answers.** -/
lemma eq_of_get?_eq {d d' : Dictionary β} (h : ∀ k, d.get? k = d'.get? k) : d = d' := by
  apply eq_of_entries_eq
  apply d.sorted.eq_of_mem_iff d'.sorted
  rintro ⟨k, v⟩
  rw [mem_entries_iff, mem_entries_iff, h k]

section History

variable {settings : List (String × β)} {k : String} {v : β}

/-- A key that is not set keeps its value. -/
lemma get?_foldl_insert_of_notMem (h : k ∉ settings.map (·.1)) (d : Dictionary β) :
    (settings.foldl (fun d s => d.insert s.1 s.2) d).get? k = d.get? k := by
  induction settings generalizing d with
  | nil => rfl
  | cons s settings ih =>
      obtain ⟨hs, hlater⟩ := not_or.1 (mt List.mem_cons.2 h)
      calc (settings.foldl (fun d s => d.insert s.1 s.2) (d.insert s.1 s.2)).get? k
          = (d.insert s.1 s.2).get? k := ih hlater _
        _ = d.get? k := by rw [get?_insert, if_neg (Ne.symm hs)]

/-- **The last setting of a key counts.** -/
lemma get?_foldl_insert_of_lastSets (h : LastSets settings k v) (d : Dictionary β) :
    (settings.foldl (fun d s => d.insert s.1 s.2) d).get? k = some v := by
  obtain ⟨before, after, rfl, hlater⟩ := h
  rw [List.foldl_append, List.foldl_cons, get?_foldl_insert_of_notMem hlater]
  exact get?_insert_self _ k v

lemma get?_ofSettings_eq_some_iff :
    (ofSettings settings).get? k = some v ↔ LastSets settings k v := by
  refine ⟨fun h => ?_, fun h => get?_foldl_insert_of_lastSets h empty⟩
  by_cases hset : k ∈ settings.map (·.1)
  · obtain ⟨last, hlast⟩ := Entries.exists_lastSets hset
    have hvalue : (ofSettings settings).get? k = some last :=
      get?_foldl_insert_of_lastSets hlast empty
    rw [hvalue] at h
    exact Option.some.inj h ▸ hlast
  · have hnone : (ofSettings settings).get? k = none := get?_foldl_insert_of_notMem hset empty
    rw [hnone] at h
    cases h

lemma get?_ofSettings_eq_none_iff :
    (ofSettings settings).get? k = none ↔ k ∉ settings.map (·.1) := by
  refine ⟨fun h hset => ?_, fun h => get?_foldl_insert_of_notMem h empty⟩
  obtain ⟨last, hlast⟩ := Entries.exists_lastSets hset
  rw [get?_ofSettings_eq_some_iff.2 hlast] at h
  cases h

/-- Two histories come to the same if and only if they give the same last value to each key. -/
lemma ofSettings_eq_iff {other : List (String × β)} : ofSettings settings = ofSettings other ↔
    ∀ k v, LastSets settings k v ↔ LastSets other k v := by
  simp only [← get?_ofSettings_eq_some_iff]
  constructor
  · intro h k v
    rw [h]
  · intro h
    exact eq_of_get?_eq fun k => Option.ext (h k)

/-- The size counts each key that has been set once. -/
lemma size_ofSettings (settings : List (String × β)) :
    (ofSettings settings).size = (settings.map (·.1)).dedup.length := by
  have hmem : ∀ k, k ∈ (ofSettings settings).keys ↔ k ∈ (settings.map (·.1)).dedup := by
    intro k
    rw [← contains_iff, List.mem_dedup, contains, Option.isSome_iff_ne_none, ne_eq,
      get?_ofSettings_eq_none_iff, not_not]
  have hnodup : (ofSettings settings).keys.Nodup := (ofSettings settings).sorted.nodup_keys
  have hkeys : (ofSettings settings).keys.Perm (settings.map (·.1)).dedup :=
    (List.perm_ext_iff_of_nodup hnodup (List.nodup_dedup _)).2 hmem
  rw [← hkeys.length_eq, keys, List.length_map, size]

end History

end Dictionary

end Provenance
