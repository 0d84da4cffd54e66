/-!
# Dictionaries

A *dictionary* is a finite map from texts to values that lists its entries by strictly increasing
key, in the order of code points.  Configurations, naming registries, extra run facets and JSON
objects are dictionaries, and each of them shows that order to its reader.

The listing is the map: two dictionaries that answer every look-up alike have the same entries, so
equality of dictionaries is equality of what they hold, whatever the history of insertions.

The operations on entry lists stand by themselves (`Entries`), because a recursive type such as a
JSON value has to hold the plain list; `Dictionary` packs a list with the proof that it is sorted.
-/

namespace Provenance

/-! ## Entry lists -/

namespace Entries

variable {β : Type u}

/-- The entries stand in strictly increasing order of their keys. -/
def Sorted (es : List (String × β)) : Prop :=
  es.Pairwise fun a b => a.1 < b.1

/-- The value at a key. -/
def find? (k : String) : List (String × β) → Option β
  | [] => none
  | (k', v) :: es => if k' = k then some v else find? k es

/-- Set the value at a key, in its place in the order; a value that is there already is replaced. -/
def insert (k : String) (v : β) : List (String × β) → List (String × β)
  | [] => [(k, v)]
  | (k', v') :: es =>
    if k < k' then (k, v) :: (k', v') :: es
    else if k = k' then (k, v) :: es
    else (k', v') :: insert k v es

/-- The dictionary of a list of settings, of which a later one overrides an earlier one. -/
def ofSettings (settings : List (String × β)) : List (String × β) :=
  settings.foldl (fun es s => insert s.1 s.2 es) []

theorem mem_insert {k : String} {v : β} {e : String × β} :
    ∀ {es : List (String × β)}, e ∈ insert k v es → e = (k, v) ∨ e ∈ es
  | [], h => by simpa [insert] using h
  | (k', v') :: es, h => by
    unfold insert at h
    split at h
    · simpa using h
    · split at h
      · rcases List.mem_cons.1 h with h | h
        · exact .inl h
        · exact .inr (List.mem_cons_of_mem _ h)
      · rcases List.mem_cons.1 h with h | h
        · exact .inr (h ▸ List.mem_cons_self)
        · exact (mem_insert h).imp id (List.mem_cons_of_mem _)

theorem Sorted.insert {k : String} {v : β} :
    ∀ {es : List (String × β)}, Sorted es → Sorted (insert k v es)
  | [], _ => List.pairwise_singleton _ _
  | (k', v') :: es, h => by
    have ⟨hhead, htail⟩ := List.pairwise_cons.1 h
    unfold Entries.insert
    split
    · rename_i hlt
      refine List.pairwise_cons.2 ⟨fun e he => ?_, h⟩
      rcases List.mem_cons.1 he with rfl | he
      · exact hlt
      · exact Std.lt_trans hlt (hhead e he)
    · rename_i hnlt
      split
      · rename_i heq
        exact List.pairwise_cons.2 ⟨fun e he => heq ▸ hhead e he, htail⟩
      · rename_i hne
        refine List.pairwise_cons.2 ⟨fun e he => ?_, Sorted.insert htail⟩
        rcases mem_insert he with rfl | he
        · rcases Std.lt_trichotomy k k' with hlt | heq | hgt
          · exact absurd hlt hnlt
          · exact absurd heq hne
          · exact hgt
        · exact hhead e he

theorem sorted_foldl_insert (settings : List (String × β)) :
    ∀ {es : List (String × β)}, Sorted es →
      Sorted (settings.foldl (fun es s => Entries.insert s.1 s.2 es) es) := by
  induction settings with
  | nil => exact id
  | cons s settings ih => exact fun h => ih h.insert

theorem sorted_ofSettings (settings : List (String × β)) : Sorted (ofSettings settings) :=
  sorted_foldl_insert settings List.Pairwise.nil

theorem mem_foldl_insert {e : String × β} (settings : List (String × β)) :
    ∀ {es : List (String × β)}, e ∈ settings.foldl (fun es s => insert s.1 s.2 es) es →
      e ∈ settings ∨ e ∈ es := by
  induction settings with
  | nil => exact .inr
  | cons s settings ih =>
    intro es h
    rcases ih h with h | h
    · exact .inl (List.mem_cons_of_mem _ h)
    · rcases mem_insert h with rfl | h
      · exact .inl List.mem_cons_self
      · exact .inr h

/-- Every entry of the dictionary of a list of settings is one of the settings. -/
theorem mem_ofSettings {e : String × β} {settings : List (String × β)}
    (h : e ∈ ofSettings settings) : e ∈ settings := by
  simpa using mem_foldl_insert settings h

/-- An entry whose key is greater than all others goes to the end. -/
theorem insert_of_lt {k : String} {v : β} :
    ∀ {es : List (String × β)}, (∀ e ∈ es, e.1 < k) → insert k v es = es ++ [(k, v)]
  | [], _ => rfl
  | (k', v') :: es, h => by
    have hlt : k' < k := h _ List.mem_cons_self
    have hnlt : ¬k < k' := fun hgt => Std.lt_irrefl (Std.lt_trans hlt hgt)
    have hne : k ≠ k' := fun heq => Std.lt_irrefl (heq ▸ hlt)
    rw [insert, if_neg hnlt, if_neg hne, List.cons_append,
      insert_of_lt fun e he => h e (List.mem_cons_of_mem _ he)]

theorem foldl_insert_of_sorted (settings : List (String × β)) :
    ∀ {es : List (String × β)}, Sorted (es ++ settings) →
      settings.foldl (fun es s => insert s.1 s.2 es) es = es ++ settings := by
  induction settings with
  | nil => simp
  | cons s settings ih =>
    intro es h
    have hlt : ∀ e ∈ es, e.1 < s.1 := fun e he =>
      (List.pairwise_append.1 h).2.2 e he s List.mem_cons_self
    have hsorted : Sorted (es ++ [s] ++ settings) := by simpa using h
    rw [List.foldl_cons, insert_of_lt hlt, ih hsorted]
    simp

/-- Entries in order are the dictionary of themselves. -/
theorem ofSettings_of_sorted {es : List (String × β)} (h : Sorted es) : ofSettings es = es := by
  exact foldl_insert_of_sorted es (by simpa using h)

end Entries

/-! ## Dictionaries -/

/-- A finite map from texts to values, listed by increasing key. -/
structure Dictionary (β : Type u) where
  entries : List (String × β)
  sorted : Entries.Sorted entries
  deriving DecidableEq

namespace Dictionary

variable {β : Type u}

/-- The dictionary that holds nothing. -/
def empty : Dictionary β :=
  ⟨[], List.Pairwise.nil⟩

instance : EmptyCollection (Dictionary β) := ⟨empty⟩
instance : Inhabited (Dictionary β) := ⟨empty⟩

/-- The value at a key. -/
def get? (d : Dictionary β) (k : String) : Option β :=
  Entries.find? k d.entries

/-- Whether a key has a value. -/
def contains (d : Dictionary β) (k : String) : Bool :=
  (d.get? k).isSome

/-- Set the value at a key. -/
def insert (d : Dictionary β) (k : String) (v : β) : Dictionary β :=
  ⟨Entries.insert k v d.entries, d.sorted.insert⟩

/-- The dictionary of a list of settings, of which a later one overrides an earlier one. -/
def ofSettings (settings : List (String × β)) : Dictionary β :=
  settings.foldl (fun d s => d.insert s.1 s.2) empty

/-- The keys, in increasing order. -/
def keys (d : Dictionary β) : List String :=
  d.entries.map (·.1)

/-- How many keys have a value. -/
def size (d : Dictionary β) : Nat :=
  d.entries.length

/-- Whether no key has a value. -/
def isEmpty (d : Dictionary β) : Bool :=
  d.entries.isEmpty

end Dictionary

end Provenance
