import Provenance.Proofs.Json.Data
import Provenance.Proofs.Json.Token

/-!
# What a written value means

The meaning of a written value is data that can be written again.  It is canonical, it is nested no
deeper than the value was written, and its numbers are integers if they were all written as plain
ones (`Written.Means`).  What the meaning leaves out are the entries of an object that a later one
under the same key overrides, so nothing in it is new.

A number is *plain* if it is an integer of 64 bits, signed or unsigned, that is written with neither
a fraction nor an exponent, nor a sign before zero; exactly those numbers are kept as integers
(`Written.isPlain_number_iff`).
-/

namespace Provenance.Json

/-! ## Plain numbers -/

namespace Number.Literal

/-- The literal spells an integer of 64 bits by its digits. -/
structure IsPlain (l : Literal) : Prop where
  fraction : l.fraction = none
  exponent : l.exponent = none
  range : if l.negative then 0 < Decimal.value l.integer ∧
      Decimal.value l.integer ≤ UInt64.size / 2
    else Decimal.value l.integer < UInt64.size

lemma not_isInteger_of_real {x : Option Binary64} {n : Number} (h : x.map .real = some n) :
    ¬n.IsInteger := by
  obtain ⟨y, -, rfl⟩ := Option.map_eq_some_iff.1 h
  exact id

/-- **The plain literals are those that denote an integer of 64 bits.** -/
lemma isPlain_iff (l : Literal) : l.IsPlain ↔ ∃ n, l.value? = some n ∧ n.IsInteger := by
  obtain ⟨negative, integer, fraction, exponent⟩ := l
  constructor
  · rintro ⟨hfraction, hexponent, hrange⟩
    cases hfraction
    cases hexponent
    cases negative with
    | true => exact ⟨.negative (Decimal.value integer), if_pos hrange, hrange⟩
    | false => exact ⟨.natural (Decimal.value integer), if_pos hrange, hrange⟩
  · rintro ⟨n, hn, hinteger⟩
    cases fraction with
    | some ds => exact absurd hinteger (not_isInteger_of_real hn)
    | none =>
        cases exponent with
        | some e => exact absurd hinteger (not_isInteger_of_real hn)
        | none =>
            refine ⟨rfl, rfl, ?_⟩
            -- a literal outside the range is read as a floating-point number
            by_contra hrange
            cases negative with
            | true => exact not_isInteger_of_real ((if_neg hrange).symm.trans hn) hinteger
            | false => exact not_isInteger_of_real ((if_neg hrange).symm.trans hn) hinteger

end Number.Literal

namespace Written

mutual

/-- Whether all numbers in the value are written as plain integers of 64 bits. -/
def isPlain : Written → Bool
  | number (some (.natural n)) => n < UInt64.size
  | number (some (.negative n)) => 0 < n && n ≤ UInt64.size / 2
  | number _ => false
  | array items => arePlain items
  | object fields => havePlain fields
  | null => true
  | bool _ => true
  | text _ => true

/-- `isPlain` for each item of an array. -/
def arePlain : List Written → Bool
  | [] => true
  | w :: ws => isPlain w && arePlain ws

/-- `isPlain` for each value of an object. -/
def havePlain : List (Option String × Written) → Bool
  | [] => true
  | (_, w) :: fs => isPlain w && havePlain fs

end

lemma isPlain_number {n : Number} : (number (some n)).isPlain = true ↔ n.IsInteger := by
  cases n <;> simp [isPlain, Number.IsInteger]

/-- **A number is plain if and only if its literal is.** -/
lemma isPlain_number_iff (l : Number.Literal) :
    (number l.value?).isPlain = true ↔ l.IsPlain := by
  rw [l.isPlain_iff]
  constructor
  · intro h
    cases hn : l.value? with
    | none =>
        rw [hn] at h
        cases h
    | some n =>
        rw [hn] at h
        exact ⟨n, rfl, isPlain_number.1 h⟩
  · rintro ⟨n, hn, hinteger⟩
    rw [hn]
    exact isPlain_number.2 hinteger

/-! ## Meaning -/

/-- `v` is what `w` means, as far as it matters for writing `v` again. -/
structure Means (w : Written) (v : Json) : Prop where
  canonical : v.canonical = v
  depth_le : (ofJson v).depth ≤ w.depth
  integral : w.isPlain = true → v.IsIntegral

lemma means_items {ws : List Written} {vs : List Json} (h : List.Forall₂ Means ws vs) :
    canonicalItems vs = vs ∧ depthItems (ofItems vs) ≤ depthItems ws ∧
      (arePlain ws = true → AreIntegral vs) := by
  induction h with
  | nil => exact ⟨rfl, Nat.le_refl 0, fun _ => trivial⟩
  | cons hv _ ih =>
      obtain ⟨hcanonical, hdepth, hintegral⟩ := ih
      refine ⟨?_, ?_, fun hplain => ?_⟩
      · rw [canonicalItems, hv.canonical, hcanonical]
      · exact Nat.max_le.2 ⟨Nat.le_trans hv.depth_le (Nat.le_max_left _ _),
          Nat.le_trans hdepth (Nat.le_max_right _ _)⟩
      · obtain ⟨hw, hws⟩ := Bool.and_eq_true_iff.1 hplain
        exact ⟨hv.integral hw, hintegral hws⟩

lemma means_fields {fs : List (Option String × Written)} {es : List (String × Json)}
    (h : List.Forall₂ (fun f e => Means f.2 e.2) fs es) : ∀ e ∈ es,
      e.2.canonical = e.2 ∧ (ofJson e.2).depth ≤ depthFields fs ∧
        (havePlain fs = true → e.2.IsIntegral) := by
  induction h with
  | nil => simp
  | cons hv _ ih =>
      intro e he
      rcases List.mem_cons.1 he with rfl | he
      · refine ⟨hv.canonical, Nat.le_trans hv.depth_le (Nat.le_max_left _ _), fun hplain => ?_⟩
        exact hv.integral (Bool.and_eq_true_iff.1 hplain).1
      · obtain ⟨hcanonical, hdepth, hintegral⟩ := ih e he
        refine ⟨hcanonical, Nat.le_trans hdepth (Nat.le_max_right _ _), fun hplain => ?_⟩
        exact hintegral (Bool.and_eq_true_iff.1 hplain).2

/-- An object is no deeper than a bound above all its values. -/
lemma depthFields_ofFields_le {es : List (String × Json)} {n : ℕ}
    (h : ∀ e ∈ es, (ofJson e.2).depth ≤ n) : depthFields (ofFields es) ≤ n := by
  induction es with
  | nil => exact Nat.zero_le n
  | cons e es ih =>
      obtain ⟨he, hes⟩ := List.forall_mem_cons.1 h
      exact Nat.max_le.2 ⟨he, ih hes⟩

mutual

/-- **The meaning of a written value** can be written again. -/
lemma means_of_value? : ∀ (w : Written) {v : Json}, w.value? = some v → Means w v
  | null, v, h => by
      obtain rfl := Option.some.inj h
      exact ⟨rfl, Nat.le_refl _, fun _ => trivial⟩
  | bool b, v, h => by
      obtain rfl := Option.some.inj h
      exact ⟨rfl, Nat.le_refl _, fun _ => trivial⟩
  | number n, v, h => by
      obtain ⟨m, rfl, rfl⟩ := Option.map_eq_some_iff.1 h
      exact ⟨rfl, Nat.le_refl _, fun hplain => isPlain_number.1 hplain⟩
  | text s, v, h => by
      obtain ⟨t, rfl, rfl⟩ := Option.map_eq_some_iff.1 h
      exact ⟨rfl, Nat.le_refl _, fun _ => trivial⟩
  | array items, v, h => by
      obtain ⟨vs, hvs, rfl⟩ := Option.map_eq_some_iff.1 h
      obtain ⟨hcanonical, hdepth, hintegral⟩ := means_items (means_of_values? items hvs)
      exact ⟨by rw [Json.canonical, hcanonical], Nat.succ_le_succ hdepth, hintegral⟩
  | object fields, v, h => by
      obtain ⟨es, hes, rfl⟩ := Option.map_eq_some_iff.1 h
      have hall : ∀ e ∈ Entries.ofSettings es, e.2.canonical = e.2 ∧
          (ofJson e.2).depth ≤ depthFields fields ∧ (havePlain fields = true → e.2.IsIntegral) :=
        fun e he => means_fields (means_of_entries? fields hes) e (Entries.mem_ofSettings he)
      refine ⟨?_, ?_, fun hplain => ?_⟩
      · exact canonical_object_of_sorted (Entries.sorted_ofSettings es) fun e he => (hall e he).1
      · exact Nat.succ_le_succ (depthFields_ofFields_le fun e he => (hall e he).2.1)
      · exact haveIntegral_iff.2 fun e he => (hall e he).2.2 hplain

lemma means_of_values? : ∀ (ws : List Written) {vs : List Json}, values? ws = some vs →
    List.Forall₂ Means ws vs
  | [], vs, h => by
      obtain rfl := Option.some.inj h
      exact .nil
  | w :: ws, vs, h => by
      simp only [values?, Option.bind_eq_bind, Option.bind_eq_some_iff] at h
      obtain ⟨v, hv, vs, hvs, h⟩ := h
      obtain rfl := Option.some.inj h
      exact .cons (means_of_value? w hv) (means_of_values? ws hvs)

lemma means_of_entries? : ∀ (fs : List (Option String × Written)) {es : List (String × Json)},
    entries? fs = some es → List.Forall₂ (fun f e => Means f.2 e.2) fs es
  | [], es, h => by
      obtain rfl := Option.some.inj h
      exact .nil
  | (k, w) :: fs, es, h => by
      simp only [entries?, Option.bind_eq_bind, Option.bind_eq_some_iff] at h
      obtain ⟨key, -, v, hv, es, hes, h⟩ := h
      obtain rfl := Option.some.inj h
      exact .cons (means_of_value? w hv) (means_of_entries? fs hes)

end

end Written

end Provenance.Json
