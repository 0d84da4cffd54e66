import Mathlib.Data.List.Induction
import Provenance.Proofs.Text.Characters
import Provenance.Text.Decimal

/-!
# Decimal notation, written and read

What a number's digits count is the number, with leading zeros or without.  Readers cut digits off
the front of a text, some of them up to a limit; what they cut off is all that was written, unless
more digits follow (`spanDigits_append`, `spanAllDigits_append`).
-/

namespace Provenance

namespace Decimal

/-! ## Digits -/

lemma isDigit_digit {d : ℕ} (h : d < 10) : (digit d).isDigit = true := by
  have hall : ∀ d < 10, (digit d).isDigit = true := by decide
  exact hall d h

lemma digitValue_digit {d : ℕ} (h : d < 10) : digitValue (digit d) = d := by
  have hall : ∀ d < 10, digitValue (digit d) = d := by decide
  exact hall d h

lemma digitValue_lt {c : Char} (h : c.isDigit = true) : digitValue c < 10 := by
  have hrange : 48 ≤ c.toNat ∧ c.toNat ≤ 57 := Text.toNat_of_isDigit h
  show c.toNat - 48 < 10
  omega

lemma isDigit_of_mem_digits {n : ℕ} {c : Char} (h : c ∈ digits n) : c.isDigit = true := by
  induction n using digits.induct with
  | case1 n hn =>
      rw [digits, if_pos hn, List.mem_singleton] at h
      exact h ▸ isDigit_digit hn
  | case2 n hn ih =>
      rw [digits, if_neg hn, List.mem_append, List.mem_singleton] at h
      rcases h with h | rfl
      · exact ih h
      · exact isDigit_digit (Nat.mod_lt n (by decide))

lemma digits_ne_nil (n : ℕ) : digits n ≠ [] := by
  rw [digits]
  split <;> simp

/-- A number below a power of ten has no more digits than the power has zeros. -/
lemma length_digits_le {width n : ℕ} (h : n < power (width + 1)) :
    (digits n).length ≤ width + 1 := by
  induction width generalizing n with
  | zero =>
      have hlt : n < 10 := h
      rw [digits, if_pos hlt]
      exact Nat.le_refl 1
  | succ width ih =>
      rw [digits]
      split
      · simp
      · have hdiv : n / 10 < power (width + 1) := by
          rw [Nat.div_lt_iff_lt_mul (by decide)]
          exact h
        rw [List.length_append, List.length_singleton]
        exact Nat.succ_le_succ (ih hdiv)

/-- No digits of a number stand behind a leading zero. -/
lemma digits_eq_cons_zero {n : ℕ} {ds : List Char} (h : digits n = '0' :: ds) :
    n = 0 ∧ ds = [] := by
  induction n using digits.induct generalizing ds with
  | case1 n hn =>
      rw [digits, if_pos hn] at h
      obtain ⟨hd, hds⟩ := List.cons.inj h
      have hzero : digitValue (digit n) = 0 := hd ▸ rfl
      exact ⟨(digitValue_digit hn).symm.trans hzero, hds.symm⟩
  | case2 n hn ih =>
      rw [digits, if_neg hn] at h
      cases hds : digits (n / 10) with
      | nil => exact absurd hds (digits_ne_nil _)
      | cons d rest =>
          rw [hds] at h
          obtain ⟨rfl, -⟩ := List.cons.inj h
          have hzero : n / 10 = 0 := (ih hds).1
          omega

/-! ## Values -/

lemma value_append_singleton (cs : List Char) (c : Char) :
    value (cs ++ [c]) = value cs * 10 + digitValue c := by
  simp [value]

/-- Digits count less than a power of ten with as many zeros. -/
lemma value_lt_power {cs : List Char} (h : ∀ c ∈ cs, c.isDigit = true) :
    value cs < power cs.length := by
  induction cs using List.reverseRecOn with
  | nil => decide
  | append_singleton cs c ih =>
      have hlt : value cs < power cs.length := ih fun d hd => h d (List.mem_append_left _ hd)
      have hc : digitValue c < 10 := digitValue_lt (h c (by simp))
      have hpower : power (cs.length + 1) = power cs.length * 10 := rfl
      rw [value_append_singleton, List.length_append, List.length_singleton, hpower]
      omega

lemma value_digits (n : ℕ) : value (digits n) = n := by
  induction n using digits.induct with
  | case1 n hn =>
      rw [digits, if_pos hn]
      simp [value, digitValue_digit hn]
  | case2 n hn ih =>
      have hlast : digitValue (digit (n % 10)) = n % 10 :=
        digitValue_digit (Nat.mod_lt n (by decide))
      rw [digits, if_neg hn, value_append_singleton, ih, hlast]
      omega

/-- Leading zeros count nothing. -/
lemma value_zeros_append (k : ℕ) (cs : List Char) :
    value (List.replicate k '0' ++ cs) = value cs := by
  have hzeros : (List.replicate k '0').foldl (fun n c => n * 10 + digitValue c) 0 = 0 := by
    induction k with
    | zero => rfl
    | succ k ih => exact ih
  rw [value, List.foldl_append, hzeros]
  rfl

/-! ## Fields of a fixed width -/

lemma value_padded (width n : ℕ) : value (padded width n) = n := by
  rw [padded, value_zeros_append, value_digits]

lemma length_padded {width n : ℕ} (h : n < power (width + 1)) :
    (padded (width + 1) n).length = width + 1 := by
  have hle : (digits n).length ≤ width + 1 := length_digits_le h
  rw [padded, List.length_append, List.length_replicate]
  omega

lemma isDigit_of_mem_padded {width n : ℕ} {c : Char} (h : c ∈ padded width n) :
    c.isDigit = true := by
  rw [padded, List.mem_append] at h
  rcases h with h | h
  · rw [List.eq_of_mem_replicate h]
    rfl
  · exact isDigit_of_mem_digits h

lemma padded_ne_nil (width n : ℕ) : padded width n ≠ [] := by
  simp [padded, digits_ne_nil]

/-! ## Cutting digits off a text -/

lemma spanDigits_append {limit : ℕ} {ds rest : List Char} (hds : ∀ c ∈ ds, c.isDigit = true)
    (hlimit : ds.length ≤ limit) (hrest : ds.length = limit ∨ ∀ c ∈ rest.head?, c.isDigit = false) :
    spanDigits limit (ds ++ rest) = (ds, rest) := by
  induction ds generalizing limit with
  | nil =>
      cases limit with
      | zero => rfl
      | succ limit =>
          cases rest with
          | nil => rfl
          | cons c rest =>
              have hc : c.isDigit = false := by simpa using hrest
              simp [spanDigits, hc]
  | cons c ds ih =>
      cases limit with
      | zero => simp at hlimit
      | succ limit =>
          have hc : c.isDigit = true := hds c List.mem_cons_self
          have hspan : spanDigits limit (ds ++ rest) = (ds, rest) :=
            ih (fun d hd => hds d (List.mem_cons_of_mem c hd)) (Nat.le_of_succ_le_succ hlimit)
              (hrest.imp_left Nat.succ.inj)
          simp [spanDigits, hc, hspan]

lemma spanAllDigits_append {ds rest : List Char} (hds : ∀ c ∈ ds, c.isDigit = true)
    (hrest : ∀ c ∈ rest.head?, c.isDigit = false) : spanAllDigits (ds ++ rest) = (ds, rest) :=
  Text.span_append hds hrest

end Decimal

end Provenance
