import Mathlib.Data.List.Basic
import Provenance.RunId

/-!
# Run identifiers, written and read

An identifier is read back from its text: the hyphens are dropped again, and the digits count its
number.
-/

namespace Provenance.RunId

/-! ## Digits -/

lemma length_hexDigits (width n : ℕ) : (hexDigits width n).length = width := by
  induction width generalizing n with
  | zero => rfl
  | succ width ih => rw [hexDigits, List.length_append, ih, List.length_singleton]

lemma digitValue?_hexDigit {n : ℕ} (h : n < 16) : digitValue? (Json.hexDigit n) = some n := by
  have hall : ∀ n < 16, digitValue? (Json.hexDigit n) = some n := by decide
  exact hall n h

/-- The digits of a number count the number, as far as the width goes. -/
lemma exists_values_hexDigits (width n : ℕ) : ∃ ds, (hexDigits width n).mapM digitValue? = some ds ∧
    ds.foldl (fun n d => n * 16 + d) 0 = n % Nat.pow 16 width := by
  induction width generalizing n with
  | zero => exact ⟨[], rfl, (Nat.mod_one n).symm⟩
  | succ width ih =>
      obtain ⟨ds, hds, hvalue⟩ := ih (n / 16)
      have hlast : digitValue? (Json.hexDigit (n % 16)) = some (n % 16) :=
        digitValue?_hexDigit (Nat.mod_lt n (by decide))
      refine ⟨ds ++ [n % 16], ?_, ?_⟩
      · rw [hexDigits, List.mapM_append, hds]
        simp [hlast]
      · have hpow : Nat.pow 16 (width + 1) = 16 * Nat.pow 16 width := Nat.pow_succ'
        rw [List.foldl_append, hvalue, hpow, Nat.mod_mul]
        simp only [List.foldl_cons, List.foldl_nil]
        omega

lemma ofDigits?_hexDigits (id : RunId) : ofDigits? (hexDigits 32 id.bits.toNat) = some id := by
  obtain ⟨ds, hds, hvalue⟩ := exists_values_hexDigits 32 id.bits.toNat
  have hlt : id.bits.toNat < Nat.pow 16 32 := id.bits.isLt
  rw [Nat.mod_eq_of_lt hlt] at hvalue
  have hlength : ¬(hexDigits 32 id.bits.toNat).length ≠ 32 := by simp [length_hexDigits]
  simp only [ofDigits?, if_neg hlength, hds, Option.bind_eq_bind, Option.bind_some, hvalue, ofNat,
    BitVec.ofNat_toNat, BitVec.setWidth_eq]

/-! ## Hyphens -/

lemma dropHyphens?_groups {a b c d e : List Char} (ha : a.length = 8) (hb : b.length = 4)
    (hc : c.length = 4) (hd : d.length = 4) (he : e.length = 12) :
    dropHyphens? (a ++ '-' :: b ++ '-' :: c ++ '-' :: d ++ '-' :: e) =
      some (a ++ b ++ c ++ d ++ e) := by
  have hlength : (a ++ '-' :: b ++ '-' :: c ++ '-' :: d ++ '-' :: e).length = 36 := by
    simp [ha, hb, hc, hd, he]
  have hhyphens : [8, 13, 18, 23].all
      ((a ++ '-' :: b ++ '-' :: c ++ '-' :: d ++ '-' :: e)[·]? == some '-') = true := by
    simp [List.getElem?_append, ha, hb, hc, hd]
  rw [dropHyphens?, if_pos ⟨hlength, hhyphens⟩]
  simp (disch := omega) [List.drop_append, List.drop_of_length_le, ha, hb, hc, hd]

lemma dropHyphens?_hyphenate {ds : List Char} (h : ds.length = 32) :
    dropHyphens? (hyphenate ds) = some ds := by
  have hgroups : ds.take 8 ++ (ds.drop 8).take 4 ++ (ds.drop 12).take 4 ++ (ds.drop 16).take 4 ++
      ds.drop 20 = ds := by
    calc ds.take 8 ++ (ds.drop 8).take 4 ++ (ds.drop 12).take 4 ++ (ds.drop 16).take 4 ++ ds.drop 20
        = ds.take 20 ++ ds.drop 20 := by
          rw [← List.take_add, ← List.take_add, ← List.take_add]
      _ = ds := List.take_append_drop 20 ds
  rw [hyphenate, dropHyphens?_groups, hgroups]
  all_goals simp [h]

lemma length_hyphenate {ds : List Char} (h : ds.length = 32) : (hyphenate ds).length = 36 := by
  simp [hyphenate, h]

/-- **An identifier is read back from its text.** -/
lemma ofText?_toText (id : RunId) : ofText? id.toText = some id := by
  have hdrop := dropHyphens?_hyphenate (length_hexDigits 32 id.bits.toNat)
  have hlength := length_hyphenate (length_hexDigits 32 id.bits.toNat)
  simp only [ofText?, toText, String.toList_ofList, hlength, hdrop, Option.bind_eq_bind,
    Option.bind_some, ofDigits?_hexDigits]
  rfl

end Provenance.RunId
