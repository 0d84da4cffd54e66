import Provenance.Proofs.Text.CodePoints
import Provenance.Text.Case

/-!
# What small letters are made of

Small letters stay as they are when they are made small again (`toLower_of_mem_toLower`), although
the lower case of a character is read off a table that knows nothing of its own results.  Nor does
the table make a capital or a digit of anything: a capital that is left in small letters has been
there before, as one that has no lower case (`eq_of_mem_toLower`).

Both follow from what the tables show: where the shifts lead, no shift leads on, and there is
neither a capital nor a digit.
-/

namespace Provenance.Text

/-- The code points of the digits. -/
def digitRuns : List CodePoints.Run := [⟨0x30, 0x39, 1⟩]

lemma contains_digitRuns {c : Char} (h : c.isDigit = true) :
    CodePoints.contains digitRuns c.toNat = true := by
  simp only [Char.isDigit, Bool.and_eq_true, decide_eq_true_eq] at h
  have hrun : CodePoints.Run.contains ⟨0x30, 0x39, 1⟩ c.toNat = true :=
    CodePoints.Run.contains_eq_true_iff.2 ⟨h, Nat.mod_one _⟩
  rw [digitRuns, CodePoints.contains, List.any_cons, hrun, Bool.true_or]

/-- A code point at which case and digits come to an end: it is not made small, and it belongs
neither to a capital nor to a digit. -/
structure IsSettled (n : ℕ) : Prop where
  unshifted : CodePoints.contains (lowerShifts.map (·.run)) n = false
  not_upper : CodePoints.contains upperRuns n = false
  not_digit : CodePoints.contains digitRuns n = false

/-- Where the shifts lead, everything comes to an end. -/
lemma shift_cases (n : ℕ) :
    CodePoints.shift lowerShifts n = n ∨ IsSettled (CodePoints.shift lowerShifts n) := by
  have hshifts : CodePoints.leaves lowerShifts (lowerShifts.map (·.run)) = true := by
    decide +kernel
  have hupper : CodePoints.leaves lowerShifts upperRuns = true := by decide +kernel
  have hdigits : CodePoints.leaves lowerShifts digitRuns = true := by decide +kernel
  by_cases hstay : CodePoints.shift lowerShifts n = n
  · exact .inl hstay
  · right
    constructor
    · exact (CodePoints.shift_eq_or_contains_eq_false hshifts n).resolve_left hstay
    · exact (CodePoints.shift_eq_or_contains_eq_false hupper n).resolve_left hstay
    · exact (CodePoints.shift_eq_or_contains_eq_false hdigits n).resolve_left hstay

variable {c d : Char}

/-- The one capital whose lower case is two characters is among the capitals. -/
lemma toLower_of_isSettled (h : IsSettled c.toNat) : toLower c = [c] := by
  have hdotted : CodePoints.contains upperRuns 0x0130 = true := by decide +kernel
  have hne : c.toNat ≠ 0x0130 := by
    intro heq
    have hfalse := h.not_upper
    rw [heq, hdotted] at hfalse
    cases hfalse
  rw [toLower, if_neg hne, CodePoints.shift_of_contains_eq_false h.unshifted, Char.ofNat_toNat]

/-- A character is its own lower case, or its lower case is settled. -/
lemma toLower_cases (c : Char) : toLower c = [c] ∨ ∀ d ∈ toLower c, IsSettled d.toNat := by
  have hsmall : IsSettled 'i'.toNat := by constructor <;> decide +kernel
  have hdot : IsSettled (Char.ofNat 0x0307).toNat := by constructor <;> decide +kernel
  have hnull : IsSettled 0 := by constructor <;> decide +kernel
  unfold toLower
  split
  · right
    simpa using ⟨hsmall, hdot⟩
  · rcases shift_cases c.toNat with hstay | hsettled
    · left
      rw [hstay, Char.ofNat_toNat]
    · right
      intro d hd
      rw [List.mem_singleton.1 hd]
      rcases CodePoints.toNat_ofNat_eq_or (CodePoints.shift lowerShifts c.toNat) with hcode | hcode
      · rw [hcode]
        exact hsettled
      · rw [hcode]
        exact hnull

/-- **Small letters stay as they are** when they are made small again. -/
lemma toLower_of_mem_toLower (hd : d ∈ toLower c) : toLower d = [d] := by
  rcases toLower_cases c with hsame | hsettled
  · rw [hsame, List.mem_singleton] at hd
    rw [hd, hsame]
  · exact toLower_of_isSettled (hsettled d hd)

/-- **No capital and no digit comes into being** when a character is made small. -/
lemma eq_of_mem_toLower (hd : d ∈ toLower c) (h : isUpper d = true ∨ d.isDigit = true) :
    toLower c = [c] ∧ d = c := by
  rcases toLower_cases c with hsame | hsettled
  · rw [hsame, List.mem_singleton] at hd
    exact ⟨hsame, hd⟩
  · rcases h with hupper | hdigit
    · rw [isUpper, (hsettled d hd).not_upper] at hupper
      cases hupper
    · have hin : CodePoints.contains digitRuns d.toNat = true := contains_digitRuns hdigit
      rw [(hsettled d hd).not_digit] at hin
      cases hin

end Provenance.Text
