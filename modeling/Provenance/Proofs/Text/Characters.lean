import Mathlib.Data.List.TakeDrop
import Mathlib.Data.Nat.Notation
import Mathlib.Tactic.Lemma

/-!
# Characters, and texts that are cut

Readers cut a text where the kind of its characters changes.  What has been put together from
characters of one kind and something else behind them is cut there again (`span_append`), and what
has been cut was put together there (`of_span_eq_cons`).

Facts about ASCII characters are tried out on their codes (`of_toNat_lt`).  Texts are ordered by the
codes of their characters (`lt_iff_codePoints`).
-/

namespace Provenance.Text

/-! ## Codes -/

/-- What holds of the character of every code below a bound holds of every character below it. -/
lemma of_toNat_lt {P : Char → Prop} {bound : ℕ} (h : ∀ n < bound, P (Char.ofNat n)) {c : Char}
    (hc : c.toNat < bound) : P c := by
  have hcode : P (Char.ofNat c.toNat) := h c.toNat hc
  rwa [Char.ofNat_toNat] at hcode

lemma toNat_of_isDigit {c : Char} (h : c.isDigit = true) : 48 ≤ c.toNat ∧ c.toNat ≤ 57 := by
  simpa [Char.isDigit, UInt32.le_iff_toNat_le] using h

/-- **Texts are in the order of their code points.** -/
lemma lt_iff_codePoints {s t : String} :
    s < t ↔ s.toList.map Char.toNat < t.toList.map Char.toNat := by
  have hchar : ∀ c d : Char, c < d ↔ c.toNat < d.toNat := by
    intro c d
    rw [Char.lt_def, UInt32.lt_iff_toNat_lt]
    rfl
  have hlist : ∀ cs ds : List Char, cs < ds ↔ cs.map Char.toNat < ds.map Char.toNat := by
    intro cs
    induction cs with
    | nil =>
        intro ds
        cases ds <;> simp
    | cons c cs ih =>
        intro ds
        cases ds with
        | nil => simp
        | cons d ds => simp only [List.map_cons, List.cons_lt_cons_iff, ih, hchar, Char.toNat_inj]
  rw [String.lt_iff]
  exact hlist s.toList t.toList

/-! ## Cutting a text in two -/

variable {p : Char → Bool} {cs front rest : List Char}

/-- A front of one kind is cut off a text if what stands behind it is of another kind. -/
lemma span_append (hcs : ∀ c ∈ cs, p c = true) (hrest : ∀ c ∈ rest.head?, p c = false) :
    (cs ++ rest).span p = (cs, rest) := by
  rw [List.span_eq_takeWhile_dropWhile, List.takeWhile_append_of_pos hcs,
    List.dropWhile_append_of_pos hcs]
  cases rest with
  | nil => simp
  | cons c rest =>
      have hc : p c = false := by simpa using hrest
      simp [hc]

/-- The front that is cut off a text is of one kind, and the next character is of another. -/
lemma of_span_eq_cons {c : Char} (h : cs.span p = (front, c :: rest)) :
    cs = front ++ c :: rest ∧ (∀ d ∈ front, p d = true) ∧ p c = false := by
  rw [List.span_eq_takeWhile_dropWhile] at h
  obtain ⟨htake, hdrop⟩ := Prod.mk.inj h
  refine ⟨?_, fun d hd => ?_, ?_⟩
  · rw [← htake, ← hdrop, List.takeWhile_append_dropWhile]
  · rw [← htake] at hd
    exact List.all_eq_true.1 (List.all_takeWhile) d hd
  · have hhead := List.head?_dropWhile_not p cs
    rw [hdrop] at hhead
    simpa using hhead

/-- What is dropped in front of a text for being one character is that character, some times. -/
lemma exists_replicate_append (c : Char) (cs : List Char) :
    ∃ n, cs = List.replicate n c ++ cs.dropWhile (· == c) := by
  induction cs with
  | nil => exact ⟨0, rfl⟩
  | cons d cs ih =>
      by_cases hd : d = c
      · obtain ⟨n, hn⟩ := ih
        refine ⟨n + 1, ?_⟩
        rw [hd, List.dropWhile_cons_of_pos (by simp), List.replicate_succ, List.cons_append, ← hn]
      · refine ⟨0, ?_⟩
        rw [List.dropWhile_cons_of_neg (by simpa using hd)]
        rfl

end Provenance.Text
