import Mathlib.Data.List.DropRight
import Mathlib.Tactic.Lemma
import Provenance.Proofs.Text.Characters
import Provenance.Text.Blank

/-!
# Trimmed texts

A text is *trimmed* if it neither begins nor ends with a blank.  Trimming gives such a text
(`isTrimmed_trimChars`), which does not depend on the blanks around it (`trimChars_append_blanks`),
and leaves one as it is (`IsTrimmed.trimChars_eq`).
-/

namespace Provenance.Text

variable {cs : List Char}

/-- Neither the first character nor the last one is blank. -/
structure IsTrimmed (cs : List Char) : Prop where
  head : ∀ c ∈ cs.head?, isBlank c = false
  last : ∀ c ∈ cs.getLast?, isBlank c = false

instance (cs : List Char) : Decidable (IsTrimmed cs) :=
  decidable_of_iff (cs.head?.all (!isBlank ·) = true ∧ cs.getLast?.all (!isBlank ·) = true)
    ⟨fun h => ⟨by simpa [Option.all_eq_true] using h.1, by simpa [Option.all_eq_true] using h.2⟩,
      fun h => ⟨by simpa [Option.all_eq_true] using h.head,
        by simpa [Option.all_eq_true] using h.last⟩⟩

lemma dropTrailing_isPrefix (p : Char → Bool) (cs : List Char) : dropTrailing p cs <+: cs :=
  List.rdropWhile_prefix p cs

/-- What is dropped at the end of a text is dropped to the last. -/
lemma last_dropTrailing (p : Char → Bool) (cs : List Char) :
    ∀ c ∈ (dropTrailing p cs).getLast?, p c = false := by
  intro c hc
  obtain ⟨hne, hlast⟩ := List.mem_getLast?_eq_getLast hc
  have hkept : ¬p ((dropTrailing p cs).getLast hne) = true := List.rdropWhile_last_not p cs hne
  rw [hlast]
  simpa using hkept

/-- What is dropped at the end of a text for being one character is that character, some times. -/
lemma exists_append_replicate (c : Char) (cs : List Char) :
    ∃ n, cs = dropTrailing (· == c) cs ++ List.replicate n c := by
  obtain ⟨n, hn⟩ := exists_replicate_append c cs.reverse
  refine ⟨n, ?_⟩
  calc cs = (List.replicate n c ++ cs.reverse.dropWhile (· == c)).reverse := by
        rw [← hn, List.reverse_reverse]
    _ = dropTrailing (· == c) cs ++ List.replicate n c := by
        rw [List.reverse_append, List.reverse_replicate]
        rfl

/-- A text that is not empty begins like the text to which something is appended. -/
lemma head?_of_isPrefix {as bs : List Char} (h : as <+: bs) (hne : as ≠ []) :
    as.head? = bs.head? := by
  obtain ⟨rest, rfl⟩ := h
  rw [List.head?_append_of_ne_nil as hne]

lemma isTrimmed_trimChars (cs : List Char) : IsTrimmed (trimChars cs) := by
  refine ⟨fun c hc => ?_, last_dropTrailing isBlank _⟩
  have hne : trimChars cs ≠ [] := by
    rintro hnil
    simp [hnil] at hc
  have hhead : (trimChars cs).head? = (cs.dropWhile isBlank).head? :=
    head?_of_isPrefix (dropTrailing_isPrefix isBlank _) hne
  rw [hhead] at hc
  have hkept := List.head?_dropWhile_not isBlank cs
  rw [Option.mem_def.1 hc] at hkept
  simpa using hkept

/-- **There is nothing to trim** in a trimmed text. -/
lemma IsTrimmed.trimChars_eq (h : IsTrimmed cs) : trimChars cs = cs := by
  have hfront : cs.dropWhile isBlank = cs := by
    cases cs with
    | nil => rfl
    | cons c cs =>
        have hc : isBlank c = false := h.head c rfl
        rw [List.dropWhile_cons_of_neg (by simp [hc])]
  have hback : cs.rdropWhile isBlank = cs := by
    rw [List.rdropWhile_eq_self_iff]
    intro hne
    simp [h.last _ (List.getLast?_eq_some_getLast hne)]
  rw [trimChars, hfront]
  exact hback

/-- What trimming leaves out is blank. -/
lemma exists_blanks_around (cs : List Char) :
    ∃ front back, (∀ c ∈ front, isBlank c = true) ∧ (∀ c ∈ back, isBlank c = true) ∧
      cs = front ++ trimChars cs ++ back := by
  refine ⟨cs.takeWhile isBlank, (cs.dropWhile isBlank).rtakeWhile isBlank,
    fun c hc => List.mem_takeWhile_imp hc, fun c hc => List.mem_rtakeWhile_imp hc, ?_⟩
  have hback : trimChars cs ++ (cs.dropWhile isBlank).rtakeWhile isBlank = cs.dropWhile isBlank :=
    List.rdropWhile_append_rtakeWhile
  rw [List.append_assoc, hback, List.takeWhile_append_dropWhile]

/-- Nothing is left of a text that holds nothing but blanks, and of no other. -/
lemma isEmpty_trim (s : String) : (trim s).isEmpty = isBlankText s := by
  rw [Bool.eq_iff_iff, String.isEmpty_iff, isBlankText, List.all_eq_true, trim]
  constructor
  · intro hempty
    have hnil : trimChars s.toList = [] := by simpa using hempty
    obtain ⟨front, back, hfront, hback, hs⟩ := exists_blanks_around s.toList
    rw [hs, hnil, List.append_nil]
    intro c hc
    exact (List.mem_append.1 hc).elim (hfront c) (hback c)
  · intro hblank
    have hdrop : s.toList.dropWhile isBlank = [] := List.dropWhile_eq_nil_iff.2 hblank
    rw [trimChars, hdrop]
    rfl

/-- Blanks around a text do not count. -/
lemma trimChars_append_blanks {front back : List Char} (hfront : ∀ c ∈ front, isBlank c = true)
    (hback : ∀ c ∈ back, isBlank c = true) (cs : List Char) :
    trimChars (front ++ cs ++ back) = trimChars cs := by
  have hdrop : ∀ ds : List Char, dropTrailing isBlank (ds ++ back) = dropTrailing isBlank ds := by
    intro ds
    unfold dropTrailing
    rw [List.reverse_append, List.dropWhile_append_of_pos fun c hc =>
      hback c (List.mem_reverse.1 hc)]
  unfold trimChars
  rw [List.append_assoc, List.dropWhile_append_of_pos hfront, List.dropWhile_append]
  split
  · rename_i hblank
    have hnil : back.dropWhile isBlank = [] := by simpa using hback
    rw [hnil, List.isEmpty_iff.1 hblank]
  · exact hdrop _

end Provenance.Text
