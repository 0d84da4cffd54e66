import Mathlib.Data.Nat.Notation
import Mathlib.Tactic.Lemma
import Provenance.JobName
import Provenance.Proofs.Text.CodePoints

/-!
# The words of a name

Apart from how it is read, a name has words: what stands between its separators is cut in front of
the characters at which a word begins.  `IsCut` says so of a run of characters without separators,
`wordsOfRun` is the only such cut of one (`isCut_iff`), and `words` puts the cuts of the runs
together.

A separator ends a word whatever stands behind it (`words_append_cons`).  Whether a word begins at
a character depends on the next one, which may be a separator or missing: as no separator is a
small letter, that is the same.  So the words of a name follow from its first two characters and
the words of the rest (`words_cons_cons`).
-/

namespace Provenance.JobName

open Text

/-! ## Separators -/

/-- The code points of the separators. -/
def separatorRuns : List CodePoints.Run :=
  ⟨0x002D, 0x002D, 1⟩ :: ⟨0x005F, 0x005F, 1⟩ :: blankRuns

lemma beq_eq_contains (c d : Char) :
    (c == d) = CodePoints.Run.contains ⟨d.toNat, d.toNat, 1⟩ c.toNat := by
  apply Bool.eq_iff_iff.2
  rw [beq_iff_eq]
  constructor
  · rintro rfl
    simp [CodePoints.Run.contains]
  · intro h
    have hcode := CodePoints.Run.bounds_of_contains h
    have hsame : c.toNat = d.toNat := Nat.le_antisymm hcode.2 hcode.1
    rw [← Char.ofNat_toNat c, ← Char.ofNat_toNat d, hsame]

lemma isSeparator_eq_contains (c : Char) :
    isSeparator c = CodePoints.contains separatorRuns c.toNat := by
  have hruns : CodePoints.contains separatorRuns c.toNat =
      (CodePoints.Run.contains ⟨'-'.toNat, '-'.toNat, 1⟩ c.toNat ||
        (CodePoints.Run.contains ⟨'_'.toNat, '_'.toNat, 1⟩ c.toNat || isBlank c)) := rfl
  rw [hruns, ← beq_eq_contains, ← beq_eq_contains, isSeparator, Bool.or_assoc, Bool.or_comm,
    Bool.or_assoc]

/-- A separator is no small letter. -/
lemma isLower_of_isSeparator {c : Char} (h : isSeparator c = true) : isLower c = false := by
  rw [isSeparator_eq_contains] at h
  have happart : CodePoints.Apart separatorRuns lowerRuns := by decide +kernel
  exact CodePoints.contains_eq_false_of_apart happart h

lemma toLower_ne_nil (c : Char) : toLower c ≠ [] := by
  unfold toLower
  split <;> simp

/-- What is no separator is none in small letters. -/
lemma isSeparator_of_mem_toLower {c d : Char} (hc : isSeparator c = false)
    (hd : d ∈ toLower c) : isSeparator d = false := by
  have houtside : CodePoints.LeadsOutside lowerShifts separatorRuns := by decide +kernel
  have hdotted : ['i', Char.ofNat 0x0307].all (!isSeparator ·) = true := by decide
  unfold toLower at hd
  split at hd
  · simpa using List.all_eq_true.1 hdotted d hd
  · rw [isSeparator_eq_contains] at hc
    rw [List.mem_singleton.1 hd, isSeparator_eq_contains]
    rcases CodePoints.toNat_ofNat_eq_or (CodePoints.shift lowerShifts c.toNat) with hcode | hcode
    · rw [hcode]
      exact CodePoints.contains_shift_eq_false houtside hc
    · rw [hcode]
      rfl

/-! ## Cutting a run into words -/

/-- A word ends behind `front`, in a text that is cut into `words`. -/
def EndsBehind (words : List (List Char)) (front : List Char) : Prop :=
  ∃ us vs, words = us ++ vs ∧ us.flatten = front

/-- `words` cuts a run into words: none is empty, together they are the run, and one ends and the
next begins exactly in front of a capital that stands behind a small letter, behind a digit, or
behind another capital and in front of a small letter. -/
structure IsCut (run : List Char) (words : List (List Char)) : Prop where
  flatten_eq : words.flatten = run
  nil_notMem : [] ∉ words
  endsBehind_iff : ∀ front b c back, run = front ++ b :: c :: back →
    (EndsBehind words (front ++ [b]) ↔
      isUpper c = true ∧ (isLower b = true ∨ b.isDigit = true ∨
        isUpper b = true ∧ ∃ d ∈ back.head?, isLower d = true))

/-- The words of a run of characters without separators. -/
def wordsOfRun : (run : List Char) → List (List Char)
  | [] => []
  | [c] => [[c]]
  | b :: c :: cs =>
    if beginsWord b c cs.head? then [b] :: wordsOfRun (c :: cs)
    else (wordsOfRun (c :: cs)).modifyHead (b :: ·)

lemma beginsWord_iff {b c : Char} {behind : Option Char} :
    beginsWord b c behind = true ↔ isUpper c = true ∧ (isLower b = true ∨ b.isDigit = true ∨
      isUpper b = true ∧ ∃ d ∈ behind, isLower d = true) := by
  have hbehind : behind.any isLower = true ↔ ∃ d ∈ behind, isLower d = true := by
    cases behind <;> simp
  rw [beginsWord, Bool.and_eq_true, Bool.or_eq_true, Bool.or_eq_true, Bool.and_eq_true, hbehind,
    or_assoc]

lemma endsBehind_cons_iff {w front : List Char} {ws : List (List Char)} (hfront : front ≠ []) :
    EndsBehind (w :: ws) front ↔ ∃ rest, front = w ++ rest ∧ EndsBehind ws rest := by
  constructor
  · rintro ⟨us, vs, hwords, hus⟩
    cases us with
    | nil => exact absurd hus.symm hfront
    | cons u us =>
        obtain ⟨rfl, rfl⟩ := List.cons.inj hwords
        exact ⟨us.flatten, hus.symm, us, vs, rfl, rfl⟩
  · rintro ⟨rest, rfl, us, vs, rfl, rfl⟩
    exact ⟨w :: us, vs, rfl, rfl⟩

/-- Whether a run is cut right is decided behind its first character and in the rest. -/
lemma isCut_cons_cons_iff {b c : Char} {cs : List Char} {ws rest : List (List Char)}
    (hflatten : ws.flatten = b :: rest.flatten) (hnil : [] ∈ ws ↔ [] ∈ rest)
    (hends : ∀ front, front ≠ [] → (EndsBehind ws (b :: front) ↔ EndsBehind rest front)) :
    IsCut (b :: c :: cs) ws ↔
      (EndsBehind ws [b] ↔ beginsWord b c cs.head? = true) ∧ IsCut (c :: cs) rest := by
  constructor
  · intro h
    refine ⟨?_, ?_, ?_, ?_⟩
    · rw [beginsWord_iff]
      exact h.endsBehind_iff [] b c cs rfl
    · exact (List.cons.inj (hflatten.symm.trans h.flatten_eq)).2
    · exact fun hmem => h.nil_notMem (hnil.2 hmem)
    · intro front b' c' back hrun
      rw [← hends _ (by simp)]
      exact h.endsBehind_iff (b :: front) b' c' back (by rw [hrun, List.cons_append])
  · rintro ⟨hfirst, h⟩
    refine ⟨?_, ?_, ?_⟩
    · rw [hflatten, h.flatten_eq]
    · exact fun hmem => h.nil_notMem (hnil.1 hmem)
    · intro front b' c' back hrun
      cases front with
      | nil =>
          obtain ⟨rfl, hrest⟩ := List.cons.inj hrun
          obtain ⟨rfl, rfl⟩ := List.cons.inj hrest
          rw [← beginsWord_iff]
          exact hfirst
      | cons a front =>
          obtain ⟨rfl, hrest⟩ := List.cons.inj hrun
          rw [List.cons_append, hends _ (by simp)]
          exact h.endsBehind_iff front b' c' back hrest

/-- A first word of one character is right exactly if a word begins behind it. -/
lemma isCut_singleton_cons_iff {b c : Char} {cs : List Char} {ws : List (List Char)} :
    IsCut (b :: c :: cs) ([b] :: ws) ↔ beginsWord b c cs.head? = true ∧ IsCut (c :: cs) ws := by
  have hfirst : EndsBehind ([b] :: ws) [b] := ⟨[[b]], ws, rfl, rfl⟩
  have hends : ∀ front, front ≠ [] →
      (EndsBehind ([b] :: ws) (b :: front) ↔ EndsBehind ws front) := by
    intro front _
    rw [endsBehind_cons_iff (List.cons_ne_nil b front)]
    simp
  rw [isCut_cons_cons_iff rfl (by simp) hends, iff_true_left hfirst]

/-- A first word of more characters is right exactly if none begins behind its first one. -/
lemma isCut_longer_cons_iff {b c : Char} {cs w : List Char} {ws : List (List Char)} (hw : w ≠ []) :
    IsCut (b :: c :: cs) ((b :: w) :: ws) ↔
      ¬beginsWord b c cs.head? = true ∧ IsCut (c :: cs) (w :: ws) := by
  have hfirst : ¬EndsBehind ((b :: w) :: ws) [b] := by
    rw [endsBehind_cons_iff (List.cons_ne_nil b [])]
    rintro ⟨rest, hrest, -⟩
    exact hw (List.append_eq_nil_iff.1 (List.cons.inj hrest).2.symm).1
  have hends : ∀ front, front ≠ [] →
      (EndsBehind ((b :: w) :: ws) (b :: front) ↔ EndsBehind (w :: ws) front) := by
    intro front hfront
    rw [endsBehind_cons_iff (List.cons_ne_nil b front), endsBehind_cons_iff hfront]
    simp
  rw [isCut_cons_cons_iff rfl (by simp [hw.symm]) hends, iff_false_left hfirst]

lemma isCut_nil_iff {ws : List (List Char)} : IsCut [] ws ↔ ws = [] := by
  constructor
  · intro h
    cases ws with
    | nil => rfl
    | cons w ws =>
        have hw : w = [] := (List.append_eq_nil_iff.1 h.flatten_eq).1
        rw [hw] at h
        exact absurd List.mem_cons_self h.nil_notMem
  · rintro rfl
    exact ⟨rfl, List.not_mem_nil, fun front b c back h => by simp at h⟩

/-- The first word of a cut begins with the first character. -/
lemma IsCut.exists_cons {c : Char} {cs : List Char} {ws : List (List Char)}
    (h : IsCut (c :: cs) ws) : ∃ w rest, ws = (c :: w) :: rest ∧ w ++ rest.flatten = cs := by
  rcases ws with _ | ⟨_ | ⟨d, w⟩, rest⟩
  · exact absurd h.flatten_eq (by simp)
  · exact absurd List.mem_cons_self h.nil_notMem
  · obtain ⟨rfl, hcs⟩ := List.cons.inj h.flatten_eq
    exact ⟨w, rest, rfl, hcs⟩

lemma isCut_singleton_iff {c : Char} {ws : List (List Char)} : IsCut [c] ws ↔ ws = [[c]] := by
  constructor
  · intro h
    obtain ⟨w, rest, rfl, hnil⟩ := h.exists_cons
    obtain ⟨rfl, hrest⟩ := List.append_eq_nil_iff.1 hnil
    cases rest with
    | nil => rfl
    | cons v rest =>
        have hv : v = [] := (List.append_eq_nil_iff.1 hrest).1
        rw [hv] at h
        exact absurd (by simp) h.nil_notMem
  · rintro rfl
    refine ⟨rfl, by simp, fun front b c' back h => ?_⟩
    have hlength := congrArg List.length h
    simp only [List.length_append, List.length_cons, List.length_nil] at hlength
    omega

lemma exists_wordsOfRun_cons (c : Char) (cs : List Char) :
    ∃ w ws, wordsOfRun (c :: cs) = (c :: w) :: ws := by
  induction cs generalizing c with
  | nil => exact ⟨[], [], rfl⟩
  | cons d cs ih =>
      obtain ⟨w, ws, hrest⟩ := ih d
      by_cases hbegins : beginsWord c d cs.head? = true
      · exact ⟨[], (d :: w) :: ws, by rw [wordsOfRun, if_pos hbegins, hrest]⟩
      · exact ⟨d :: w, ws, by rw [wordsOfRun, if_neg hbegins, hrest, List.modifyHead_cons]⟩

/-- **A run is cut into words in one way only.** -/
lemma isCut_iff {run : List Char} {ws : List (List Char)} :
    IsCut run ws ↔ wordsOfRun run = ws := by
  induction run using wordsOfRun.induct generalizing ws with
  | case1 => rw [isCut_nil_iff, wordsOfRun, eq_comm]
  | case2 c => rw [isCut_singleton_iff, wordsOfRun, eq_comm]
  | case3 b c cs hbegins ih =>
      rw [wordsOfRun, if_pos hbegins]
      constructor
      · intro h
        obtain ⟨w, rest, rfl, hcs⟩ := h.exists_cons
        by_cases hw : w = []
        · subst hw
          rw [ih.1 (isCut_singleton_cons_iff.1 h).2]
        · exact absurd hbegins ((isCut_longer_cons_iff hw).1 h).1
      · rintro rfl
        exact isCut_singleton_cons_iff.2 ⟨hbegins, ih.2 rfl⟩
  | case4 b c cs hbegins ih =>
      rw [wordsOfRun, if_neg hbegins]
      constructor
      · intro h
        obtain ⟨w, rest, rfl, hcs⟩ := h.exists_cons
        by_cases hw : w = []
        · subst hw
          exact absurd (isCut_singleton_cons_iff.1 h).1 hbegins
        · rw [ih.1 ((isCut_longer_cons_iff hw).1 h).2, List.modifyHead_cons]
      · rintro rfl
        obtain ⟨w, ws, hrest⟩ := exists_wordsOfRun_cons c cs
        rw [hrest, List.modifyHead_cons]
        exact (isCut_longer_cons_iff (List.cons_ne_nil c w)).2 ⟨hbegins, ih.2 hrest⟩

/-! ## The words of a name -/

/-- The runs of a name: what stands between its separators, if anything does. -/
def runs (name : List Char) : List (List Char) :=
  (name.splitOnP isSeparator).filter (!·.isEmpty)

/-- The words of a name. -/
def words (name : List Char) : List (List Char) :=
  (runs name).flatMap wordsOfRun

lemma words_nil : words [] = [] := rfl

/-- **A separator ends a word**, whatever stands behind it. -/
lemma words_append_cons {s : Char} (hs : isSeparator s = true) (xs ys : List Char) :
    words (xs ++ s :: ys) = words xs ++ words ys := by
  unfold words runs
  rw [List.splitOnP_append_cons xs ys hs, List.filter_append, List.flatMap_append]

lemma words_cons_of_isSeparator {s : Char} (hs : isSeparator s = true) (ys : List Char) :
    words (s :: ys) = words ys :=
  words_append_cons hs [] ys

lemma words_of_forall {run : List Char} (h : ∀ c ∈ run, isSeparator c = false) :
    words run = wordsOfRun run := by
  unfold words runs
  rw [List.splitOnP_eq_singleton h]
  cases run with
  | nil => rfl
  | cons c run => simp

/-- A text begins with a run, and the words of a longer run end where that one ends. -/
lemma exists_run (cs : List Char) : ∃ run rest, cs.head?.any isLower = run.head?.any isLower ∧
    ∀ xs : List Char, (∀ c ∈ xs, isSeparator c = false) →
      words (xs ++ cs) = wordsOfRun (xs ++ run) ++ words rest := by
  induction cs with
  | nil =>
      refine ⟨[], [], rfl, fun xs hxs => ?_⟩
      rw [List.append_nil, words_of_forall hxs, words_nil, List.append_nil]
  | cons c cs ih =>
      by_cases hc : isSeparator c = true
      · refine ⟨[], cs, by simp [isLower_of_isSeparator hc], fun xs hxs => ?_⟩
        rw [words_append_cons hc, words_of_forall hxs, List.append_nil]
      · obtain ⟨run, rest, -, hwords⟩ := ih
        refine ⟨c :: run, rest, rfl, fun xs hxs => ?_⟩
        have hlonger : ∀ d ∈ xs ++ [c], isSeparator d = false := by
          intro d hd
          rcases List.mem_append.1 hd with hd | hd
          · exact hxs d hd
          · rw [List.mem_singleton.1 hd]
            simpa using hc
        simpa using hwords (xs ++ [c]) hlonger

lemma words_singleton {c : Char} (hc : isSeparator c = false) : words [c] = [[c]] :=
  words_of_forall (by simpa using hc)

/-- Where no separator stands between them, whether a word begins at the second character decides
whether the first one is a word or belongs to the first word of the rest. -/
lemma words_cons_cons {b c : Char} (hb : isSeparator b = false) (hc : isSeparator c = false)
    (cs : List Char) : words (b :: c :: cs) =
      if beginsWord b c cs.head? then [b] :: words (c :: cs)
      else (words (c :: cs)).modifyHead (b :: ·) := by
  obtain ⟨run, rest, hahead, hwords⟩ := exists_run cs
  have hboth : words (b :: c :: cs) = wordsOfRun (b :: c :: run) ++ words rest :=
    hwords [b, c] (by simp [hb, hc])
  have hone : words (c :: cs) = wordsOfRun (c :: run) ++ words rest :=
    hwords [c] (by simp [hc])
  have hbegins : beginsWord b c cs.head? = beginsWord b c run.head? := by
    rw [beginsWord, beginsWord, hahead]
  rw [hboth, hone, wordsOfRun, hbegins]
  by_cases h : beginsWord b c run.head? = true
  · rw [if_pos h, if_pos h, List.cons_append]
  · obtain ⟨w, ws, hrest⟩ := exists_wordsOfRun_cons c run
    rw [if_neg h, if_neg h, hrest]
    rfl

/-- A character that is no separator begins the first word. -/
lemma exists_words_cons {c : Char} (hc : isSeparator c = false) (cs : List Char) :
    ∃ w ws, words (c :: cs) = (c :: w) :: ws := by
  obtain ⟨run, rest, -, hwords⟩ := exists_run cs
  have hone : words (c :: cs) = wordsOfRun (c :: run) ++ words rest :=
    hwords [c] (by simp [hc])
  obtain ⟨w, ws, hrun⟩ := exists_wordsOfRun_cons c run
  exact ⟨w, ws ++ words rest, by rw [hone, hrun, List.cons_append]⟩

/-- **Nothing but separators is lost**: together, the words of a name are its other characters. -/
lemma flatten_words (name : List Char) : (words name).flatten = name.filter (!isSeparator ·) := by
  induction name with
  | nil => rfl
  | cons b cs ih =>
      by_cases hb : isSeparator b = true
      · rw [words_cons_of_isSeparator hb, ih, List.filter_cons_of_neg (by simp [hb])]
      · have hplain : isSeparator b = false := by simpa using hb
        rw [List.filter_cons_of_pos (by simp [hplain]), ← ih]
        cases cs with
        | nil => rw [words_singleton hplain, words_nil, List.flatten_singleton, List.flatten_nil]
        | cons c cs =>
            by_cases hc : isSeparator c = true
            · rw [words_cons_of_isSeparator hc, ← List.singleton_append, words_append_cons hc,
                words_singleton hplain, List.singleton_append, List.flatten_cons,
                List.singleton_append]
            · rw [words_cons_cons hplain (by simpa using hc)]
              obtain ⟨w, ws, hrest⟩ := exists_words_cons (by simpa using hc) cs
              rw [hrest]
              split
              · rfl
              · rfl

lemma nil_notMem_words (name : List Char) : [] ∉ words name := by
  intro hnil
  obtain ⟨run, -, hrun⟩ := List.mem_flatMap.1 hnil
  exact (isCut_iff.2 rfl).nil_notMem hrun

lemma isSeparator_of_mem_words {name w : List Char} (hw : w ∈ words name) {c : Char}
    (hc : c ∈ w) : isSeparator c = false := by
  have hmem : c ∈ (words name).flatten := List.mem_flatten_of_mem hw hc
  rw [flatten_words] at hmem
  simpa using (List.mem_filter.1 hmem).2

/-- A name has a word if something in it is no separator. -/
lemma words_ne_nil {name : List Char} {c : Char} (hmem : c ∈ name) (hc : isSeparator c = false) :
    words name ≠ [] := by
  intro hnil
  have hkept : c ∈ name.filter (!isSeparator ·) := List.mem_filter.2 ⟨hmem, by simp [hc]⟩
  rw [← flatten_words, hnil] at hkept
  exact List.not_mem_nil hkept

end Provenance.JobName
