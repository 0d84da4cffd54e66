import Mathlib.Data.List.TakeDrop
import Provenance.Proofs.JobName.Words

/-!
# Job names are the words of application names

The reader of a name finds its words (`smallWords_eq`), although it sees one character after the
other.  `Reading.ComesTo` says to which words a reading comes while something of the name is left,
and a character that is read does not change them (`Reading.ComesTo.next`).  Within a word there is
always a character in front, and it is no separator (`charBefore?_of_current_ne_nil`).

So a job name is made of the words of the application name (`derive_some`), from which its shape
follows (`isSnake_derive`).
-/

namespace Provenance.JobName

open Text

/-- Words in small letters. -/
def small (words : List (List Char)) : List (List Char) :=
  words.map (·.flatMap toLower)

/-! ## Reading a character -/

namespace Reading

variable {name : Array Char} {r : Reading} {c : Char} {i : ℕ}

/-- The words of a reading that has come to an end. -/
def finished (r : Reading) : List (List Char) :=
  r.endWord.words.reverse

lemma endWord_of_current_eq_nil (h : r.current = []) : r.endWord = r := by
  rw [endWord, if_pos (by simp [h])]

lemma endWord_of_current_ne_nil (h : r.current ≠ []) :
    r.endWord = ⟨r.current.reverse :: r.words, []⟩ := by
  rw [endWord, if_neg (by simpa using h)]

lemma current_endWord (r : Reading) : r.endWord.current = [] := by
  by_cases h : r.current = []
  · rw [endWord_of_current_eq_nil h, h]
  · rw [endWord_of_current_ne_nil h]

lemma finished_of_current_eq_nil (h : r.current = []) : r.finished = r.words.reverse := by
  rw [finished, endWord_of_current_eq_nil h]

lemma finished_of_current_ne_nil (h : r.current ≠ []) :
    r.finished = r.words.reverse ++ [r.current.reverse] := by
  rw [finished, endWord_of_current_ne_nil h, List.reverse_cons]

lemma finished_endWord (r : Reading) : r.endWord.finished = r.finished :=
  finished_of_current_eq_nil r.current_endWord

lemma current_extend_ne_nil (r : Reading) (c : Char) : (r.extend c).current ≠ [] := by
  intro hnil
  exact toLower_ne_nil c (List.reverse_eq_nil_iff.1 (List.append_eq_nil_iff.1 hnil).1)

lemma next_of_isSeparator (hc : isSeparator c = true) : r.next name (c, i) = r.endWord := by
  rw [next]
  exact if_pos hc

/-- Between words, a character begins one. -/
lemma next_of_current_eq_nil (hc : isSeparator c = false) (h : r.current = []) :
    r.next name (c, i) = r.extend c := by
  simp [next, hc, h]

/-- Within a word, a character begins the next one or belongs to the word. -/
lemma next_of_current_ne_nil (hc : isSeparator c = false) (h : r.current ≠ []) {b : Char}
    (hb : charBefore? name i = some b) : r.next name (c, i) =
      if beginsWord b c name[i + 1]? then r.endWord.extend c else r.extend c := by
  simp [next, hc, h, hb]

end Reading

/-! ## Reading a name -/

namespace Reading

/-- The words of a reading if what is left of the name begins with the rest `w` of the word that is
being read and has the words `ws` behind that. -/
def completed (r : Reading) (w : List Char) (ws : List (List Char)) : List (List Char) :=
  r.words.reverse ++ (r.current.reverse ++ w.flatMap toLower) :: small ws

/-- The words to which a reading comes if `back` is left behind the character `before`.  Between
words these are the words of `back`.  Within a word the character `before` belongs to it, and where
the word ends is told by the words of what begins with that character. -/
inductive ComesTo (r : Reading) (before : Option Char) (back : List Char) :
    List (List Char) → Prop where
  | between (hnone : r.current = []) :
      ComesTo r before back (r.words.reverse ++ small (JobName.words back))
  | within {b : Char} {w : List Char} {ws : List (List Char)} (hsome : r.current ≠ [])
      (hbefore : before = some b) (hb : isSeparator b = false)
      (hwords : JobName.words (b :: back) = (b :: w) :: ws) :
      ComesTo r before back (r.completed w ws)

variable {name : Array Char} {r : Reading} {c : Char} {cs w : List Char}
  {ws result : List (List Char)} {i : ℕ}

lemma completed_of_current_eq_nil (h : r.current = []) :
    r.completed w ws = r.finished ++ small (w :: ws) := by
  rw [completed, finished_of_current_eq_nil h, h]
  rfl

lemma completed_nil (h : r.current ≠ []) : r.completed [] ws = r.finished ++ small ws := by
  rw [completed, finished_of_current_ne_nil h]
  simp

lemma completed_extend (r : Reading) (c : Char) :
    (r.extend c).completed w ws = r.completed (c :: w) ws := by
  simp [completed, extend]

/-- A character that begins or continues a word is what that word has in front of the rest. -/
lemma comesTo_extend (hc : isSeparator c = false)
    (hwords : JobName.words (c :: cs) = (c :: w) :: ws) :
    (r.extend c).ComesTo (some c) cs (r.completed (c :: w) ws) := by
  rw [← completed_extend]
  exact .within (r.current_extend_ne_nil c) rfl hc hwords

lemma comesTo_endWord (r : Reading) (before : Option Char) (back : List Char) :
    r.endWord.ComesTo before back (r.finished ++ small (JobName.words back)) :=
  .between r.current_endWord

/-- Between words, a character that is read does not change the words to which a reading comes. -/
lemma comesTo_next_of_current_eq_nil (hnone : r.current = []) :
    (r.next name (c, i)).ComesTo (some c) cs
      (r.words.reverse ++ small (JobName.words (c :: cs))) := by
  rw [← finished_of_current_eq_nil hnone]
  by_cases hc : isSeparator c = true
  · rw [next_of_isSeparator hc, words_cons_of_isSeparator hc]
    exact r.comesTo_endWord (some c) cs
  · have hplain : isSeparator c = false := by simpa using hc
    obtain ⟨w, ws, hwords⟩ := exists_words_cons hplain cs
    rw [next_of_current_eq_nil hplain hnone, hwords, ← completed_of_current_eq_nil hnone]
    exact comesTo_extend hplain hwords

/-- Neither does it within a word. -/
lemma comesTo_next_of_current_ne_nil (hsome : r.current ≠ []) {b : Char}
    (hbefore : charBefore? name i = some b) (hb : isSeparator b = false)
    (hbehind : name[i + 1]? = cs.head?) (hwords : JobName.words (b :: c :: cs) = (b :: w) :: ws) :
    (r.next name (c, i)).ComesTo (some c) cs (r.completed w ws) := by
  by_cases hc : isSeparator c = true
  · have hends : JobName.words (b :: c :: cs) = [b] :: JobName.words cs := by
      rw [← List.singleton_append, words_append_cons hc, words_singleton hb, List.singleton_append]
    -- Nothing of the word is left, and the words behind it are those of the rest.
    rw [hends] at hwords
    obtain ⟨hw, rfl⟩ := List.cons.inj hwords
    obtain rfl := (List.cons.inj hw).2
    rw [next_of_isSeparator hc, completed_nil hsome]
    exact r.comesTo_endWord (some c) cs
  · have hplain : isSeparator c = false := by simpa using hc
    obtain ⟨w', ws', hrest⟩ := exists_words_cons hplain cs
    rw [next_of_current_ne_nil hplain hsome hbefore, hbehind]
    rw [words_cons_cons hb hplain, hrest] at hwords
    by_cases hbegins : beginsWord b c cs.head? = true
    · rw [if_pos hbegins] at hwords ⊢
      obtain ⟨hw, rfl⟩ := List.cons.inj hwords
      obtain rfl := (List.cons.inj hw).2
      rw [completed_nil hsome, ← finished_endWord, ← completed_of_current_eq_nil r.current_endWord]
      exact comesTo_extend hplain hrest
    · rw [if_neg hbegins] at hwords ⊢
      obtain ⟨hw, rfl⟩ := List.cons.inj hwords
      obtain rfl := (List.cons.inj hw).2
      exact comesTo_extend hplain hrest

/-- **A character that is read does not change the words to which a reading comes.** -/
lemma ComesTo.next (h : r.ComesTo (charBefore? name i) (c :: cs) result)
    (hbehind : name[i + 1]? = cs.head?) : (r.next name (c, i)).ComesTo (some c) cs result := by
  cases h with
  | between hnone => exact comesTo_next_of_current_eq_nil hnone
  | within hsome hbefore hb hwords =>
      exact comesTo_next_of_current_ne_nil hsome hbefore hb hbehind hwords

/-- A reading has come to its words when nothing is left of the name. -/
lemma ComesTo.finished_eq {before : Option Char} (h : r.ComesTo before [] result) :
    r.finished = result := by
  cases h with
  | between hnone =>
      rw [finished_of_current_eq_nil hnone, words_nil, small, List.map_nil, List.append_nil]
  | within hsome _ hb hwords =>
      rw [words_singleton hb] at hwords
      obtain ⟨hw, rfl⟩ := List.cons.inj hwords
      obtain rfl := (List.cons.inj hw).2
      rw [completed_nil hsome, small, List.map_nil, List.append_nil]

end Reading

/-- What is left of a name is read as its words are.  The induction is on what is left, and
`ComesTo` holds of the reading in front of it. -/
lemma finished_foldl_next {name front back : List Char} (hname : name = front ++ back)
    {r : Reading} {result : List (List Char)}
    (h : r.ComesTo (charBefore? name.toArray front.length) back result) :
    ((back.zipIdx front.length).foldl (Reading.next name.toArray) r).finished = result := by
  induction back generalizing front r with
  | nil => exact h.finished_eq
  | cons c cs ih =>
      have hrest : name = (front ++ [c]) ++ cs := by simp [hname]
      have hlength : (front ++ [c]).length = front.length + 1 := by simp
      have hbefore : charBefore? name.toArray (front ++ [c]).length = some c := by
        simp [charBefore?, hname]
      have hbehind : name.toArray[front.length + 1]? = cs.head? := by
        rw [List.getElem?_toArray, hrest, ← hlength, List.getElem?_append_right (Nat.le_refl _),
          Nat.sub_self, List.head?_eq_getElem?]
      have hnext := h.next hbehind
      rw [← hbefore] at hnext
      rw [List.zipIdx_cons, List.foldl_cons, ← hlength]
      exact ih hrest hnext

/-- **Reading finds the words of a name.** -/
lemma smallWords_eq (name : List Char) : smallWords name = small (words name) :=
  finished_foldl_next (List.nil_append name).symm (.between rfl)

/-- What has been read of a name in front of a position. -/
def readingAt (name : List Char) (i : ℕ) : Reading :=
  (name.zipIdx.take i).foldl (Reading.next name.toArray) .start

lemma finished_readingAt_length (name : List Char) :
    (readingAt name name.length).finished = smallWords name := by
  rw [readingAt, List.take_of_length_le (by simp)]
  rfl

lemma readingAt_succ {name : List Char} {i : ℕ} (hi : i < name.length) :
    readingAt name (i + 1) = (readingAt name i).next name.toArray (name[i], i) := by
  have hindex : i < name.zipIdx.length := by simpa using hi
  rw [readingAt, List.take_add_one, List.getElem?_eq_getElem hindex]
  simp [readingAt]

/-- **The look behind never misses**: within a word there is a character in front, and it is no
separator. -/
lemma charBefore?_of_current_ne_nil {name : List Char} {i : ℕ} (hi : i ≤ name.length)
    (h : (readingAt name i).current ≠ []) :
    ∃ b, charBefore? name.toArray i = some b ∧ isSeparator b = false := by
  cases i with
  | zero => exact absurd rfl h
  | succ i =>
      have hlt : i < name.length := hi
      refine ⟨name[i], by simp [charBefore?, hlt], ?_⟩
      by_contra hsep
      rw [readingAt_succ hlt, Reading.next_of_isSeparator (by simpa using hsep)] at h
      exact h (Reading.current_endWord _)

/-! ## The names of jobs -/

/-- The job name that words make. -/
def nameOf : (words : List (List Char)) → String
  | [] => unknown
  | words => String.ofList (['_'].intercalate words)

lemma nameOf_of_ne_nil {ws : List (List Char)} (h : ws ≠ []) :
    nameOf ws = String.ofList (['_'].intercalate ws) := by
  cases ws with
  | nil => exact absurd rfl h
  | cons w ws => rfl

lemma derive_some (name : String) : derive (some name) = nameOf (small (words name.toList)) := by
  rw [← smallWords_eq, derive]
  cases smallWords name.toList with
  | nil => rfl
  | cons w ws => rfl

lemma intercalate_append {us vs : List (List Char)} (hus : us ≠ []) (hvs : vs ≠ []) :
    ['_'].intercalate (us ++ vs) = ['_'].intercalate us ++ '_' :: ['_'].intercalate vs := by
  induction us with
  | nil => exact absurd rfl hus
  | cons u us ih =>
      by_cases h : us = []
      · rw [h, List.singleton_append, List.intercalate_cons_of_ne_nil hvs,
          List.intercalate_singleton, List.append_assoc, List.singleton_append]
      · rw [List.cons_append, List.intercalate_cons_of_ne_nil (by simp [h]), ih h,
          List.intercalate_cons_of_ne_nil h]
        simp

lemma nameOf_append {us vs : List (List Char)} (hus : us ≠ []) (hvs : vs ≠ []) :
    nameOf (us ++ vs) = nameOf us ++ "_" ++ nameOf vs := by
  rw [nameOf_of_ne_nil hus, nameOf_of_ne_nil hvs, nameOf_of_ne_nil (by simp [hus]),
    intercalate_append hus hvs]
  apply String.toList_injective
  simp

/-- Characters that are no separators, with one underscore between some of them. -/
inductive IsSnake : List Char → Prop where
  | single {c : Char} (hc : isSeparator c = false) : IsSnake [c]
  | cons {c : Char} {cs : List Char} (hc : isSeparator c = false) (hcs : IsSnake cs) :
      IsSnake (c :: cs)
  | underscore {c : Char} {cs : List Char} (hc : isSeparator c = false) (hcs : IsSnake cs) :
      IsSnake (c :: '_' :: cs)

namespace IsSnake

variable {cs ds : List Char}

lemma of_forall (hne : cs ≠ []) (h : ∀ c ∈ cs, isSeparator c = false) : IsSnake cs := by
  induction cs with
  | nil => exact absurd rfl hne
  | cons c cs ih =>
      obtain ⟨hc, hcs⟩ := List.forall_mem_cons.1 h
      by_cases hnil : cs = []
      · rw [hnil]
        exact .single hc
      · exact .cons hc (ih hnil hcs)

lemma append (h : IsSnake cs) (hds : IsSnake ds) : IsSnake (cs ++ '_' :: ds) := by
  induction h with
  | single hc => exact .underscore hc hds
  | cons hc _ ih => exact .cons hc ih
  | underscore hc _ ih => exact .underscore hc ih

lemma intercalate {ws : List (List Char)} (hne : ws ≠ []) (h : ∀ w ∈ ws, IsSnake w) :
    IsSnake (['_'].intercalate ws) := by
  induction ws with
  | nil => exact absurd rfl hne
  | cons w ws ih =>
      obtain ⟨hw, hws⟩ := List.forall_mem_cons.1 h
      by_cases hnil : ws = []
      · rw [hnil, List.intercalate_singleton]
        exact hw
      · rw [List.intercalate_cons_of_ne_nil hnil, List.append_assoc]
        exact hw.append (ih hnil hws)

lemma head?_ne (h : IsSnake cs) : cs.head? ≠ some '_' := by
  have hc : ∀ {c : Char}, isSeparator c = false → some c ≠ some '_' := by
    rintro c hc ⟨⟩
    exact absurd hc (by decide)
  cases h with
  | single h => exact hc h
  | cons h _ => exact hc h
  | underscore h _ => exact hc h

lemma reverse (h : IsSnake cs) : IsSnake cs.reverse := by
  have hsnoc : ∀ {c : Char} {ds : List Char}, isSeparator c = false → IsSnake ds →
      IsSnake (ds ++ [c]) := by
    intro c ds hc hds
    induction hds with
    | single hd => exact .cons hd (.single hc)
    | cons hd _ ih => exact .cons hd ih
    | underscore hd _ ih => exact .underscore hd ih
  induction h with
  | single hc => exact .single hc
  | cons hc _ ih =>
      rw [List.reverse_cons]
      exact hsnoc hc ih
  | @underscore c cs hc _ ih =>
      rw [List.reverse_cons, List.reverse_cons, List.append_assoc]
      exact ih.append (.single hc)

lemma getLast?_ne (h : IsSnake cs) : cs.getLast? ≠ some '_' := by
  rw [← List.head?_reverse]
  exact h.reverse.head?_ne

lemma not_doubled (h : IsSnake cs) : ¬['_', '_'] <:+: cs := by
  induction h with
  | single hc => exact fun hin => absurd hin.length_le (by simp)
  | @cons c cs hc hcs ih =>
      intro hin
      rcases List.infix_cons_iff.1 hin with hfront | hin
      · obtain ⟨rfl, -⟩ := List.cons_prefix_cons.1 hfront
        exact absurd hc (by decide)
      · exact ih hin
  | @underscore c cs hc hcs ih =>
      intro hin
      rcases List.infix_cons_iff.1 hin with hfront | hin
      · obtain ⟨rfl, -⟩ := List.cons_prefix_cons.1 hfront
        exact absurd hc (by decide)
      · rcases List.infix_cons_iff.1 hin with hfront | hin
        · obtain ⟨rest, rfl⟩ := (List.cons_prefix_cons.1 hfront).2
          exact hcs.head?_ne rfl
        · exact ih hin

lemma mem (h : IsSnake cs) {c : Char} (hc : c ∈ cs) : c = '_' ∨ isSeparator c = false := by
  induction h with
  | single hd => exact .inr (by rwa [List.mem_singleton.1 hc])
  | cons hd _ ih =>
      rcases List.mem_cons.1 hc with rfl | hc
      · exact .inr hd
      · exact ih hc
  | underscore hd _ ih =>
      rcases List.mem_cons.1 hc with rfl | hc
      · exact .inr hd
      · rcases List.mem_cons.1 hc with rfl | hc
        · exact .inl rfl
        · exact ih hc

end IsSnake

/-- The shape of a job name: something without blanks and hyphens, with underscores only between
other characters, and one at a time. -/
structure IsJobName (name : String) : Prop where
  ne_empty : name ≠ ""
  plain : ∀ c ∈ name.toList, isBlank c = false ∧ c ≠ '-'
  head : name.toList.head? ≠ some '_'
  last : name.toList.getLast? ≠ some '_'
  single : ¬['_', '_'] <:+: name.toList

lemma IsSnake.isJobName {name : String} (h : IsSnake name.toList) : IsJobName name where
  ne_empty := by
    rintro rfl
    exact nomatch h
  plain := by
    intro c hc
    have hunderscore : isBlank '_' = false ∧ '_' ≠ '-' := by decide
    rcases h.mem hc with rfl | hsep
    · exact hunderscore
    · simp only [isSeparator, Bool.or_eq_false_iff, beq_eq_false_iff_ne] at hsep
      exact hsep.1
  head := h.head?_ne
  last := h.getLast?_ne
  single := h.not_doubled

lemma isSnake_of_mem_small {name w : List Char} (hw : w ∈ small (words name)) : IsSnake w := by
  obtain ⟨v, hv, rfl⟩ := List.mem_map.1 hw
  apply IsSnake.of_forall
  · intro hnil
    have hempty : v = [] := by
      apply List.eq_nil_iff_forall_not_mem.2
      intro c hc
      exact toLower_ne_nil c (List.flatMap_eq_nil_iff.1 hnil c hc)
    rw [hempty] at hv
    exact nil_notMem_words name hv
  · intro d hd
    obtain ⟨c, hc, hdc⟩ := List.mem_flatMap.1 hd
    exact isSeparator_of_mem_toLower (isSeparator_of_mem_words hv hc) hdc

lemma isSnake_derive (appName : Option String) : IsSnake (derive appName).toList := by
  have hletters : unknown.toList.all (!isSeparator ·) = true := by decide
  have hunknown : IsSnake unknown.toList := IsSnake.of_forall (by decide) (by simpa using hletters)
  cases appName with
  | none => exact hunknown
  | some name =>
      rw [derive_some]
      by_cases hnone : small (words name.toList) = []
      · rw [hnone]
        exact hunknown
      · rw [nameOf_of_ne_nil hnone, String.toList_ofList]
        exact IsSnake.intercalate hnone fun w hw => isSnake_of_mem_small hw

lemma derive_append {x y : String} {s : Char} (hs : isSeparator s = true)
    (hx : ∃ c ∈ x.toList, isSeparator c = false) (hy : ∃ c ∈ y.toList, isSeparator c = false) :
    derive (some (x ++ String.singleton s ++ y)) =
      derive (some x) ++ "_" ++ derive (some y) := by
  have hne : ∀ {name : String}, (∃ c ∈ name.toList, isSeparator c = false) →
      small (words name.toList) ≠ [] := by
    rintro name ⟨c, hmem, hc⟩ hnil
    exact words_ne_nil hmem hc (List.map_eq_nil_iff.1 hnil)
  have hwords : small (words (x ++ String.singleton s ++ y).toList) =
      small (words x.toList) ++ small (words y.toList) := by
    rw [small, small, small, ← List.map_append, ← words_append_cons hs]
    simp
  rw [derive_some, derive_some, derive_some, hwords, nameOf_append (hne hx) (hne hy)]

/-- **A job name is made of the words of the application name.**  A run of characters without
separators is cut into words in one way, in front of each capital behind a small letter or a digit,
or behind a capital and in front of a small letter.  The job name consists of the words of all runs,
in small letters and with underscores between them, and is `unknown` if there are none.  So it has
the shape of a job name whatever the application is called, and a separator between two names with
words becomes an underscore between their job names.  Within a word, the reader always finds a
character in front of the one that it reads. -/
theorem derive_segments :
    (∀ (run : List Char) (ws : List (List Char)), IsCut run ws ↔ wordsOfRun run = ws) ∧
    derive none = "unknown" ∧
    (∀ name : String, derive (some name) =
      nameOf (((runs name.toList).flatMap wordsOfRun).map (·.flatMap toLower))) ∧
    (∀ appName : Option String, IsJobName (derive appName)) ∧
    (∀ (x y : String) (s : Char), isSeparator s = true →
      (∃ c ∈ x.toList, isSeparator c = false) → (∃ c ∈ y.toList, isSeparator c = false) →
      derive (some (x ++ String.singleton s ++ y)) = derive (some x) ++ "_" ++ derive (some y)) ∧
    (∀ name : List Char, (readingAt name name.length).finished = smallWords name) ∧
    ∀ (name : List Char) (i : ℕ), i ≤ name.length → (readingAt name i).current ≠ [] →
      ∃ b, charBefore? name.toArray i = some b ∧ isSeparator b = false := by
  refine ⟨fun _ _ => isCut_iff, rfl, derive_some, ?_, ?_, finished_readingAt_length, ?_⟩
  · exact fun appName => (isSnake_derive appName).isJobName
  · exact fun x y s hs hx hy => derive_append hs hx hy
  · exact fun name i hi h => charBefore?_of_current_ne_nil hi h

/-- Two names with a separator between them, one with an acronym and one with a capital whose lower
case is two characters. -/
theorem derive_segments_myETLJob_izmir :
    (isSeparator ' ' = true ∧ (∃ c ∈ "MyETLJob".toList, isSeparator c = false) ∧
      (∃ c ∈ "İzmir".toList, isSeparator c = false) ∧
      derive (some ("MyETLJob" ++ String.singleton ' ' ++ "İzmir")) =
        derive (some "MyETLJob") ++ "_" ++ derive (some "İzmir")) ∧
    4 ≤ "MyETLJob".toList.length ∧ (readingAt "MyETLJob".toList 4).current ≠ [] ∧
      ∃ b, charBefore? "MyETLJob".toList.toArray 4 = some b ∧ isSeparator b = false := by
  have hx : ∃ c ∈ "MyETLJob".toList, isSeparator c = false := ⟨'M', by decide, by decide⟩
  have hy : ∃ c ∈ "İzmir".toList, isSeparator c = false := ⟨'z', by decide, by decide⟩
  have hcurrent : (readingAt "MyETLJob".toList 4).current ≠ [] := by decide +kernel
  refine ⟨⟨by decide, hx, hy, ?_⟩, by decide, hcurrent, ?_⟩
  · exact derive_segments.2.2.2.2.1 "MyETLJob" "İzmir" ' ' (by decide) hx hy
  · exact derive_segments.2.2.2.2.2.2 "MyETLJob".toList 4 (by decide) hcurrent

example : derive (some "MyETLJob") = "my_etl_job" := by decide +kernel

end Provenance.JobName
