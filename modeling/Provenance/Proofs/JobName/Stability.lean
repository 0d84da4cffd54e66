import Mathlib.Data.List.Basic
import Provenance.Proofs.JobName.Segments
import Provenance.Proofs.Text.Case

/-!
# Job names as application names

A job name may come back as the name of an application.  It is read by the same rules as any other
name, but it is in small letters now, and a few capitals have no lower case: they are left among the
small letters.  A word may begin at such a capital only then, because the capital in front of it has
become a small letter (`BeginsLate`).  Where that happens, and nowhere else, the job name of a job
name is another one (`derive_derive_eq_iff`).

Nothing more happens when a name is read a third time.  Small letters are their own lower case, and
the words of a name are not cut again (`wordsOfRun_of_mem`).
-/

namespace Provenance.JobName

open Text

/-! ## Words are not cut again -/

lemma beginsWord_of_none {b c : Char} (h : beginsWord b c none = true) (behind : Option Char) :
    beginsWord b c behind = true := by
  rw [beginsWord_iff] at h ⊢
  obtain ⟨hc, hb⟩ := h
  refine ⟨hc, ?_⟩
  rcases hb with hlower | hdigit | ⟨-, d, hd, -⟩
  · exact .inl hlower
  · exact .inr (.inl hdigit)
  · cases hd

lemma flatten_wordsOfRun (run : List Char) : (wordsOfRun run).flatten = run :=
  (isCut_iff.2 rfl).flatten_eq

/-- **A word is not cut again.**  What stands behind its last character does not matter, as a word
begins there or nothing does. -/
lemma wordsOfRun_of_mem {run w : List Char} (hw : w ∈ wordsOfRun run) : wordsOfRun w = [w] := by
  induction run using wordsOfRun.induct generalizing w with
  | case1 => cases hw
  | case2 c =>
      rw [List.mem_singleton.1 hw]
      rfl
  | case3 b c cs hbegins ih =>
      rw [wordsOfRun, if_pos hbegins] at hw
      rcases List.mem_cons.1 hw with rfl | hw
      · rfl
      · exact ih hw
  | case4 b c cs hbegins ih =>
      obtain ⟨v, ws, hrest⟩ := exists_wordsOfRun_cons c cs
      rw [wordsOfRun, if_neg hbegins, hrest, List.modifyHead_cons] at hw
      rcases List.mem_cons.1 hw with rfl | hw
      · have hword : wordsOfRun (c :: v) = [c :: v] := ih (hrest ▸ List.mem_cons_self)
        have hinside : ¬beginsWord b c v.head? = true := by
          cases v with
          | nil => exact fun h => hbegins (beginsWord_of_none h _)
          | cons d v =>
              have hcs : (c :: d :: v) ++ ws.flatten = c :: cs := by
                rw [← flatten_wordsOfRun (c :: cs), hrest, List.flatten_cons]
              obtain rfl := (List.cons.inj hcs).2
              exact hbegins
        rw [wordsOfRun, if_neg hinside, hword, List.modifyHead_cons]
      · exact ih (hrest ▸ List.mem_cons_of_mem _ hw)

/-- A run is one word if and only if no word begins inside. -/
lemma wordsOfRun_eq_singleton_iff {w : List Char} (hne : w ≠ []) : wordsOfRun w = [w] ↔
    ∀ front b c back, w = front ++ b :: c :: back → ¬beginsWord b c back.head? = true := by
  have hends : ∀ front b c back, w = front ++ b :: c :: back → ¬EndsBehind [w] (front ++ [b]) := by
    rintro front b c back rfl hend
    obtain ⟨rest, hrest, -⟩ := (endsBehind_cons_iff (by simp)).1 hend
    have hlength := congrArg List.length hrest
    simp only [List.length_append, List.length_cons, List.length_nil] at hlength
    omega
  rw [← isCut_iff]
  constructor
  · intro h front b c back hsplit hbegins
    exact hends front b c back hsplit
      ((h.endsBehind_iff front b c back hsplit).2 (beginsWord_iff.1 hbegins))
  · intro h
    refine ⟨by simp, by simpa using hne.symm, fun front b c back hsplit => ?_⟩
    rw [← beginsWord_iff]
    exact iff_of_false (hends front b c back hsplit) (h front b c back hsplit)

/-! ## Names made of words -/

lemma words_intercalate {ws : List (List Char)}
    (h : ∀ w ∈ ws, ∀ c ∈ w, isSeparator c = false) :
    words (['_'].intercalate ws) = ws.flatMap wordsOfRun := by
  have hunderscore : isSeparator '_' = true := by decide
  induction ws with
  | nil => rfl
  | cons w ws ih =>
      obtain ⟨hw, hws⟩ := List.forall_mem_cons.1 h
      by_cases hnil : ws = []
      · rw [hnil, List.intercalate_singleton, words_of_forall hw, List.flatMap_singleton]
      · rw [List.intercalate_cons_of_ne_nil hnil, List.append_assoc, List.singleton_append,
          words_append_cons hunderscore, words_of_forall hw, ih hws, List.flatMap_cons]

/-- The words of a job name: there are some, none is empty, and their characters are no separators
and their own lower case. -/
structure AreSmallWords (ws : List (List Char)) : Prop where
  ne_nil : ws ≠ []
  nil_notMem : [] ∉ ws
  plain : ∀ w ∈ ws, ∀ c ∈ w, isSeparator c = false
  small : ∀ w ∈ ws, ∀ c ∈ w, toLower c = [c]

lemma small_eq_self {ws : List (List Char)} (h : ∀ w ∈ ws, ∀ c ∈ w, toLower c = [c]) :
    small ws = ws := by
  have hsame : ∀ w ∈ ws, w.flatMap toLower = w := by
    intro w hw
    rw [List.flatMap_congr (h w hw), List.flatMap_singleton']
  rw [small, List.map_congr_left hsame, List.map_id']

lemma areSmallWords_small {name : List Char} (h : words name ≠ []) :
    AreSmallWords (small (words name)) where
  ne_nil := by simpa [small] using h
  nil_notMem := fun hnil => nomatch isSnake_of_mem_small hnil
  plain := by
    intro w hw d hd
    obtain ⟨v, hv, rfl⟩ := List.mem_map.1 hw
    obtain ⟨c, hc, hdc⟩ := List.mem_flatMap.1 hd
    exact isSeparator_of_mem_toLower (isSeparator_of_mem_words hv hc) hdc
  small := by
    intro w hw d hd
    obtain ⟨v, -, rfl⟩ := List.mem_map.1 hw
    obtain ⟨c, -, hdc⟩ := List.mem_flatMap.1 hd
    exact toLower_of_mem_toLower hdc

namespace AreSmallWords

variable {us ws : List (List Char)}

/-- Words that are cut are words. -/
lemma cut (h : AreSmallWords ws) : AreSmallWords (ws.flatMap wordsOfRun) := by
  have hchars : ∀ w ∈ ws.flatMap wordsOfRun, ∃ v ∈ ws, ∀ c ∈ w, c ∈ v := by
    intro w hw
    obtain ⟨v, hv, hwv⟩ := List.mem_flatMap.1 hw
    refine ⟨v, hv, fun c hc => ?_⟩
    rw [← flatten_wordsOfRun v]
    exact List.mem_flatten_of_mem hwv hc
  constructor
  · intro hnil
    obtain ⟨v, hv⟩ := List.exists_mem_of_ne_nil ws h.ne_nil
    have hempty : v = [] := by
      rw [← flatten_wordsOfRun v, List.flatMap_eq_nil_iff.1 hnil v hv, List.flatten_nil]
    exact h.nil_notMem (hempty ▸ hv)
  · intro hnil
    obtain ⟨v, -, hv⟩ := List.mem_flatMap.1 hnil
    exact (isCut_iff.2 rfl).nil_notMem hv
  · intro w hw c hc
    obtain ⟨v, hv, hsub⟩ := hchars w hw
    exact h.plain v hv c (hsub c hc)
  · intro w hw c hc
    obtain ⟨v, hv, hsub⟩ := hchars w hw
    exact h.small v hv c (hsub c hc)

/-- A name tells the words of which it is made. -/
lemma splitOn_nameOf (h : AreSmallWords ws) : (nameOf ws).toList.splitOn '_' = ws := by
  have hplain : ∀ w ∈ ws, '_' ∉ w :=
    fun w hw hmem => absurd (h.plain w hw '_' hmem) (by decide)
  rw [nameOf_of_ne_nil h.ne_nil, String.toList_ofList,
    List.splitOn_intercalate '_' hplain h.ne_nil]

/-- The job name of a name that is made of small words is made of the words into which these are
cut. -/
lemma derive_nameOf (h : AreSmallWords ws) :
    derive (some (nameOf ws)) = nameOf (ws.flatMap wordsOfRun) := by
  rw [derive_some, nameOf_of_ne_nil h.ne_nil, String.toList_ofList, words_intercalate h.plain,
    small_eq_self h.cut.small]

/-- Such a name is its own job name if and only if none of the words is cut. -/
lemma derive_nameOf_eq_iff (h : AreSmallWords ws) :
    derive (some (nameOf ws)) = nameOf ws ↔ ∀ w ∈ ws, wordsOfRun w = [w] := by
  rw [h.derive_nameOf]
  constructor
  · intro heq w hw
    rw [← h.splitOn_nameOf, ← heq, h.cut.splitOn_nameOf] at hw
    obtain ⟨v, -, hwv⟩ := List.mem_flatMap.1 hw
    exact wordsOfRun_of_mem hwv
  · intro hwhole
    rw [List.flatMap_congr hwhole, List.flatMap_singleton']

end AreSmallWords

/-! ## Capitals among small letters -/

/-- The capital `c` has no lower case, and a word begins at it when the characters around it are
made small. -/
def BeginsLate (b c : Char) (behind : Option Char) : Prop :=
  toLower c = [c] ∧ ∃ last ∈ (toLower b).getLast?,
    beginsWord last c (behind.bind fun d => (toLower d).head?) = true

/-- A capital in small letters has been there before. -/
lemma exists_of_flatMap_toLower {w front back : List Char} {c : Char} (hc : isUpper c = true)
    (h : w.flatMap toLower = front ++ c :: back) : ∃ u v, w = u ++ c :: v ∧ toLower c = [c] ∧
      front = u.flatMap toLower ∧ back = v.flatMap toLower := by
  induction w generalizing front with
  | nil => simp at h
  | cons a w ih =>
      rw [List.flatMap_cons] at h
      rcases List.append_eq_append_iff.1 h with ⟨rest, rfl, hrest⟩ | ⟨rest, ha, hrest⟩
      · obtain ⟨u, v, rfl, hsame, rfl, hback⟩ := ih hrest
        exact ⟨a :: u, v, rfl, hsame, rfl, hback⟩
      · cases rest with
        | nil =>
            have hbare : w.flatMap toLower = [] ++ c :: back := hrest.symm
            obtain ⟨u, v, rfl, hsame, hu, hback⟩ := ih hbare
            refine ⟨a :: u, v, rfl, hsame, ?_, hback⟩
            rw [List.flatMap_cons, ← hu, ha, List.append_nil, List.append_nil]
        | cons d rest =>
            obtain ⟨rfl, hback⟩ := List.cons.inj hrest
            obtain ⟨hsame, rfl⟩ := eq_of_mem_toLower (c := a) (by simp [ha]) (.inl hc)
            rw [hsame] at ha
            obtain ⟨rfl, rfl⟩ : front = [] ∧ rest = [] := by
              cases front with
              | nil => exact ⟨rfl, (List.cons.inj ha).2.symm⟩
              | cons e front => exact absurd (List.cons.inj ha).2 (by simp)
            exact ⟨[], w, rfl, hsame, rfl, hback⟩

lemma head?_flatMap_toLower (v : List Char) :
    (v.flatMap toLower).head? = v.head?.bind fun d => (toLower d).head? := by
  cases v with
  | nil => rfl
  | cons d v =>
      obtain ⟨e, es, he⟩ := List.exists_cons_of_ne_nil (toLower_ne_nil d)
      simp [he]

/-- A word begins inside a word in small letters if and only if one begins late in that word. -/
lemma exists_beginsWord_small_iff (w : List Char) :
    (∃ front b c back, w.flatMap toLower = front ++ b :: c :: back ∧
        beginsWord b c back.head? = true) ↔
      ∃ front b c back, w = front ++ b :: c :: back ∧ BeginsLate b c back.head? := by
  constructor
  · rintro ⟨front, b, c, back, hsplit, hbegins⟩
    rw [List.append_cons] at hsplit
    obtain ⟨u, v, rfl, hsame, hu, rfl⟩ :=
      exists_of_flatMap_toLower (beginsWord_iff.1 hbegins).1 hsplit
    rw [head?_flatMap_toLower] at hbegins
    rcases List.eq_nil_or_concat u with rfl | ⟨u, a, rfl⟩
    · simp at hu
    · have hlast : b ∈ (toLower a).getLast? := by
        have hend := congrArg List.getLast? hu
        rw [List.concat_eq_append, List.flatMap_append, List.flatMap_singleton,
          List.getLast?_append, List.getLast?_append] at hend
        obtain ⟨e, he⟩ := Option.ne_none_iff_exists'.1
          (mt List.getLast?_eq_none_iff.1 (toLower_ne_nil a))
        rw [he] at hend ⊢
        simpa using hend.symm
      exact ⟨u, a, c, v, by simp, hsame, b, hlast, hbegins⟩
  · rintro ⟨front, b, c, back, rfl, hsame, last, hlast, hbegins⟩
    obtain ⟨lower, hlower⟩ := List.getLast?_eq_some_iff.1 hlast
    refine ⟨front.flatMap toLower ++ lower, last, c, back.flatMap toLower, ?_, ?_⟩
    · simp [hlower, hsame]
    · rw [head?_flatMap_toLower]
      exact hbegins

/-! ## Reading a name again -/

lemma derive_unknown : derive (some (derive none)) = derive none := by decide +kernel

/-- The job name of a name without words is that of no name at all. -/
lemma derive_of_words_eq_nil {name : String} (h : words name.toList = []) :
    derive (some name) = derive none := by
  rw [derive_some, h]
  rfl

/-- **When the job name of a job name is the same**: no word begins late within a word. -/
lemma derive_derive_eq_iff (name : String) :
    derive (some (derive (some name))) = derive (some name) ↔
      ∀ w ∈ words name.toList, ∀ front b c back, w = front ++ b :: c :: back →
        ¬BeginsLate b c back.head? := by
  by_cases hnone : words name.toList = []
  · rw [derive_of_words_eq_nil hnone, hnone]
    exact iff_of_true derive_unknown (by simp)
  · have hwords : AreSmallWords (small (words name.toList)) := areSmallWords_small hnone
    rw [derive_some name, hwords.derive_nameOf_eq_iff, small, List.forall_mem_map]
    refine forall₂_congr fun w hw => ?_
    have hne : w.flatMap toLower ≠ [] :=
      fun hnil => hwords.nil_notMem (hnil ▸ List.mem_map_of_mem hw)
    have hiff := not_congr (exists_beginsWord_small_iff w)
    rw [wordsOfRun_eq_singleton_iff hne]
    simpa only [not_exists, not_and] using hiff

/-- **A job name is settled when it is read again**: its words have been cut by then. -/
lemma derive_derive_derive (name : String) :
    derive (some (derive (some (derive (some name))))) = derive (some (derive (some name))) := by
  by_cases hnone : words name.toList = []
  · rw [derive_of_words_eq_nil hnone, derive_unknown, derive_unknown]
  · have hwords : AreSmallWords (small (words name.toList)) := areSmallWords_small hnone
    rw [derive_some name, hwords.derive_nameOf, hwords.cut.derive_nameOf_eq_iff]
    intro w hw
    obtain ⟨v, -, hwv⟩ := List.mem_flatMap.1 hw
    exact wordsOfRun_of_mem hwv

/-- A name in which every capital has a lower case is read again as the same job name. -/
lemma derive_derive_of_forall {name : String}
    (h : ∀ c ∈ name.toList, isUpper c = true → toLower c ≠ [c]) :
    derive (some (derive (some name))) = derive (some name) := by
  rw [derive_derive_eq_iff]
  rintro w hw front b c back rfl ⟨hsame, last, -, hbegins⟩
  have hmem : c ∈ (words name.toList).flatten := List.mem_flatten_of_mem hw (by simp)
  rw [flatten_words] at hmem
  exact h c (List.mem_of_mem_filter hmem) (beginsWord_iff.1 hbegins).1 hsame

/-! ## Names in snake case -/

/-- A name in snake case is made of words. -/
lemma IsSnake.exists_words {cs : List Char} (h : IsSnake cs) :
    ∃ ws, ws ≠ [] ∧ [] ∉ ws ∧ (∀ w ∈ ws, ∀ c ∈ w, c ∈ cs ∧ isSeparator c = false) ∧
      ['_'].intercalate ws = cs := by
  induction h with
  | @single c hc => exact ⟨[[c]], by simp, by simp, by simpa using hc, by simp⟩
  | @cons c cs hc hcs ih =>
      obtain ⟨ws, hne, hnil, hchars, rfl⟩ := ih
      obtain ⟨w, ws, rfl⟩ := List.exists_cons_of_ne_nil hne
      have hlonger : ['_'].intercalate ((c :: w) :: ws) = c :: ['_'].intercalate (w :: ws) := by
        cases ws with
        | nil => rw [List.intercalate_singleton, List.intercalate_singleton]
        | cons v ws => rw [List.intercalate_cons_cons, List.intercalate_cons_cons]; rfl
      refine ⟨(c :: w) :: ws, by simp, by simpa using mt (List.mem_cons_of_mem w) hnil, ?_, hlonger⟩
      intro v hv d hd
      rcases List.mem_cons.1 hv with rfl | hv
      · rcases List.mem_cons.1 hd with rfl | hd
        · exact ⟨List.mem_cons_self, hc⟩
        · exact (hchars w List.mem_cons_self d hd).imp_left (List.mem_cons_of_mem _)
      · exact (hchars v (List.mem_cons_of_mem _ hv) d hd).imp_left (List.mem_cons_of_mem _)
  | @underscore c cs hc hcs ih =>
      obtain ⟨ws, hne, hnil, hchars, rfl⟩ := ih
      refine ⟨[c] :: ws, by simp, by simpa using hnil, ?_, ?_⟩
      · intro v hv d hd
        rcases List.mem_cons.1 hv with rfl | hv
        · rw [List.mem_singleton.1 hd]
          exact ⟨List.mem_cons_self, hc⟩
        · exact (hchars v hv d hd).imp_left fun hmem =>
            List.mem_cons_of_mem _ (List.mem_cons_of_mem _ hmem)
      · rw [List.intercalate_cons_of_ne_nil hne]
        rfl

/-- **A name in snake case is its own job name**, if it is in small letters and has no capitals. -/
lemma derive_of_isSnake {name : String} (h : IsSnake name.toList)
    (hsmall : ∀ c ∈ name.toList, isUpper c = false ∧ toLower c = [c]) :
    derive (some name) = name := by
  obtain ⟨ws, hne, hnil, hchars, hname⟩ := h.exists_words
  have hwords : AreSmallWords ws :=
    ⟨hne, hnil, fun w hw c hc => (hchars w hw c hc).2,
      fun w hw c hc => (hsmall c (hchars w hw c hc).1).2⟩
  have heq : nameOf ws = name := by
    rw [nameOf_of_ne_nil hne, hname, String.ofList_toList]
  rw [← heq, hwords.derive_nameOf_eq_iff]
  intro w hw
  rw [wordsOfRun_eq_singleton_iff fun hempty => hnil (hempty ▸ hw)]
  rintro front b c back rfl hbegins
  have hlower : isUpper c = false := (hsmall c (hchars _ hw c (by simp)).1).1
  rw [(beginsWord_iff.1 hbegins).1] at hlower
  cases hlower

/-! ## Job names as application names -/

/-- **When a job name is stable.**  The job name of a job name is the same one unless a word of the
application's name has, behind its first character, a capital without a lower case at which a word
begins once the characters around it are small letters.  So it is the same if every capital of the
application's name has a lower case, and a name in snake case is its own job name if none of its
characters is a capital or has another lower case, as title-case letters have.  In any case the name
is settled when it has been read twice. -/
theorem derive_stable_iff :
    (∀ name : String, derive (some (derive (some name))) = derive (some name) ↔
      ∀ w ∈ words name.toList, ∀ front b c back, w = front ++ b :: c :: back →
        ¬BeginsLate b c back.head?) ∧
    (∀ name : String, (∀ c ∈ name.toList, isUpper c = true → toLower c ≠ [c]) →
      derive (some (derive (some name))) = derive (some name)) ∧
    (∀ name : String, derive (some (derive (some (derive (some name))))) =
      derive (some (derive (some name)))) ∧
    ∀ name : String, IsSnake name.toList →
      (∀ c ∈ name.toList, isUpper c = false ∧ toLower c = [c]) → derive (some name) = name := by
  refine ⟨derive_derive_eq_iff, fun name h => ?_, derive_derive_derive, fun name h hsmall => ?_⟩
  · exact derive_derive_of_forall h
  · exact derive_of_isSnake h hsmall

/-- A name with an acronym, all of whose capitals have a lower case, and a name in snake case. -/
theorem derive_stable_iff_myETLJob :
    ((∀ c ∈ "MyETLJob".toList, isUpper c = true → toLower c ≠ [c]) ∧
      derive (some (derive (some "MyETLJob"))) = derive (some "MyETLJob")) ∧
    IsSnake "word_count".toList ∧
      (∀ c ∈ "word_count".toList, isUpper c = false ∧ toLower c = [c]) ∧
      derive (some "word_count") = "word_count" := by
  have hcapitals : ∀ c ∈ "MyETLJob".toList, isUpper c = true → toLower c ≠ [c] := by
    have hall : "MyETLJob".toList.all (fun c => !isUpper c || toLower c != [c]) = true := by
      decide +kernel
    intro c hc hupper
    simpa [hupper] using List.all_eq_true.1 hall c hc
  have hsmall : ∀ c ∈ "word_count".toList, isUpper c = false ∧ toLower c = [c] := by
    have hall : "word_count".toList.all (fun c => !isUpper c && toLower c == [c]) = true := by
      decide +kernel
    intro c hc
    simpa using List.all_eq_true.1 hall c hc
  have hword : IsSnake "word".toList := .of_forall (by decide) fun c hc => by
    have hall : "word".toList.all (!isSeparator ·) = true := by decide
    simpa using List.all_eq_true.1 hall c hc
  have hcount : IsSnake "count".toList := .of_forall (by decide) fun c hc => by
    have hall : "count".toList.all (!isSeparator ·) = true := by decide
    simpa using List.all_eq_true.1 hall c hc
  have hsnake : IsSnake "word_count".toList := hword.append hcount
  refine ⟨⟨hcapitals, ?_⟩, hsnake, hsmall, ?_⟩
  · exact derive_stable_iff.2.1 "MyETLJob" hcapitals
  · exact derive_stable_iff.2.2.2 "word_count" hsnake hsmall

/-- The double-struck capital C has no lower case.  Behind another capital it belongs to an acronym,
and behind the small letter that has become of that capital a word begins at it. -/
theorem derive_not_stable_doubleStruck :
    derive (some "Aℂ") = "aℂ" ∧ derive (some "aℂ") = "a_ℂ" ∧
      ¬∀ name : String, derive (some (derive (some name))) = derive (some name) := by
  have hfirst : derive (some "Aℂ") = "aℂ" := by decide +kernel
  have hagain : derive (some "aℂ") = "a_ℂ" := by decide +kernel
  refine ⟨hfirst, hagain, fun h => ?_⟩
  have hstable := h "Aℂ"
  rw [hfirst, hagain] at hstable
  exact absurd hstable (by decide)

end Provenance.JobName
