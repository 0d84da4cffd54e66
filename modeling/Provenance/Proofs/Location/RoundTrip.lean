import Provenance.Location
import Provenance.Proofs.Stepwise
import Provenance.Proofs.Text.Blank
import Provenance.Proofs.Text.Characters

/-!
# Locations, written and read

A location comes about in two ways: a text spells it with a scheme of its own, or a text names it
on a default filesystem (`Location.Arises`).  Every such location is *well formed*
(`Location.IsWellFormed`): its scheme is written in small letters, its authority can be told from
its path, and its path ends where its text ends.

A well-formed location is read back from its text.  The text of a location has no slash in front of
its first `://`, so it is split there again, whatever colons the scheme has and whatever stands in
the path; what follows is cut at its first slash, where the path begins.  So being well formed is
the same as coming about (`arises_iff`), and the text of a location says all about it.
-/

namespace Provenance.Location

open Text

/-! ## Well-formed locations -/

/-- Whether a character can occur in the scheme of a location, which is kept in small letters. -/
def isSmallSchemeChar (c : Char) : Bool :=
  c.isLower || c.isDigit || c == '+' || c == '-' || c == '.' || c == ':'

/-- The parts of the location can be told from one another in its text. -/
structure IsWellFormed (l : Location) : Prop where
  scheme_head : ∃ c cs, l.scheme.toList = c :: cs ∧ c.isLower = true
  scheme : ∀ c ∈ l.scheme.toList, isSmallSchemeChar c = true
  authority : ∀ a, l.authority = some a → a ≠ "" ∧ ∀ c ∈ a.toList, c ≠ '/' ∧ isBlank c = false
  path_head : ∀ c ∈ l.path.toList.head?, c = '/'
  path_last : ∀ c ∈ l.path.toList.getLast?, isBlank c = false

/-- The locations that come about: those that a text spells, and those that a text names on a
filesystem that has come about. -/
inductive Arises : Location → Prop
  | parsed {raw : String} {l : Location} : parse raw = .ok l → Arises l
  | resolved {raw : String} {defaultFs l : Location} : Arises defaultFs →
      resolve raw defaultFs = .ok l → Arises l

/-! ## Characters of schemes -/

lemma isAlpha_of_isLower {c : Char} (h : c.isLower = true) : c.isAlpha = true := by
  show (c.isUpper || c.isLower) = true
  rw [h, Bool.or_true]

lemma toNat_lt_of_isSchemeChar {c : Char} (h : isSchemeChar c = true) : c.toNat < 128 := by
  have hbelow : ∀ last : Char, last.toNat < 128 → c.val ≤ last.val → c.toNat < 128 :=
    fun last hlast hle => Nat.lt_of_le_of_lt (UInt32.le_iff_toNat_le.1 hle) hlast
  simp only [isSchemeChar, Bool.or_eq_true, beq_iff_eq] at h
  rcases h with (((h | rfl) | rfl) | rfl) | rfl
  · have hkind : ((c.isUpper || c.isLower) || c.isDigit) = true := h
    simp only [Bool.or_eq_true] at hkind
    rcases hkind with (hupper | hlower) | hdigit
    · exact hbelow 'Z' (by decide) (of_decide_eq_true hupper).2
    · exact hbelow 'z' (by decide) (of_decide_eq_true (Bool.and_eq_true_iff.1 hlower).2)
    · exact hbelow '9' (by decide) (of_decide_eq_true (Bool.and_eq_true_iff.1 hdigit).2)
  all_goals decide

/-- A scheme is kept in small letters. -/
lemma isSmallSchemeChar_toLower {c : Char} (h : isSchemeChar c = true) :
    isSmallSchemeChar c.toLower = true := by
  have hlt : c.toNat < 128 := toNat_lt_of_isSchemeChar h
  exact of_toNat_lt (P := fun c => isSchemeChar c = true → isSmallSchemeChar c.toLower = true)
    (by decide) hlt h

lemma isLower_toLower {c : Char} (h : c.isAlpha = true) : c.toLower.isLower = true := by
  have hlt : c.toNat < 128 := toNat_lt_of_isSchemeChar (by simp [isSchemeChar, Char.isAlphanum, h])
  exact of_toNat_lt (P := fun c => c.isAlpha = true → c.toLower.isLower = true) (by decide) hlt h

/-- What is kept of a scheme is a scheme as it stands, and nothing in it looks like a path. -/
lemma facts_of_isSmallSchemeChar {c : Char} (h : isSmallSchemeChar c = true) :
    isSchemeChar c = true ∧ c.toLower = c ∧ c ≠ '/' ∧ isBlank c = false := by
  have hscheme : isSchemeChar c = true := by
    have hlower : c.isLower = true → c.isAlpha = true := isAlpha_of_isLower
    simp only [isSmallSchemeChar, Bool.or_eq_true] at h
    simp only [isSchemeChar, Char.isAlphanum, Bool.or_eq_true]
    tauto
  have hlt : c.toNat < 128 := toNat_lt_of_isSchemeChar hscheme
  exact ⟨hscheme, of_toNat_lt (P := fun c => isSmallSchemeChar c = true →
    c.toLower = c ∧ c ≠ '/' ∧ isBlank c = false) (by decide) hlt h⟩

/-! ## Splitting -/

lemma splitMarker?_eq_some {cs before after : List Char}
    (h : splitMarker? cs = some (before, after)) : cs = before ++ ':' :: after := by
  induction cs generalizing before with
  | nil => cases h
  | cons c cs ih =>
      unfold splitMarker? at h
      split at h
      · rename_i hmarker
        cases h
        rw [hmarker.1]
        rfl
      · obtain ⟨⟨front, rest⟩, hsplit, hparts⟩ := Option.map_eq_some_iff.1 h
        cases hparts
        rw [List.cons_append, ← ih hsplit]

/-- The marker is found behind any text without a slash. -/
lemma splitMarker?_append {before : List Char} (h : '/' ∉ before) (rest : List Char) :
    splitMarker? (before ++ ':' :: '/' :: '/' :: rest) = some (before, '/' :: '/' :: rest) := by
  induction before with
  | nil => rfl
  | cons c before ih =>
      have hbefore : '/' ∉ before := fun hmem => h (List.mem_cons_of_mem c hmem)
      have hnot : ¬(c = ':' ∧
          ['/', '/'].isPrefixOf (before ++ ':' :: '/' :: '/' :: rest) = true) := by
        rintro ⟨-, hslashes⟩
        cases before with
        | nil => simp at hslashes
        | cons d before =>
            have hd : '/' = d := (List.cons_prefix_cons.1 (List.isPrefixOf_iff_prefix.1 hslashes)).1
            exact hbefore (hd ▸ List.mem_cons_self)
      rw [List.cons_append, splitMarker?, if_neg hnot, ih hbefore]
      rfl

lemma splitColon?_eq_some {cs scheme rest : List Char}
    (h : splitColon? cs = some (scheme, rest)) : cs = scheme ++ ':' :: rest := by
  unfold splitColon? at h
  split at h
  · rename_i c front d back hspan
    cases h
    obtain ⟨hcs, -, hd⟩ := of_span_eq_cons hspan
    have hcolon : d = ':' := by simpa using hd
    rw [hcs, hcolon]
  · cases h

/-- A colon ends the scheme. -/
lemma splitScheme?_eq_some {cs scheme rest : List Char}
    (h : splitScheme? cs = some (scheme, rest)) : cs = scheme ++ ':' :: rest := by
  have hplain : ∀ {p : List Char × List Char → Bool} {parts : List Char × List Char},
      (splitColon? cs).filter p = some parts → cs = parts.1 ++ ':' :: parts.2 := by
    intro p parts hparts
    exact splitColon?_eq_some (Option.filter_eq_some_iff.1 hparts).1
  unfold splitScheme? at h
  split at h
  · rename_i before after hmarker
    split at h
    · exact hplain h
    · cases h
      exact splitMarker?_eq_some hmarker
  · exact hplain h

/-- A text is split at `://` if nothing in front of it is a slash. -/
lemma splitScheme?_marked {scheme : List Char} (hslash : '/' ∉ scheme) (rest : List Char) :
    splitScheme? (scheme ++ ':' :: '/' :: '/' :: rest) = some (scheme, '/' :: '/' :: rest) := by
  have hcontains : scheme.contains '/' = false := by simpa using hslash
  simp only [splitScheme?, splitMarker?_append hslash, hcontains, Bool.false_eq_true, if_false]

/-- The authority has no slash in it, and the path is the end of what is cut. -/
lemma splitAuthority_eq {rest authority path : List Char}
    (h : splitAuthority rest = (authority, path)) : '/' ∉ authority ∧ path <:+ rest := by
  unfold splitAuthority at h
  split at h
  · rename_i behind
    rw [List.span_eq_takeWhile_dropWhile] at h
    obtain ⟨rfl, rfl⟩ := Prod.mk.inj h
    refine ⟨fun hmem => ?_, ?_⟩
    · simpa using List.mem_takeWhile_imp hmem
    · exact ((List.dropWhile_suffix _).trans (List.suffix_cons '/' behind)).trans
        (List.suffix_cons '/' _)
  · obtain ⟨rfl, rfl⟩ := Prod.mk.inj h
    exact ⟨by simp, List.suffix_rfl⟩

/-- What is cut at its first slash was put together there. -/
lemma splitAuthority_append {authority path : List Char} (hauthority : '/' ∉ authority)
    (hpath : ∀ c ∈ path.head?, c = '/') :
    splitAuthority ('/' :: '/' :: (authority ++ path)) = (authority, path) := by
  rw [splitAuthority]
  refine span_append (fun c hc => ?_) (fun c hc => ?_)
  · have hne : c ≠ '/' := fun heq => hauthority (heq ▸ hc)
    simpa using hne
  · simpa using hpath c hc

/-- There is no authority without two slashes. -/
lemma splitAuthority_of_noSlashes {rest : List Char} (h : ∀ behind, rest ≠ '/' :: '/' :: behind) :
    splitAuthority rest = ([], rest) := by
  unfold splitAuthority
  split
  · exact absurd rfl (h _)
  · rfl

/-! ## Parsing -/

/-- The location that a scheme, an authority and a path make. -/
def made (scheme authority path : List Char) : Location where
  scheme := String.ofList (scheme.map Char.toLower)
  authority := if authority.isEmpty then none else some (String.ofList authority)
  path := String.ofList path

lemma ofParts_eq_ok {scheme rest : List Char} {l : Location} (h : ofParts scheme rest = .ok l) :
    ∃ authority path, splitAuthority rest = (authority, path) ∧ (∀ c ∈ path.head?, c = '/') ∧
      authority.any isBlank = false ∧ l = made scheme authority path := by
  unfold ofParts at h
  split at h
  rename_i authority path hsplit
  split at h
  · cases h
  rename_i hpath
  split at h
  · cases h
  rename_i hblank
  cases h
  refine ⟨authority, path, hsplit, fun c hc => ?_, by simpa using hblank, rfl⟩
  have hhead : path ≠ [] → path.head? = some '/' := by
    intro hne
    by_contra hother
    exact hpath ⟨hne, hother⟩
  have hne : path ≠ [] := by
    rintro rfl
    cases hc
  rw [hhead hne] at hc
  exact (Option.mem_some_iff.1 hc).symm

/-- A text that spells a location begins with its scheme and ends with its path. -/
lemma parts_of_parse {raw : String} {l : Location} (h : parse raw = .ok l) :
    ∃ scheme authority path, isScheme scheme = true ∧ '/' ∉ authority ∧
      authority.any isBlank = false ∧ (∀ c ∈ path.head?, c = '/') ∧
      path <:+ trimChars raw.toList ∧ l = made scheme authority path := by
  have htrimmed : ofTrimmed (trimChars raw.toList) = .ok l := Except.mapError_eq_ok_iff.1 h
  unfold ofTrimmed at htrimmed
  split at htrimmed
  · cases htrimmed
  split at htrimmed
  · cases htrimmed
  rename_i scheme rest hsplit
  split at htrimmed
  · rename_i hscheme
    obtain ⟨authority, path, hcut, hpath, hblank, rfl⟩ := ofParts_eq_ok htrimmed
    obtain ⟨hslash, hsuffix⟩ := splitAuthority_eq hcut
    have hend : rest <:+ trimChars raw.toList := by
      rw [splitScheme?_eq_some hsplit]
      exact (List.suffix_cons ':' rest).trans (List.suffix_append scheme _)
    exact ⟨scheme, authority, path, hscheme, hslash, hblank, hpath, hsuffix.trans hend, rfl⟩
  · cases htrimmed

/-- The path of a location cannot end in a blank if it ends a trimmed text. -/
lemma last_of_suffix {path cs : List Char} (h : path <:+ trimChars cs) :
    ∀ c ∈ path.getLast?, isBlank c = false := by
  intro c hc
  have hne : path ≠ [] := by
    rintro rfl
    cases hc
  obtain ⟨front, hfront⟩ := h
  refine (isTrimmed_trimChars cs).last c ?_
  rw [← hfront, List.getLast?_append_of_ne_nil front hne]
  exact hc

lemma isWellFormed_of_parse {raw : String} {l : Location} (h : parse raw = .ok l) :
    l.IsWellFormed := by
  obtain ⟨scheme, authority, path, hscheme, hslash, hblank, hpath, hend, rfl⟩ := parts_of_parse h
  cases scheme with
  | nil => cases hscheme
  | cons c cs =>
      obtain ⟨hc, hcs⟩ : c.isAlpha = true ∧ ∀ d ∈ cs, isSchemeChar d = true := by
        simpa [isScheme] using hscheme
      refine ⟨?_, ?_, ?_, ?_, ?_⟩
      · exact ⟨c.toLower, cs.map Char.toLower, by simp [made], isLower_toLower hc⟩
      · intro d hd
        simp only [made, String.toList_ofList] at hd
        obtain ⟨e, he, rfl⟩ := List.mem_map.1 hd
        refine isSmallSchemeChar_toLower ?_
        rcases List.mem_cons.1 he with rfl | he
        · simp [isSchemeChar, Char.isAlphanum, hc]
        · exact hcs e he
      · intro a ha
        simp only [made, Option.ite_none_left_eq_some, Option.some.injEq] at ha
        obtain ⟨hne, rfl⟩ := ha
        refine ⟨by simpa using hne, fun d hd => ?_⟩
        rw [String.toList_ofList] at hd
        refine ⟨fun heq => hslash (heq ▸ hd), ?_⟩
        simpa using List.any_eq_false.1 hblank d hd
      · simpa [made] using hpath
      · simpa [made] using last_of_suffix hend

/-! ## Resolving -/

/-- A bare path is taken on the default filesystem, which keeps its scheme and its authority. -/
lemma resolve_cases {raw : String} {defaultFs l : Location} (h : resolve raw defaultFs = .ok l) :
    parse (String.ofList (trimChars raw.toList)) = .ok l ∨
      trimChars raw.toList ≠ [] ∧ l = { defaultFs with
        path := String.ofList (qualifyPath defaultFs.path.toList (trimChars raw.toList)) } := by
  simp only [resolve] at h
  split at h
  · cases h
  rename_i hne
  split at h
  · exact .inl h
  · cases h
    exact .inr ⟨by simpa using hne, rfl⟩

lemma head?_qualifyPath {base cs : List Char} (hbase : ∀ c ∈ base.head?, c = '/') :
    ∀ c ∈ (qualifyPath base cs).head?, c = '/' := by
  unfold qualifyPath
  split
  · rename_i hroot
    rw [hroot]
    simp
  · intro c hc
    cases hdrop : dropTrailing (· == '/') base with
    | nil => simpa [hdrop, eq_comm] using hc
    | cons d ds =>
        have hhead := head?_of_isPrefix (dropTrailing_isPrefix (· == '/') base) (by simp [hdrop])
        rw [List.head?_append_of_ne_nil _ (by simp [hdrop]), hhead] at hc
        exact hbase c hc

lemma getLast?_qualifyPath (base : List Char) {cs : List Char} (hne : cs ≠ []) :
    (qualifyPath base cs).getLast? = cs.getLast? := by
  unfold qualifyPath
  split
  · rfl
  · rw [List.getLast?_append_of_ne_nil _ (by simp), List.getLast?_cons_of_ne_nil hne]

lemma isWellFormed_of_resolve {raw : String} {defaultFs l : Location}
    (hfs : defaultFs.IsWellFormed) (h : resolve raw defaultFs = .ok l) : l.IsWellFormed := by
  rcases resolve_cases h with hparse | ⟨hne, rfl⟩
  · exact isWellFormed_of_parse hparse
  · refine ⟨hfs.scheme_head, hfs.scheme, hfs.authority, ?_, ?_⟩
    · simpa using head?_qualifyPath hfs.path_head
    · rw [String.toList_ofList, getLast?_qualifyPath _ hne]
      exact (isTrimmed_trimChars raw.toList).last

lemma Arises.isWellFormed {l : Location} (h : l.Arises) : l.IsWellFormed := by
  induction h with
  | parsed h => exact isWellFormed_of_parse h
  | resolved _ h ih => exact isWellFormed_of_resolve ih h

/-! ## Texts of locations -/

namespace IsWellFormed

variable {l : Location}

lemma toList_toText (l : Location) : l.toText.toList =
    l.scheme.toList ++ ':' :: '/' :: '/' :: ((l.authority.getD "").toList ++ l.path.toList) := by
  simp [toText]

/-- There is no slash in a scheme. -/
lemma slash_notMem_scheme (h : l.IsWellFormed) : '/' ∉ l.scheme.toList :=
  fun hmem => (facts_of_isSmallSchemeChar (h.scheme _ hmem)).2.2.1 rfl

lemma isScheme (h : l.IsWellFormed) : Location.isScheme l.scheme.toList = true := by
  obtain ⟨c, cs, hl, hc⟩ := h.scheme_head
  have hcs : ∀ d ∈ cs, isSchemeChar d = true := fun d hd =>
    (facts_of_isSmallSchemeChar (h.scheme d (hl ▸ List.mem_cons_of_mem c hd))).1
  have halpha : c.isAlpha = true := isAlpha_of_isLower hc
  simpa [Location.isScheme, hl, halpha] using hcs

lemma map_toLower_scheme (h : l.IsWellFormed) :
    l.scheme.toList.map Char.toLower = l.scheme.toList := by
  rw [List.map_congr_left fun c hc => (facts_of_isSmallSchemeChar (h.scheme c hc)).2.1, List.map_id']

/-- An authority that is there is not empty, so an empty one is not there. -/
lemma authority_facts (h : l.IsWellFormed) :
    '/' ∉ (l.authority.getD "").toList ∧ (l.authority.getD "").toList.any isBlank = false ∧
      (if (l.authority.getD "").toList.isEmpty then none
        else some (l.authority.getD "")) = l.authority := by
  cases ha : l.authority with
  | none => simp
  | some a =>
      obtain ⟨hne, hchars⟩ := h.authority a ha
      refine ⟨fun hmem => (hchars _ hmem).1 rfl, ?_, ?_⟩
      · exact List.any_eq_false.2 fun c hc => by simp [(hchars c hc).2]
      · simp [hne]

lemma isTrimmed_toText (h : l.IsWellFormed) : IsTrimmed l.toText.toList := by
  obtain ⟨c, cs, hl, -⟩ := h.scheme_head
  refine ⟨fun d hd => ?_, fun d hd => ?_⟩
  · have hcd : c = d := by simpa [toList_toText, hl] using hd
    exact hcd ▸ (facts_of_isSmallSchemeChar (h.scheme c (hl ▸ List.mem_cons_self))).2.2.2
  · rw [toList_toText, List.getLast?_append_cons] at hd
    by_cases hpath : l.path.toList = []
    · have hplain : ∀ e ∈ ':' :: '/' :: '/' :: (l.authority.getD "").toList,
          isBlank e = false := by
        have hmarker : isBlank ':' = false ∧ isBlank '/' = false := by decide
        simpa [hmarker] using h.authority_facts.2.1
      rw [hpath, List.append_nil] at hd
      exact hplain d (List.mem_of_mem_getLast? hd)
    · have hsplit : ':' :: '/' :: '/' :: ((l.authority.getD "").toList ++ l.path.toList) =
          (':' :: '/' :: '/' :: (l.authority.getD "").toList) ++ l.path.toList := rfl
      rw [hsplit, List.getLast?_append_of_ne_nil _ hpath] at hd
      exact h.path_last d hd

lemma splitScheme?_toText (h : l.IsWellFormed) : splitScheme? l.toText.toList =
    some (l.scheme.toList, '/' :: '/' :: ((l.authority.getD "").toList ++ l.path.toList)) := by
  rw [toList_toText]
  exact splitScheme?_marked h.slash_notMem_scheme _

/-- What is cut off the text of a location is made the location again. -/
lemma ofTrimmed_toText (h : l.IsWellFormed) : ofTrimmed l.toText.toList = .ok l := by
  obtain ⟨hslash, hblank, hauthority⟩ := h.authority_facts
  have hne : l.toText.toList.isEmpty = false := by simp [toList_toText]
  have hpath : ¬(l.path.toList ≠ [] ∧ l.path.toList.head? ≠ some '/') := by
    rintro ⟨hne, hhead⟩
    cases hlist : l.path.toList with
    | nil => exact hne hlist
    | cons c cs => exact hhead (by rw [hlist, h.path_head c (by simp [hlist])]; rfl)
  simp only [ofTrimmed, hne, h.splitScheme?_toText, h.isScheme, ofParts,
    splitAuthority_append hslash h.path_head, hpath, hblank, hauthority, h.map_toLower_scheme,
    String.ofList_toList, Bool.false_eq_true, if_false, if_true]

/-- **A location is read back from its text.** -/
lemma parse_toText (h : l.IsWellFormed) : parse l.toText = .ok l := by
  rw [parse, h.isTrimmed_toText.trimChars_eq, h.ofTrimmed_toText]
  rfl

/-- The text of a location says all, so the default filesystem does not count. -/
lemma resolve_toText (h : l.IsWellFormed) (defaultFs : Location) :
    resolve l.toText defaultFs = .ok l := by
  have hne : l.toText.toList.isEmpty = false := by simp [toList_toText]
  simp only [resolve, h.isTrimmed_toText.trimChars_eq, hne, h.splitScheme?_toText,
    String.ofList_toList, h.parse_toText, Bool.false_eq_true, Option.isSome_some, if_false, if_true]

end IsWellFormed

/-- **What comes about is what is well formed.** -/
lemma arises_iff {l : Location} : l.Arises ↔ l.IsWellFormed :=
  ⟨Arises.isWellFormed, fun h => .parsed h.parse_toText⟩

/-- **The text of a location says all about it.**  A location that comes about is well formed and
is parsed from its own text, so no other location has that text; and on whatever default
filesystem the text is taken, it names the same location. -/
theorem toText_faithful {l : Location} (h : l.Arises) :
    l.IsWellFormed ∧ parse l.toText = .ok l ∧
      (∀ k : Location, k.Arises → k.toText = l.toText → k = l) ∧
      ∀ defaultFs, resolve l.toText defaultFs = .ok l := by
  have hl : l.IsWellFormed := h.isWellFormed
  refine ⟨hl, hl.parse_toText, fun k hk htext => ?_, hl.resolve_toText⟩
  have hparse : parse l.toText = .ok k := htext ▸ hk.isWellFormed.parse_toText
  rw [hl.parse_toText] at hparse
  exact (Except.ok.inj hparse).symm

/-- A relative path with a marker and a colon in it, on a filesystem that is written in an unusual
way. -/
theorem toText_faithful_relative :
    Arises ⟨"file:x+y", none, "//base/a b/:c://d"⟩ ∧
      (⟨"file:x+y", none, "//base/a b/:c://d"⟩ : Location).IsWellFormed ∧
      parse "file:x+y:////base/a b/:c://d" = .ok ⟨"file:x+y", none, "//base/a b/:c://d"⟩ := by
  have hbase : parse "  FILE:x+Y:////base// " = .ok ⟨"file:x+y", none, "//base//"⟩ := rfl
  have hresolve : resolve "a b/:c://d\n" ⟨"file:x+y", none, "//base//"⟩ =
      .ok ⟨"file:x+y", none, "//base/a b/:c://d"⟩ := rfl
  have harises : Arises ⟨"file:x+y", none, "//base/a b/:c://d"⟩ :=
    .resolved (.parsed hbase) hresolve
  obtain ⟨hwell, hparse, -, -⟩ := toText_faithful harises
  exact ⟨harises, hwell, hparse⟩

end Provenance.Location
