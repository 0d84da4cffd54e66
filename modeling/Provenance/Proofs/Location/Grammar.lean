import Provenance.Proofs.Location.Letters

/-!
# The grammar of locations

There are two ways to spell a location, `scheme://authority/path` and `scheme:/path`
(`Spelling`).  A spelling is *proper* if its scheme is a letter and letters, digits and a few signs,
no slash and no blank is in its authority, and its path, if there is one, begins with a slash.
Without a marker a colon in the scheme would be taken for its end, and a second slash at the
beginning of the path for a marker (`Spelling.IsProper`).

The texts that parse are the trimmed texts of proper spellings, each of which has one
(`parse_exact`).  From a proper text its scheme, authority and path are cut off again
(`IsProper.splitScheme?_text`, `IsProper.splitAuthority_behind`); and where a text is cut up and its
parts pass the checks, they were put together by a proper spelling (`exists_spelling`).
-/

namespace Provenance.Location

open Text

/-! ## Spellings -/

/-- The parts of a text that spells a location. -/
inductive Spelling where
  /-- A scheme, `://`, an authority and a path. -/
  | marked (scheme authority path : List Char)
  /-- A scheme, `:` and a path. -/
  | plain (scheme path : List Char)

namespace Spelling

def scheme : Spelling → List Char
  | marked scheme _ _ => scheme
  | plain scheme _ => scheme

def authority : Spelling → List Char
  | marked _ authority _ => authority
  | plain _ _ => []

def path : Spelling → List Char
  | marked _ _ path => path
  | plain _ path => path

/-- What follows the colon of the scheme. -/
def behind : Spelling → List Char
  | marked _ authority path => '/' :: '/' :: (authority ++ path)
  | plain _ path => path

/-- The parts put together. -/
def text (s : Spelling) : List Char :=
  s.scheme ++ ':' :: s.behind

/-- The location that is spelled: the scheme in small letters, the authority unless it is empty, and
the path. -/
def location (s : Spelling) : Location :=
  made s.scheme s.authority s.path

/-- The parts can be told from one another. -/
structure IsProper (s : Spelling) : Prop where
  /-- The scheme is a letter and then letters, digits, `+`, `-`, `.` and `:`. -/
  scheme : ∃ c cs, s.scheme = c :: cs ∧ c.isAlpha = true ∧
    ∀ d ∈ cs, d.isAlphanum = true ∨ d ∈ ['+', '-', '.', ':']
  /-- There is no slash and no blank in the authority. -/
  authority : ∀ c ∈ s.authority, c ≠ '/' ∧ isBlank c = false
  /-- The path is empty or begins with a slash. -/
  path : s.path = [] ∨ ∃ rest, s.path = '/' :: rest
  /-- Without a marker there is no colon in the scheme, and there are no two slashes in front of the
  path. -/
  plain : ∀ scheme path, s = .plain scheme path → ':' ∉ scheme ∧ ¬['/', '/'] <+: path

/-! ## What a proper spelling reads as -/

namespace IsProper

variable {s t : Spelling}

lemma isScheme (h : s.IsProper) : Location.isScheme s.scheme = true := by
  obtain ⟨c, cs, hs, hc, hcs⟩ := h.scheme
  rw [hs, Location.isScheme, hc, Bool.true_and, List.all_eq_true]
  intro d hd
  simpa [isSchemeChar, or_assoc] using hcs d hd

lemma slash_notMem_scheme (h : s.IsProper) : '/' ∉ s.scheme := by
  obtain ⟨c, cs, hs, hc, hcs⟩ := h.scheme
  rw [hs, List.mem_cons]
  rintro (rfl | hmem)
  · exact absurd hc (by decide)
  · exact absurd (hcs '/' hmem) (by decide)

lemma scheme_ne_nil (h : s.IsProper) : s.scheme ≠ [] := by
  obtain ⟨c, cs, hs, -⟩ := h.scheme
  simp [hs]

lemma path_head (h : s.IsProper) : ∀ c ∈ s.path.head?, c = '/' := by
  rcases h.path with hpath | ⟨rest, hpath⟩ <;> simp [hpath]

/-- The text is split where its scheme ends. -/
lemma splitScheme?_text (h : s.IsProper) : splitScheme? s.text = some (s.scheme, s.behind) := by
  cases s with
  | marked scheme authority path => exact splitScheme?_marked h.slash_notMem_scheme _
  | plain scheme path =>
      exact splitScheme?_plain h.scheme_ne_nil (h.plain scheme path rfl).1 h.slash_notMem_scheme
        h.path_head

/-- What follows the scheme is split where the path begins. -/
lemma splitAuthority_behind (h : s.IsProper) :
    splitAuthority s.behind = (s.authority, s.path) := by
  cases s with
  | marked scheme authority path =>
      exact splitAuthority_append (fun hmem => (h.authority '/' hmem).1 rfl) h.path_head
  | plain scheme path =>
      refine splitAuthority_of_noSlashes fun rest hrest => (h.plain scheme path rfl).2 ?_
      exact ⟨rest, hrest.symm⟩

lemma located_eq (h : s.IsProper) :
    located s.scheme s.authority s.path = .ok s.location := by
  have hpath : ¬(s.path ≠ [] ∧ s.path.head? ≠ some '/') := by
    rcases h.path with hpath | ⟨rest, hpath⟩ <;> simp [hpath]
  have hblank : ¬s.authority.any isBlank = true := by
    simpa using fun c hc => (h.authority c hc).2
  rw [located, if_neg hpath, if_neg hblank]
  rfl

/-- **A proper spelling is read.** -/
lemma ofTrimmed_text (h : s.IsProper) : ofTrimmed s.text = .ok s.location := by
  rw [ofTrimmed_of_splitScheme? h.splitScheme?_text, if_pos h.isScheme, ofParts_eq,
    h.splitAuthority_behind, h.located_eq]

/-- **A text has one proper spelling.** -/
lemma eq_of_text_eq (hs : s.IsProper) (ht : t.IsProper) (h : s.text = t.text) : s = t := by
  have hsplit : (s.scheme, s.behind) = (t.scheme, t.behind) := by
    rw [← Option.some_inj, ← hs.splitScheme?_text, ← ht.splitScheme?_text, h]
  obtain ⟨hscheme, hbehind⟩ := Prod.mk.inj hsplit
  have hcut : (s.authority, s.path) = (t.authority, t.path) := by
    rw [← hs.splitAuthority_behind, ← ht.splitAuthority_behind, hbehind]
  obtain ⟨hauthority, hpath⟩ := Prod.mk.inj hcut
  -- the parts are the same, and two slashes show which way they are put together
  cases s with
  | marked scheme authority path =>
      cases t with
      | marked scheme' authority' path' => exact congr (congr (congrArg _ hscheme) hauthority) hpath
      | plain scheme' path' => exact absurd ⟨_, hbehind⟩ (ht.plain scheme' path' rfl).2
  | plain scheme path =>
      cases t with
      | marked scheme' authority' path' =>
          exact absurd ⟨_, hbehind.symm⟩ (hs.plain scheme path rfl).2
      | plain scheme' path' => exact congr (congrArg _ hscheme) hpath

end IsProper

end Spelling

/-! ## What reads is spelled -/

variable {cs scheme authority path rest : List Char} {l : Location} {fault : Fault}

/-- The parts pass the checks, or one of two faults is in them. -/
lemma located_cases (scheme authority path : List Char) :
    ((path = [] ∨ ∃ rest, path = '/' :: rest) ∧ (∀ c ∈ authority, isBlank c = false) ∧
      located scheme authority path = .ok (made scheme authority path)) ∨
    located scheme authority path = .error .relativePath ∨
    located scheme authority path = .error .blankInAuthority := by
  unfold located
  split
  · exact .inr (.inl rfl)
  rename_i hpath
  split
  · exact .inr (.inr rfl)
  rename_i hblank
  refine .inl ⟨?_, by simpa using hblank, rfl⟩
  cases path with
  | nil => exact .inl rfl
  | cons c path =>
      have hc : c = '/' := by simpa using hpath
      exact .inr ⟨path, by rw [hc]⟩

/-- A scheme that is a scheme is spelled as such. -/
lemma scheme_of_isScheme (h : isScheme scheme = true) : ∃ c cs, scheme = c :: cs ∧
    c.isAlpha = true ∧ ∀ d ∈ cs, d.isAlphanum = true ∨ d ∈ ['+', '-', '.', ':'] := by
  cases scheme with
  | nil => cases h
  | cons c cs =>
      obtain ⟨hc, hcs⟩ := Bool.and_eq_true_iff.1 h
      refine ⟨c, cs, rfl, hc, fun d hd => ?_⟩
      simpa [isSchemeChar, or_assoc] using List.all_eq_true.1 hcs d hd

/-- **What is cut up and passes the checks is spelled properly.** -/
lemma exists_spelling (hsplit : splitScheme? cs = some (scheme, rest))
    (hscheme : isScheme scheme = true) (hcut : splitAuthority rest = (authority, path))
    (hpath : path = [] ∨ ∃ rest, path = '/' :: rest) (hblank : ∀ c ∈ authority, isBlank c = false) :
    ∃ s : Spelling, s.IsProper ∧ s.text = cs ∧ s.location = made scheme authority path := by
  obtain ⟨rfl, -, hend⟩ := splitScheme?_cases hsplit
  by_cases hslashes : ['/', '/'] <+: rest
  · obtain ⟨behind, rfl⟩ := hslashes
    have hbehind : authority ++ path = behind := by
      have hspan : behind.span (· ≠ '/') = (authority, path) := hcut
      rw [List.span_eq_takeWhile_dropWhile] at hspan
      obtain ⟨rfl, rfl⟩ := Prod.mk.inj hspan
      exact List.takeWhile_append_dropWhile
    have hauthority : '/' ∉ authority := (splitAuthority_eq hcut).1
    refine ⟨.marked scheme authority path, ⟨scheme_of_isScheme hscheme, fun c hc => ?_, hpath,
      nofun⟩, ?_, rfl⟩
    · exact ⟨fun heq => hauthority (heq ▸ hc), hblank c hc⟩
    · rw [← hbehind]
      rfl
  · have hnone : splitAuthority rest = ([], rest) := splitAuthority_of_noSlashes fun behind heq =>
      hslashes ⟨behind, heq.symm⟩
    obtain ⟨rfl, rfl⟩ := Prod.mk.inj (hnone.symm.trans hcut)
    have hcolon : ':' ∉ scheme := by
      rcases hend with ⟨behind, rfl⟩ | ⟨-, hcolon⟩
      · exact absurd ⟨behind, rfl⟩ hslashes
      · exact hcolon
    refine ⟨.plain scheme rest, ⟨scheme_of_isScheme hscheme, nofun, hpath, ?_⟩, rfl, rfl⟩
    rintro scheme' path' heq
    cases heq
    exact ⟨hcolon, hslashes⟩

/-- A text that is split is spelled properly, or there is a fault in one of its parts. -/
lemma spelled_or_fault (hsplit : splitScheme? cs = some (scheme, rest)) :
    (∃ s : Spelling, s.IsProper ∧ s.text = cs ∧ ofTrimmed cs = .ok s.location) ∨
      ∃ fault ∈ [Fault.invalidScheme, .relativePath, .blankInAuthority],
        ofTrimmed cs = .error fault := by
  rw [ofTrimmed_of_splitScheme? hsplit]
  by_cases hscheme : isScheme scheme = true
  · obtain ⟨⟨authority, path⟩, hcut⟩ : ∃ parts, splitAuthority rest = parts := ⟨_, rfl⟩
    rw [if_pos hscheme, ofParts_eq, hcut]
    obtain ⟨hpath, hblank, hlocated⟩ | hfault | hfault := located_cases scheme authority path
    · obtain ⟨s, hs, htext, hlocation⟩ := exists_spelling hsplit hscheme hcut hpath hblank
      exact .inl ⟨s, hs, htext, hlocated.trans (by rw [hlocation])⟩
    · exact .inr ⟨.relativePath, by simp, hfault⟩
    · exact .inr ⟨.blankInAuthority, by simp, hfault⟩
  · rw [if_neg hscheme]
    exact .inr ⟨.invalidScheme, by simp, rfl⟩

/-- **Everything that a trimmed text can come to.**  It is empty, or it has no scheme, or it has one
and is either spelled properly or has a fault in what the scheme cuts it into. -/
lemma ofTrimmed_cases (cs : List Char) :
    cs = [] ∧ ofTrimmed cs = .error .empty ∨
    cs ≠ [] ∧ ¬HasScheme cs ∧ ofTrimmed cs = .error .missingScheme ∨
    HasScheme cs ∧ ((∃ s : Spelling, s.IsProper ∧ s.text = cs ∧ ofTrimmed cs = .ok s.location) ∨
      ∃ fault ∈ [Fault.invalidScheme, .relativePath, .blankInAuthority],
        ofTrimmed cs = .error fault) := by
  by_cases hnil : cs = []
  · subst hnil
    exact .inl ⟨rfl, rfl⟩
  cases hsplit : splitScheme? cs with
  | none =>
      have hbare : ¬HasScheme cs := fun hscheme => by
        simpa [hsplit] using isSome_splitScheme?_iff.2 hscheme
      exact .inr (.inl ⟨hnil, hbare, by simp [ofTrimmed, hnil, hsplit]⟩)
  | some parts =>
      have hscheme : HasScheme cs := isSome_splitScheme?_iff.1 (by rw [hsplit]; rfl)
      exact .inr (.inr ⟨hscheme, spelled_or_fault hsplit⟩)

/-! ## Parsing -/

lemma parse_eq_ok_iff {raw : String} : parse raw = .ok l ↔
    ∃ s : Spelling, s.IsProper ∧ s.text = trimChars raw.toList ∧ s.location = l := by
  unfold parse
  rw [Except.mapError_eq_ok_iff]
  constructor
  · intro h
    obtain ⟨-, herror⟩ | ⟨-, -, herror⟩ | ⟨-, ⟨s, hs, htext, hok⟩ | ⟨fault, -, herror⟩⟩ :=
      ofTrimmed_cases (trimChars raw.toList)
    · cases herror.symm.trans h
    · cases herror.symm.trans h
    · exact ⟨s, hs, htext, Except.ok.inj (hok.symm.trans h)⟩
    · cases herror.symm.trans h
  · rintro ⟨s, hs, htext, rfl⟩
    rw [← htext, hs.ofTrimmed_text]

lemma parse_eq_error {raw : String} (h : ofTrimmed (trimChars raw.toList) = .error fault) :
    parse raw = .error ⟨raw, fault⟩ := by
  rw [parse, h]
  rfl

/-! ## Exactness -/

/-- What a text comes to, apart from how a fault quotes it. -/
def outcome (raw : String) : Except Fault Location :=
  (parse raw).mapError Malformed.fault

lemma outcome_eq (raw : String) : outcome raw = ofTrimmed (trimChars raw.toList) := by
  unfold outcome parse
  cases ofTrimmed (trimChars raw.toList) <;> rfl

/-- A text parses as the grammar has it. -/
structure ParsesExactly (raw : String) : Prop where
  /-- Those texts parse that are properly spelled, and to what is spelled. -/
  accepted : ∀ l, parse raw = .ok l ↔
    ∃ s : Spelling, s.IsProper ∧ s.text = trimChars raw.toList ∧ s.location = l
  /-- There is one proper spelling. -/
  unique : ∀ s t : Spelling, s.IsProper → t.IsProper → s.text = trimChars raw.toList →
    t.text = trimChars raw.toList → s = t
  /-- Without one the text is malformed. -/
  rejected : (¬∃ s : Spelling, s.IsProper ∧ s.text = trimChars raw.toList) →
    ∃ fault ∈ [Fault.empty, .missingScheme, .invalidScheme, .relativePath, .blankInAuthority],
      parse raw = .error ⟨raw, fault⟩
  /-- Blanks around the text do not count. -/
  blanks : ∀ raw' : String, ∀ front back : List Char, (∀ c ∈ front, isBlank c = true) →
    (∀ c ∈ back, isBlank c = true) → raw'.toList = front ++ raw.toList ++ back →
    outcome raw' = outcome raw
  /-- The case of the scheme does not count, nor that of any letters between the beginning of the
  text and a colon that no slash comes before. -/
  letters : ∀ raw' : String, ∀ front front' back : List Char,
    trimChars raw.toList = front ++ ':' :: back → trimChars raw'.toList = front' ++ ':' :: back →
    '/' ∉ front → front.map Char.toLower = front'.map Char.toLower → outcome raw' = outcome raw
  /-- Nothing is cut within a character. -/
  cuts : parseCut? raw = some (parse raw)

/-- **The grammar of locations is exact.** -/
theorem parse_exact (raw : String) : ParsesExactly raw where
  accepted l := parse_eq_ok_iff
  unique s t hs ht hstext httext := hs.eq_of_text_eq ht (hstext.trans httext.symm)
  rejected hnone := by
    obtain ⟨-, herror⟩ | ⟨-, -, herror⟩ | ⟨-, ⟨s, hs, htext, -⟩ | ⟨fault, hfault, herror⟩⟩ :=
      ofTrimmed_cases (trimChars raw.toList)
    · exact ⟨.empty, by simp, parse_eq_error herror⟩
    · exact ⟨.missingScheme, by simp, parse_eq_error herror⟩
    · exact absurd ⟨s, hs, htext⟩ hnone
    · exact ⟨fault, List.mem_cons_of_mem _ (List.mem_cons_of_mem _ hfault), parse_eq_error herror⟩
  blanks raw' front back hfront hback hraw := by
    rw [outcome_eq, outcome_eq, hraw, trimChars_append_blanks hfront hback]
  letters raw' front front' back htext htext' hslash hletters := by
    rw [outcome_eq, outcome_eq, htext, htext', ofTrimmed_eq_of_map_toLower hletters hslash]
  cuts := parseCut?_eq raw

/-- A marker behind a slash belongs to the path, and a colon in front of a marker to the scheme. -/
example : parse "A:/b://c" = .ok ⟨"a", none, "/b://c"⟩ ∧
    parse " a:B://c " = .ok ⟨"a:b", some "c", ""⟩ :=
  ⟨rfl, rfl⟩

end Provenance.Location
