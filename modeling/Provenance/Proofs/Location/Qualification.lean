import Provenance.Proofs.Itemwise
import Provenance.Proofs.Location.Grammar
import Provenance.Resolver

/-!
# Locations on a default filesystem

A text with a scheme resolves to what it parses to, on any filesystem; a text without one is a bare
path, which always resolves (`resolve_of_hasScheme`, `resolve_of_bare`).  A bare path that begins
with a slash is taken as it is.  Any other is put behind the path of the filesystem with one slash
between them, however many slashes that path ends in (`Qualified`).

Of the faults of a text only three are left (`resolve_error_cases`).  A scheme is only missing from
a bare path, and no text is empty that a resolver finds in a configuration: a look-up and a list of
directories give no blank text (`not_blank_of_get?`, `not_blank_of_mem_split`).
-/

namespace Provenance.Location

open Text

/-! ## Paths on a filesystem -/

variable {raw : String} {defaultFs : Location} {base cs : List Char}

/-- The path that a bare path names on a filesystem with a path of its own. -/
inductive Qualified (base cs : List Char) : List Char → Prop
  /-- It begins with a slash. -/
  | absolute : cs.head? = some '/' → Qualified base cs cs
  /-- It does not; the slashes at the end of the filesystem's path do not count. -/
  | relative {front : List Char} {n : ℕ} : cs.head? ≠ some '/' →
      base = front ++ List.replicate n '/' → front.getLast? ≠ some '/' →
      Qualified base cs (front ++ '/' :: cs)

lemma qualified_qualifyPath (base cs : List Char) : Qualified base cs (qualifyPath base cs) := by
  unfold qualifyPath
  split
  · rename_i hroot
    exact .absolute hroot
  · rename_i hrelative
    obtain ⟨n, hbase⟩ := exists_append_replicate '/' base
    refine .relative hrelative hbase fun hlast => ?_
    have hother : ('/' == '/') = false := last_dropTrailing (· == '/') base '/' hlast
    cases hother

/-! ## Resolving -/

lemma trimChars_trim (raw : String) : trimChars (trim raw).toList = trimChars raw.toList := by
  rw [trim, String.toList_ofList, (isTrimmed_trimChars raw.toList).trimChars_eq]

lemma resolve_of_blank (h : trimChars raw.toList = []) :
    resolve raw defaultFs = .error ⟨raw, .empty⟩ := by
  simp [resolve, h]

/-- A text with a scheme says all about its location. -/
lemma resolve_of_hasScheme (h : HasScheme (trimChars raw.toList)) :
    resolve raw defaultFs = parse (trim raw) := by
  have hne : (trimChars raw.toList).isEmpty = false := by
    rcases h with ⟨heq, -⟩ | ⟨heq, -⟩ <;> simp [heq]
  simp only [resolve, hne, isSome_splitScheme?_iff.2 h, Bool.false_eq_true, if_false, if_true]
  rfl

/-- A bare path is on the filesystem. -/
lemma resolve_of_bare (hne : trimChars raw.toList ≠ []) (h : ¬HasScheme (trimChars raw.toList)) :
    resolve raw defaultFs = .ok { defaultFs with
      path := String.ofList (qualifyPath defaultFs.path.toList (trimChars raw.toList)) } := by
  have hempty : (trimChars raw.toList).isEmpty = false := by simpa using hne
  simp only [resolve, hempty, mt isSome_splitScheme?_iff.1 h, Bool.false_eq_true, if_false]

/-- **What keeps a text from resolving** is that there is no text, or a fault behind its scheme. -/
lemma resolve_error_cases {e : Malformed} (h : resolve raw defaultFs = .error e) :
    trimChars raw.toList = [] ∧ e.fault = .empty ∨
      trimChars raw.toList ≠ [] ∧ HasScheme (trimChars raw.toList) ∧
        e.fault ∈ [Fault.invalidScheme, .relativePath, .blankInAuthority] := by
  by_cases hblank : trimChars raw.toList = []
  · rw [resolve_of_blank hblank] at h
    cases h
    exact .inl ⟨hblank, rfl⟩
  by_cases hscheme : HasScheme (trimChars raw.toList)
  · rw [resolve_of_hasScheme hscheme] at h
    obtain ⟨hnil, -⟩ | ⟨-, hbare, -⟩ | ⟨-, ⟨s, -, -, hok⟩ | ⟨fault, hfault, herror⟩⟩ :=
      ofTrimmed_cases (trimChars raw.toList)
    · exact absurd hnil hblank
    · exact absurd hscheme hbare
    · rw [parse, trimChars_trim, hok] at h
      cases h
    · rw [parse, trimChars_trim, herror] at h
      cases h
      exact .inr ⟨hblank, hscheme, hfault⟩
  · rw [resolve_of_bare hblank hscheme] at h
    cases h

/-! ## Texts in configurations -/

/-- A look-up finds no blank value. -/
lemma not_blank_of_get? {c : Configuration} {key value : String} (h : c.get? key = some value) :
    trimChars value.toList ≠ [] := by
  obtain ⟨written, -, hvalue⟩ := Option.bind_eq_some_iff.1 h
  obtain ⟨hne, htrimmed⟩ := Option.ite_none_left_eq_some.1 hvalue
  obtain rfl : trim written = value := Option.some.inj htrimmed
  intro hnil
  rw [trimChars_trim] at hnil
  exact hne (by rw [trim, hnil]; rfl)

/-- There is no blank directory in a list. -/
lemma not_blank_of_mem_split {value directory : String}
    (h : directory ∈ DirectoryList.split value) : trimChars directory.toList ≠ [] := by
  obtain ⟨entry, hentry, rfl⟩ := List.mem_map.1 h
  obtain ⟨hmem, hne⟩ := List.mem_filter.1 hentry
  obtain ⟨written, -, rfl⟩ := List.mem_map.1 hmem
  rw [String.toList_ofList, (isTrimmed_trimChars written).trimChars_eq]
  simpa using hne

/-- A fault behind a scheme is not that a scheme is missing, nor that there is no text. -/
lemma message_ne_of_mem {fault : Fault}
    (h : fault ∈ [Fault.invalidScheme, .relativePath, .blankInAuthority]) :
    fault.message ≠ "missing scheme" ∧ fault.message ≠ "empty location" := by
  have hall : ∀ fault ∈ [Fault.invalidScheme, .relativePath, .blankInAuthority],
      fault.message ≠ "missing scheme" ∧ fault.message ≠ "empty location" := by decide
  exact hall fault h

/-- A text that is not blank has no fault of a bare path. -/
lemma message_ne_of_resolve {e : Malformed} (h : resolve raw defaultFs = .error e)
    (hne : trimChars raw.toList ≠ []) :
    e.fault.message ≠ "missing scheme" ∧ e.fault.message ≠ "empty location" := by
  obtain ⟨hblank, -⟩ | ⟨-, -, hfault⟩ := resolve_error_cases h
  · exact absurd hblank hne
  · exact message_ne_of_mem hfault

section

variable {r : Resolver} {n : Node} {i : Configuration.Interface} {c : Configuration}
  {s : Resolver.Skipped}

/-- Inputs are skipped for a directory of the list. -/
lemma exists_of_inputsIn_skipped (h : r.inputsIn n i c = .skipped s) :
    ∃ raw e, s.error = .malformed e ∧ trimChars raw.toList ≠ [] ∧
      resolve raw r.defaultFs = .error e := by
  unfold Resolver.inputsIn at h
  cases hvalue : c.get? i.inputKey with
  | none =>
      rw [hvalue] at h
      cases h
  | some value =>
      rw [hvalue, Option.map_some, Option.getD_some] at h
      split at h
      · cases h
      obtain ⟨ls, hok, -⟩ | ⟨e, herror, directory, hmem, hresolve⟩ :=
        Itemwise.mapM_cases (resolve · r.defaultFs) (DirectoryList.split value)
      · rw [hok] at h
        cases h
      · rw [herror] at h
        cases h
        exact ⟨directory, e, rfl, not_blank_of_mem_split hmem, hresolve⟩

/-- An output is skipped for the value of its key. -/
lemma exists_of_outputIn_skipped (h : r.outputIn n i c = .skipped s) :
    ∃ raw e, s.error = .malformed e ∧ trimChars raw.toList ≠ [] ∧
      resolve raw r.defaultFs = .error e := by
  unfold Resolver.outputIn at h
  split at h
  · cases h
  rename_i raw hraw
  split at h
  · cases h
  rename_i e hresolve
  cases h
  refine ⟨raw, e, rfl, ?_, hresolve⟩
  rcases Option.or_eq_some_iff.1 hraw with hvalue | ⟨-, hvalue⟩
  · exact not_blank_of_get? hvalue
  · exact not_blank_of_get? hvalue

end

/-! ## Exactness -/

/-- A text resolves to what it parses to or to a bare path. -/
structure ResolvesExactly (raw : String) (defaultFs : Location) : Prop where
  /-- It fails if there is no text, or there is a scheme and parsing fails. -/
  fails_iff : (∃ e, resolve raw defaultFs = .error e) ↔
    trimChars raw.toList = [] ∨
      HasScheme (trimChars raw.toList) ∧ ∃ e, parse (trim raw) = .error e
  /-- With a scheme the filesystem does not count. -/
  own : HasScheme (trimChars raw.toList) →
    resolve raw defaultFs = parse (trim raw) ∧
      ∀ otherFs, resolve raw otherFs = resolve raw defaultFs
  /-- Without one only the path is not that of the filesystem. -/
  bare : trimChars raw.toList ≠ [] → ¬HasScheme (trimChars raw.toList) →
    ∃ path, Qualified defaultFs.path.toList (trimChars raw.toList) path ∧
      resolve raw defaultFs =
        .ok ⟨defaultFs.scheme, defaultFs.authority, String.ofList path⟩
  /-- No scheme is ever missing, and no text is called empty that is not. -/
  messages : ∀ e, resolve raw defaultFs = .error e → e.fault.message ≠ "missing scheme" ∧
    (e.fault.message = "empty location" → trimChars raw.toList = [])

lemma resolvesExactly (raw : String) (defaultFs : Location) : ResolvesExactly raw defaultFs where
  fails_iff := by
    constructor
    · rintro ⟨e, he⟩
      obtain ⟨hblank, -⟩ | ⟨-, hscheme, -⟩ := resolve_error_cases he
      · exact .inl hblank
      · exact .inr ⟨hscheme, e, (resolve_of_hasScheme hscheme).symm.trans he⟩
    · rintro (hblank | ⟨hscheme, e, he⟩)
      · exact ⟨_, resolve_of_blank hblank⟩
      · exact ⟨e, (resolve_of_hasScheme hscheme).trans he⟩
  own hscheme := by
    refine ⟨resolve_of_hasScheme hscheme, fun otherFs => ?_⟩
    rw [resolve_of_hasScheme hscheme, resolve_of_hasScheme hscheme]
  bare hne hbare := ⟨_, qualified_qualifyPath _ _, resolve_of_bare hne hbare⟩
  messages e he := by
    obtain ⟨hblank, hfault⟩ | ⟨-, -, hfault⟩ := resolve_error_cases he
    · rw [hfault]
      exact ⟨by decide, fun _ => hblank⟩
    · obtain ⟨hscheme, hempty⟩ := message_ne_of_mem hfault
      exact ⟨hscheme, fun heq => absurd heq hempty⟩

/-- **Bare paths are qualified**, and nothing else is.  Every text resolves as it should on the
filesystem of a resolver; and whatever the resolver skips of a configuration, it skips it neither
for a scheme that is missing nor for a text that is empty. -/
theorem resolve_exact (r : Resolver) :
    (∀ raw, ResolvesExactly raw r.defaultFs) ∧
      ∀ n i c s, r.inputsIn n i c = .skipped s ∨ r.outputIn n i c = .skipped s →
        ∃ e, s.error = .malformed e ∧
          e.fault.message ≠ "missing scheme" ∧ e.fault.message ≠ "empty location" := by
  refine ⟨fun raw => resolvesExactly raw r.defaultFs, fun n i c s hskipped => ?_⟩
  obtain ⟨raw, e, herror, hne, hresolve⟩ : ∃ raw e, s.error = .malformed e ∧
      trimChars raw.toList ≠ [] ∧ resolve raw r.defaultFs = .error e := by
    rcases hskipped with hinputs | houtput
    · exact exists_of_inputsIn_skipped hinputs
    · exact exists_of_outputIn_skipped houtput
  exact ⟨e, herror, message_ne_of_resolve hresolve hne⟩

end Provenance.Location
