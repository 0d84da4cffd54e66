import Provenance.Proofs.Location.RoundTrip

/-!
# The scheme of a text

A text has a scheme if there is a `://` in it with no slash in front of it, or else if its first
colon is not its first character and has no slash in front of it (`HasScheme`).  Splitting looks for
the first `://` and then for the first colon.  That is the same (`isSome_splitScheme?_iff`): behind
a `://` with a slash in front of it no other one can do.

What is in front of the split has no slash in it.  What is behind it begins with two slashes, or the
split is at the first colon (`splitScheme?_cases`); and a text that is put together in one of these
ways is split there (`splitScheme?_marked`, `splitScheme?_plain`).
-/

namespace Provenance.Location

open Text

/-- The text has a scheme of its own. -/
inductive HasScheme (cs : List Char) : Prop
  /-- There is a `://` with no slash in front of it. -/
  | marked {front rest : List Char} : cs = front ++ ':' :: '/' :: '/' :: rest → '/' ∉ front →
      HasScheme cs
  /-- The first colon is not the first character and has no slash in front of it. -/
  | plain {front rest : List Char} : cs = front ++ ':' :: rest → front ≠ [] → ':' ∉ front →
      '/' ∉ front → HasScheme cs

/-! ## Splitting at the two slashes -/

variable {cs scheme rest : List Char}

/-- Behind a marker there are two slashes. -/
lemma slashes_of_splitMarker? {front : List Char} (h : splitMarker? cs = some (front, rest)) :
    ∃ behind, rest = '/' :: '/' :: behind := by
  induction cs generalizing front with
  | nil => cases h
  | cons c cs ih =>
      unfold splitMarker? at h
      split at h
      · rename_i hmarker
        cases h
        obtain ⟨behind, hbehind⟩ := List.isPrefixOf_iff_prefix.1 hmarker.2
        exact ⟨behind, hbehind.symm⟩
      · obtain ⟨⟨front', rest'⟩, hsplit, hparts⟩ := Option.map_eq_some_iff.1 h
        cases hparts
        exact ih hsplit

/-! ## Splitting at the first colon -/

lemma span_colon (hcolon : ':' ∉ scheme) (rest : List Char) :
    (scheme ++ ':' :: rest).span (· ≠ ':') = (scheme, ':' :: rest) := by
  refine span_append (fun c hc => ?_) (fun c hc => ?_)
  · have hne : c ≠ ':' := fun heq => hcolon (heq ▸ hc)
    simpa using hne
  · obtain rfl : ':' = c := by simpa using hc
    simp

/-- There is one first colon. -/
lemma append_colon_inj {scheme' rest' : List Char} (hcolon : ':' ∉ scheme)
    (hcolon' : ':' ∉ scheme') (h : scheme ++ ':' :: rest = scheme' ++ ':' :: rest') :
    scheme = scheme' ∧ rest = rest' := by
  have hspans : (scheme, ':' :: rest) = (scheme', ':' :: rest') := by
    rw [← span_colon hcolon rest, ← span_colon hcolon' rest', h]
  obtain ⟨hscheme, hrest⟩ := Prod.mk.inj hspans
  exact ⟨hscheme, (List.cons.inj hrest).2⟩

lemma splitColon?_append (hne : scheme ≠ []) (hcolon : ':' ∉ scheme) (rest : List Char) :
    splitColon? (scheme ++ ':' :: rest) = some (scheme, rest) := by
  cases scheme with
  | nil => exact absurd rfl hne
  | cons c cs =>
      unfold splitColon?
      rw [span_colon hcolon]

lemma of_splitColon?_eq_some (h : splitColon? cs = some (scheme, rest)) :
    scheme ≠ [] ∧ ':' ∉ scheme := by
  unfold splitColon? at h
  split at h
  · rename_i c front d back hspan
    cases h
    obtain ⟨-, hfront, -⟩ := of_span_eq_cons hspan
    refine ⟨by simp, fun hmem => ?_⟩
    simpa using hfront ':' hmem
  · cases h

/-- The first colon does if there is no slash in front of it. -/
lemma isSome_splitScheme?_of_colon (hne : scheme ≠ []) (hcolon : ':' ∉ scheme)
    (hslash : '/' ∉ scheme) (rest : List Char) :
    (splitScheme? (scheme ++ ':' :: rest)).isSome = true := by
  have hcontains : scheme.contains '/' = false := by simpa using hslash
  have hplain : (splitColon? (scheme ++ ':' :: rest)).filter
      (fun parts => !parts.1.contains '/') = some (scheme, rest) := by
    rw [splitColon?_append hne hcolon, Option.filter_some, hcontains]
    rfl
  unfold splitScheme?
  rw [hplain]
  cases splitMarker? (scheme ++ ':' :: rest) with
  | none => rfl
  | some parts =>
      dsimp only
      split <;> rfl

/-- **Where a text is split.**  Nothing in front of the split is a slash; behind it there are two
slashes, or it is the first colon. -/
lemma splitScheme?_cases (h : splitScheme? cs = some (scheme, rest)) :
    cs = scheme ++ ':' :: rest ∧ '/' ∉ scheme ∧
      ((∃ behind, rest = '/' :: '/' :: behind) ∨ scheme ≠ [] ∧ ':' ∉ scheme) := by
  have hplain : (splitColon? cs).filter (fun parts => !parts.1.contains '/') =
      some (scheme, rest) → '/' ∉ scheme ∧ scheme ≠ [] ∧ ':' ∉ scheme := by
    intro hfilter
    obtain ⟨hcolon, hslash⟩ := Option.filter_eq_some_iff.1 hfilter
    exact ⟨by simpa using hslash, of_splitColon?_eq_some hcolon⟩
  refine ⟨splitScheme?_eq_some h, ?_⟩
  unfold splitScheme? at h
  split at h
  · rename_i front behind hmarker
    split at h
    · obtain ⟨hslash, hfirst⟩ := hplain h
      exact ⟨hslash, .inr hfirst⟩
    · rename_i hslash
      cases h
      exact ⟨by simpa using hslash, .inl (slashes_of_splitMarker? hmarker)⟩
  · obtain ⟨hslash, hfirst⟩ := hplain h
    exact ⟨hslash, .inr hfirst⟩

/-- A text is split at its first colon if a path follows it at once. -/
lemma splitScheme?_plain (hne : scheme ≠ []) (hcolon : ':' ∉ scheme) (hslash : '/' ∉ scheme)
    (hrest : ∀ c ∈ rest.head?, c = '/') :
    splitScheme? (scheme ++ ':' :: rest) = some (scheme, rest) := by
  obtain ⟨⟨scheme', rest'⟩, hsplit⟩ :=
    Option.isSome_iff_exists.1 (isSome_splitScheme?_of_colon hne hcolon hslash rest)
  obtain ⟨htext, hslash', -⟩ := splitScheme?_cases hsplit
  have hcolon' : ':' ∉ scheme' := by
    intro hmem
    -- a colon in front of the split leaves the slash of the path in front of it too
    obtain ⟨front, behind, rfl, hfront⟩ := List.eq_append_cons_of_mem hmem
    rw [List.append_assoc, List.cons_append] at htext
    obtain ⟨-, rfl⟩ := append_colon_inj hcolon hfront htext
    cases behind with
    | nil => exact absurd (hrest ':' rfl) (by decide)
    | cons c behind =>
        obtain rfl : c = '/' := hrest c rfl
        exact hslash' (by simp)
  obtain ⟨rfl, rfl⟩ := append_colon_inj hcolon hcolon' htext
  exact hsplit

/-- **The scheme of a text** is found if and only if there is one. -/
lemma isSome_splitScheme?_iff : (splitScheme? cs).isSome = true ↔ HasScheme cs := by
  constructor
  · intro h
    obtain ⟨⟨scheme, rest⟩, hsplit⟩ := Option.isSome_iff_exists.1 h
    obtain ⟨hcs, hslash, ⟨behind, rfl⟩ | ⟨hne, hcolon⟩⟩ := splitScheme?_cases hsplit
    · exact .marked hcs hslash
    · exact .plain hcs hne hcolon hslash
  · rintro (⟨rfl, hslash⟩ | ⟨rfl, hne, hcolon, hslash⟩)
    · rw [splitScheme?_marked hslash]
      rfl
    · exact isSome_splitScheme?_of_colon hne hcolon hslash _

/-- A text that is split is judged by its parts. -/
lemma ofTrimmed_of_splitScheme? (hsplit : splitScheme? cs = some (scheme, rest)) :
    ofTrimmed cs = if isScheme scheme then ofParts scheme rest else .error .invalidScheme := by
  have hne : cs.isEmpty = false := by simp [splitScheme?_eq_some hsplit]
  simp only [ofTrimmed, hne, hsplit, Bool.false_eq_true, if_false]

end Provenance.Location
