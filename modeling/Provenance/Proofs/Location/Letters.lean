import Provenance.Proofs.Location.Cuts

/-!
# Capital letters in schemes

A location keeps its scheme in small letters.  Nor does it matter anywhere else how the letters of a
scheme are written: a text is cut at colons and slashes, which are no letters
(`splitScheme?_map_toLower`), and a letter is a letter in either case.

What matters is the part of the text that has no slash in it and ends at a colon; the scheme may end
there or at an earlier colon (`ofTrimmed_eq_of_map_toLower`).
-/

namespace Provenance.Location

open Text

variable {cs front front' back scheme scheme' rest rest' : List Char}

/-! ## Characters -/

lemma toLower_eq_of_not_isUpper {c : Char} (h : ¬c.isUpper = true) : c.toLower = c := by
  have hrange : ¬(c.val ≥ 'A'.val ∧ c.val ≤ 'Z'.val) := fun hrange => h (decide_eq_true hrange)
  exact dif_neg hrange

/-- A capital letter is a letter, and an ASCII character. -/
lemma toNat_lt_of_isUpper {c : Char} (h : c.isUpper = true) : c.toNat < 128 := by
  have halpha : c.isAlpha = true := by
    show (c.isUpper || c.isLower) = true
    rw [h, Bool.true_or]
  exact toNat_lt_of_isSchemeChar (by simp [isSchemeChar, Char.isAlphanum, halpha])

lemma toLower_toLower (c : Char) : c.toLower.toLower = c.toLower := by
  by_cases hupper : c.isUpper = true
  · exact of_toNat_lt (P := fun c => c.toLower.toLower = c.toLower) (by decide)
      (toNat_lt_of_isUpper hupper)
  · rw [toLower_eq_of_not_isUpper hupper, toLower_eq_of_not_isUpper hupper]

/-- A character means the same to a scheme in either case. -/
lemma facts_of_toLower (c : Char) :
    (c.toLower = ':' ↔ c = ':') ∧ (c.toLower = '/' ↔ c = '/') ∧
      c.toLower.isAlpha = c.isAlpha ∧ isSchemeChar c.toLower = isSchemeChar c := by
  by_cases hupper : c.isUpper = true
  · exact of_toNat_lt (P := fun c => (c.toLower = ':' ↔ c = ':') ∧ (c.toLower = '/' ↔ c = '/') ∧
      c.toLower.isAlpha = c.isAlpha ∧ isSchemeChar c.toLower = isSchemeChar c) (by decide)
      (toNat_lt_of_isUpper hupper)
  · rw [toLower_eq_of_not_isUpper hupper]
    exact ⟨Iff.rfl, Iff.rfl, rfl, rfl⟩

lemma isScheme_map_toLower (cs : List Char) : isScheme (cs.map Char.toLower) = isScheme cs := by
  cases cs with
  | nil => rfl
  | cons c cs =>
      have hchars : isSchemeChar ∘ Char.toLower = isSchemeChar :=
        funext fun d => (facts_of_toLower d).2.2.2
      simp only [isScheme, List.map_cons, List.all_map, (facts_of_toLower c).2.2.1, hchars]

/-! ## Splitting -/

lemma splitMarker?_map_toLower (cs : List Char) : splitMarker? (cs.map Char.toLower) =
    (splitMarker? cs).map (Prod.map (List.map Char.toLower) (List.map Char.toLower)) := by
  induction cs with
  | nil => rfl
  | cons c cs ih =>
      have hslash : ∀ d : Char, ('/' == d.toLower) = ('/' == d) := fun d => by
        rw [Bool.eq_iff_iff, beq_iff_eq, beq_iff_eq, eq_comm, (facts_of_toLower d).2.1, eq_comm]
      have hslashes : ['/', '/'].isPrefixOf (cs.map Char.toLower) = ['/', '/'].isPrefixOf cs := by
        rcases cs with _ | ⟨d, _ | ⟨e, cs⟩⟩ <;>
          simp only [List.map_cons, List.map_nil, List.isPrefixOf, hslash]
      rw [List.map_cons, splitMarker?, splitMarker?, hslashes, ih]
      simp only [(facts_of_toLower c).1]
      split
      · rfl
      · cases splitMarker? cs <;> rfl

lemma splitColon?_map_toLower (cs : List Char) : splitColon? (cs.map Char.toLower) =
    (splitColon? cs).map (Prod.map (List.map Char.toLower) (List.map Char.toLower)) := by
  have hcolon : (fun c : Char => decide (c ≠ ':')) ∘ Char.toLower = fun c => decide (c ≠ ':') :=
    funext fun c => by simp [(facts_of_toLower c).1]
  unfold splitColon?
  rw [List.span_eq_takeWhile_dropWhile, List.span_eq_takeWhile_dropWhile, List.takeWhile_map,
    List.dropWhile_map, hcolon]
  cases cs.takeWhile (· ≠ ':') <;> cases cs.dropWhile (· ≠ ':') <;> rfl

/-- **Letters are not cut at**, so they may be made small before the text is split. -/
lemma splitScheme?_map_toLower (cs : List Char) : splitScheme? (cs.map Char.toLower) =
    (splitScheme? cs).map (Prod.map (List.map Char.toLower) (List.map Char.toLower)) := by
  have hslash : ∀ ds : List Char, (ds.map Char.toLower).contains '/' = ds.contains '/' := by
    intro ds
    rw [Bool.eq_iff_iff]
    simp [(facts_of_toLower _).2.1]
  unfold splitScheme?
  rw [splitMarker?_map_toLower, splitColon?_map_toLower]
  cases splitColon? cs with
  | none =>
      cases splitMarker? cs with
      | none => rfl
      | some parts =>
          simp only [Option.map_some, Option.map_none, Prod.map, hslash, Option.filter_none]
          split <;> rfl
  | some colon =>
      simp only [Option.map_some, Option.filter_some, Prod.map, hslash]
      cases splitMarker? cs with
      | none => cases colon.1.contains '/' <;> rfl
      | some parts =>
          simp only [Option.map_some, Prod.map, hslash]
          cases colon.1.contains '/' <;> cases parts.1.contains '/' <;> rfl

/-! ## Parsing -/

/-- A text that does not begin with a slash is no path. -/
lemma ofParts_of_relative (scheme : List Char) {c : Char} (hc : c ≠ '/') (rest : List Char) :
    ofParts scheme (c :: rest) = .error .relativePath := by
  have hsplit : splitAuthority (c :: rest) = ([], c :: rest) :=
    splitAuthority_of_noSlashes fun behind heq => hc (List.cons.inj heq).1
  rw [ofParts_eq, hsplit, located, if_pos ⟨by simp, by simpa using hc⟩]

lemma ofParts_eq_of_map_toLower (h : scheme.map Char.toLower = scheme'.map Char.toLower)
    (rest : List Char) : ofParts scheme rest = ofParts scheme' rest := by
  rw [ofParts_eq, ofParts_eq, located, located, made, made, h]

/-- What stands behind a colon, in a text that is put together at that colon. -/
lemma drop_behind_colon (scheme rest : List Char) :
    (scheme ++ ':' :: rest).drop (scheme.length + 1) = rest := by
  rw [List.drop_length_add_append]
  rfl

/-- A colon with a slash behind it is not within a front that has no slash. -/
lemma length_le_of_slash (hslash : '/' ∉ front)
    (h : front ++ ':' :: back = scheme ++ ':' :: '/' :: rest) : front.length ≤ scheme.length := by
  rcases List.append_eq_append_iff.1 h with ⟨more, rfl, -⟩ | ⟨more, rfl, hmore⟩
  · simp
  · cases more with
    | nil => simp
    | cons d more =>
        obtain ⟨-, hbehind⟩ := List.cons.inj hmore
        cases more with
        | nil => exact absurd (List.cons.inj hbehind).1 (by decide)
        | cons e more =>
            obtain rfl : '/' = e := (List.cons.inj hbehind).1
            exact absurd (by simp) hslash

/-- Texts of one length that differ only in front of a colon have the same path. -/
lemma behind_eq_of_slash (hfront : front.length = front'.length) (hslash : '/' ∉ front)
    (hscheme : scheme.length = scheme'.length)
    (h : front ++ ':' :: back = scheme ++ ':' :: '/' :: rest)
    (h' : front' ++ ':' :: back = scheme' ++ ':' :: rest') : rest' = '/' :: rest := by
  obtain ⟨k, hk⟩ := Nat.exists_eq_add_of_le (length_le_of_slash hslash h)
  calc rest' = (front' ++ ':' :: back).drop (scheme'.length + 1) := by
        rw [h', drop_behind_colon]
    _ = (':' :: back).drop (k + 1) := by
        rw [← hscheme, hk, hfront, Nat.add_assoc, List.drop_length_add_append]
    _ = (front ++ ':' :: back).drop (scheme.length + 1) := by
        rw [hk, Nat.add_assoc, List.drop_length_add_append]
    _ = '/' :: rest := by rw [h, drop_behind_colon]

/-- What is behind the scheme comes to the same in either case. -/
lemma ofParts_eq_of_splits (hfront : front.length = front'.length) (hslash : '/' ∉ front)
    (hsplit : splitScheme? (front ++ ':' :: back) = some (scheme, rest))
    (hsplit' : splitScheme? (front' ++ ':' :: back) = some (scheme', rest'))
    (hscheme : scheme.map Char.toLower = scheme'.map Char.toLower)
    (hrest : rest.map Char.toLower = rest'.map Char.toLower) :
    ofParts scheme rest = ofParts scheme' rest' := by
  cases rest with
  | nil =>
      obtain rfl : rest' = [] := List.map_eq_nil_iff.1 hrest.symm
      exact ofParts_eq_of_map_toLower hscheme []
  | cons c rest =>
      by_cases hpath : c = '/'
      · subst hpath
        have hlength : scheme.length = scheme'.length := by simpa using congrArg List.length hscheme
        rw [behind_eq_of_slash hfront hslash hlength (splitScheme?_eq_some hsplit)
          (splitScheme?_eq_some hsplit')]
        exact ofParts_eq_of_map_toLower hscheme _
      · obtain ⟨c', behind, rfl, hc, -⟩ := List.map_eq_cons_iff.1 hrest.symm
        have hpath' : c' ≠ '/' := fun heq =>
          hpath ((facts_of_toLower c).2.1.1 (hc.symm.trans ((facts_of_toLower c').2.1.2 heq)))
        rw [ofParts_of_relative _ hpath, ofParts_of_relative _ hpath']

/-- **The case of letters in front of a colon does not count** unless there is a slash among
them. -/
lemma ofTrimmed_eq_of_map_toLower (h : front.map Char.toLower = front'.map Char.toLower)
    (hslash : '/' ∉ front) (back : List Char) :
    ofTrimmed (front ++ ':' :: back) = ofTrimmed (front' ++ ':' :: back) := by
  have hmap : (front ++ ':' :: back).map Char.toLower =
      (front' ++ ':' :: back).map Char.toLower := by
    rw [List.map_append, List.map_append, h]
  have hsplits := splitScheme?_map_toLower (front ++ ':' :: back)
  rw [hmap, splitScheme?_map_toLower] at hsplits
  cases hsplit : splitScheme? (front ++ ':' :: back) with
  | none =>
      rw [hsplit] at hsplits
      have hsplit' : splitScheme? (front' ++ ':' :: back) = none := Option.map_eq_none_iff.1 hsplits
      simp [ofTrimmed, hsplit, hsplit']
  | some parts =>
      rw [hsplit] at hsplits
      obtain ⟨parts', hsplit', hparts⟩ := Option.map_eq_some_iff.1 hsplits
      obtain ⟨hscheme, hrest⟩ := Prod.mk.inj hparts
      have hvalid : isScheme parts.1 = isScheme parts'.1 := by
        rw [← isScheme_map_toLower, ← hscheme, isScheme_map_toLower]
      have hlength : front.length = front'.length := by simpa using congrArg List.length h
      have hplace : ofParts parts.1 parts.2 = ofParts parts'.1 parts'.2 :=
        ofParts_eq_of_splits hlength hslash hsplit hsplit' hscheme.symm hrest.symm
      rw [ofTrimmed_of_splitScheme? hsplit, ofTrimmed_of_splitScheme? hsplit', hvalid, hplace]

end Provenance.Location
