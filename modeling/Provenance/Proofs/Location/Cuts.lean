import Provenance.Proofs.Location.Scheme
import Provenance.Proofs.Text.Offsets

/-!
# Locations, cut at bytes

The text of a location is split where a search finds a marker, a colon or a slash: the search gives
a number of bytes, and the text is cut there or one byte behind it.  A cut within a character would
be a failure of its own, apart from the faults of a text (`parseCut?`).

It does not come to that, and parsing by bytes is parsing by characters (`parseCut?_eq`).  What is
found begins with a colon or a slash, whatever stands around it, and each of them takes one byte; so
every cut is between two characters.
-/

namespace Provenance.Location

open Text

variable {cs : List Char}

/-! ## The cuts -/

/-- A text cut in front of the colon at byte `n` and behind it, if no slash is in front of it; and
something else otherwise. -/
def cutAround? (cs : List Char) (n : ℕ) (otherwise : Option (Option (List Char × List Char))) :
    Option (Option (List Char × List Char)) :=
  (cutAt? cs n).bind fun (scheme, _) =>
    if scheme.contains '/' then otherwise
    else (cutAt? cs (n + 1)).map fun (_, rest) => some (scheme, rest)

/-- A text cut around its first colon. -/
def colonCut? (cs : List Char) : Option (Option (List Char × List Char)) :=
  match offsetOf? [':'] cs with
  | none => some none
  | some n => if n = 0 then some none else cutAround? cs n (some none)

/-- A text cut around the colon that ends its scheme. -/
def schemeCut? (cs : List Char) : Option (Option (List Char × List Char)) :=
  match offsetOf? [':', '/', '/'] cs with
  | none => colonCut? cs
  | some n => cutAround? cs n (colonCut? cs)

/-- What follows the colon of the scheme, cut at the slash where the path begins. -/
def authorityCut? : List Char → Option (List Char × List Char)
  | '/' :: '/' :: rest =>
    match offsetOf? ['/'] rest with
    | none => some (rest, [])
    | some n => cutAt? rest n
  | rest => some ([], rest)

/-- The location with a scheme, an authority and a path. -/
def located (scheme authority path : List Char) : Except Fault Location :=
  if path ≠ [] ∧ path.head? ≠ some '/' then .error .relativePath
  else if authority.any isBlank then .error .blankInAuthority
  else .ok (made scheme authority path)

/-- Parse a text by cutting it at bytes, unless a cut is within a character. -/
def parseCut? (raw : String) : Option (Except Malformed Location) :=
  let cs := trimChars raw.toList
  let outcome? : Option (Except Fault Location) :=
    if cs.isEmpty then some (.error .empty)
    else (schemeCut? cs).bind fun
      | none => some (.error .missingScheme)
      | some (scheme, rest) =>
        if isScheme scheme then
          (authorityCut? rest).map fun (authority, path) => located scheme authority path
        else some (.error .invalidScheme)
  outcome?.map (·.mapError fun fault => ⟨raw, fault⟩)

/-! ## Cutting around a colon -/

lemma cutAround?_append (front back : List Char)
    (otherwise : Option (Option (List Char × List Char))) :
    cutAround? (front ++ ':' :: back) (width front) otherwise =
      if front.contains '/' then otherwise else some (some (front, back)) := by
  rw [cutAround?, cutAt?_append, cutAt?_append_cons rfl]
  rfl

lemma colonCut?_eq (cs : List Char) :
    colonCut? cs = some ((splitColon? cs).filter fun parts => !parts.1.contains '/') := by
  by_cases hcolon : ':' ∈ cs
  · obtain ⟨front, back, rfl, hfront⟩ := List.eq_append_cons_of_mem hcolon
    rw [colonCut?, offsetOf?_append hfront]
    dsimp only
    cases front with
    | nil => rfl
    | cons c front =>
        have hwidth : width (c :: front) ≠ 0 := by
          have hc : 0 < c.utf8Size := c.utf8Size_pos
          rw [width_cons]
          omega
        rw [if_neg hwidth, cutAround?_append, splitColon?_append (by simp) hfront,
          Option.filter_some]
        cases (c :: front).contains '/' <;> rfl
  · have hsplit : splitColon? cs = none := by
      cases hsplit : splitColon? cs with
      | none => rfl
      | some parts =>
          have hcs : cs = parts.1 ++ ':' :: parts.2 := splitColon?_eq_some hsplit
          exact absurd (by rw [hcs]; simp) hcolon
    rw [colonCut?, offsetOf?_of_notMem hcolon, hsplit]
    rfl

/-! ## Cutting at a marker -/

/-- The search for a marker counts the bytes in front of it. -/
lemma offsetOf?_marker (cs : List Char) :
    offsetOf? [':', '/', '/'] cs = (splitMarker? cs).map fun parts => width parts.1 := by
  induction cs with
  | nil => rfl
  | cons c cs ih =>
      have hbegins : [':', '/', '/'].isPrefixOf (c :: cs) = true ↔
          c = ':' ∧ ['/', '/'].isPrefixOf cs = true := by
        rw [List.isPrefixOf_iff_prefix, List.isPrefixOf_iff_prefix, List.cons_prefix_cons]
        exact and_congr_left' eq_comm
      by_cases hmarker : c = ':' ∧ ['/', '/'].isPrefixOf cs = true
      · rw [offsetOf?, splitMarker?, if_pos (hbegins.2 hmarker), if_pos hmarker]
        rfl
      · rw [offsetOf?, splitMarker?, if_neg (mt hbegins.1 hmarker), if_neg hmarker, ih,
          Option.map_map, Option.map_map]
        simp [Function.comp_def]

lemma schemeCut?_eq (cs : List Char) : schemeCut? cs = some (splitScheme? cs) := by
  unfold schemeCut? splitScheme?
  rw [offsetOf?_marker, colonCut?_eq]
  cases hmarker : splitMarker? cs with
  | none => rfl
  | some parts =>
      obtain ⟨front, back⟩ := parts
      have hcs : cs = front ++ ':' :: back := splitMarker?_eq_some hmarker
      dsimp only [Option.map_some]
      rw [hcs, cutAround?_append]
      cases front.contains '/' <;> rfl

/-! ## Cutting at the path -/

lemma authorityCut?_eq (rest : List Char) : authorityCut? rest = some (splitAuthority rest) := by
  unfold authorityCut?
  split
  · rename_i behind
    by_cases hslash : '/' ∈ behind
    · obtain ⟨authority, path, rfl, hauthority⟩ := List.eq_append_cons_of_mem hslash
      rw [offsetOf?_append hauthority, splitAuthority_append hauthority (by simp)]
      exact cutAt?_append authority ('/' :: path)
    · have hsplit : splitAuthority ('/' :: '/' :: (behind ++ [])) = (behind, []) :=
        splitAuthority_append hslash (by simp)
      rw [List.append_nil] at hsplit
      rw [offsetOf?_of_notMem hslash, hsplit]
  · rename_i hslashes
    rw [splitAuthority_of_noSlashes hslashes]

/-! ## Parsing -/

lemma ofParts_eq (scheme rest : List Char) :
    ofParts scheme rest = located scheme (splitAuthority rest).1 (splitAuthority rest).2 := rfl

/-- **No cut is within a character**, and what is cut at bytes is what is split at characters. -/
lemma parseCut?_eq (raw : String) : parseCut? raw = some (parse raw) := by
  unfold parseCut? parse ofTrimmed
  dsimp only
  cases (trimChars raw.toList).isEmpty with
  | true => rfl
  | false =>
      rw [schemeCut?_eq]
      cases splitScheme? (trimChars raw.toList) with
      | none => rfl
      | some parts =>
          obtain ⟨scheme, rest⟩ := parts
          dsimp only [Option.bind_some]
          rw [authorityCut?_eq, ofParts_eq]
          cases isScheme scheme <;> rfl

end Provenance.Location
