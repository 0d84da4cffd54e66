import Provenance.Json.Token
import Provenance.Proofs.Json.Literal

/-!
# The tokens of a written value

Since nothing but a number can go on behind its end, the text of a value is cut into the tokens of
the value whatever stands behind it, unless that begins like a number (`tokens?_write`).  In the
text of an array or an object a comma or a bracket stands there.
-/

namespace Provenance.Json

/-! ## Integers only -/

mutual

/-- All numbers in the value are integers of 64 bits. -/
def IsIntegral : Json → Prop
  | null => True
  | bool _ => True
  | number n => n.IsInteger
  | text _ => True
  | array items => AreIntegral items
  | object fields => HaveIntegral fields

/-- `IsIntegral` for each item of an array. -/
def AreIntegral : List Json → Prop
  | [] => True
  | v :: vs => IsIntegral v ∧ AreIntegral vs

/-- `IsIntegral` for each value of an object. -/
def HaveIntegral : List (String × Json) → Prop
  | [] => True
  | (_, v) :: fs => IsIntegral v ∧ HaveIntegral fs

end

lemma areIntegral_iff {vs : List Json} : AreIntegral vs ↔ ∀ v ∈ vs, Json.IsIntegral v := by
  induction vs with
  | nil => simp [AreIntegral]
  | cons v vs ih => rw [AreIntegral, ih, List.forall_mem_cons]

lemma haveIntegral_iff {fs : List (String × Json)} :
    HaveIntegral fs ↔ ∀ f ∈ fs, Json.IsIntegral f.2 := by
  induction fs with
  | nil => simp [HaveIntegral]
  | cons f fs ih => rw [HaveIntegral, ih, List.forall_mem_cons]

/-! ## Tokens -/

mutual

/-- The tokens of a value. -/
def tokens : Json → List Token
  | null => [.atom .null]
  | bool b => [.atom (.bool b)]
  | number n => [.atom (.number (some n))]
  | text s => [.text (some s)]
  | array [] => [.openArray, .closeArray]
  | array (v :: vs) => .openArray :: (tokens v ++ itemTokens vs)
  | object [] => [.openObject, .closeObject]
  | object ((k, v) :: fs) =>
    .openObject :: .text (some k) :: .colon :: (tokens v ++ fieldTokens fs)

/-- The tokens of the items after the first one, and of the closing bracket. -/
def itemTokens : List Json → List Token
  | [] => [.closeArray]
  | v :: vs => .comma :: (tokens v ++ itemTokens vs)

/-- The tokens of the fields after the first one, and of the closing brace. -/
def fieldTokens : List (String × Json) → List Token
  | [] => [.closeObject]
  | (k, v) :: fs => .comma :: .text (some k) :: .colon :: (tokens v ++ fieldTokens fs)

end

/-- The text does not go on with a character that can belong to a number. -/
def EndsNumber (rest : List Char) : Prop :=
  ∀ c ∈ rest.head?, isNumberChar c = false

/-! ## Single tokens -/

lemma tokens?_punctuation {c : Char} {t : Token} (h : punctuation? c = some t) (cs : List Char) :
    tokens? (c :: cs) = (tokens? cs).map (t :: ·) := by
  unfold punctuation? at h
  split at h
  all_goals cases h
  all_goals simp [tokens?, isSpace, isNumberChar, punctuation?]

lemma tokens?_quote {cs rest : List Char} {ps : List Piece} (h : takePieces cs = some (ps, rest)) :
    tokens? ('"' :: cs) = (tokens? rest).map (.text ((assemble ps).map String.ofList) :: ·) := by
  simp only [tokens?, isSpace, Char.reduceEq, Char.reduceBEq, Bool.or_self, Bool.false_eq_true,
    if_false, if_true, false_implies, implies_true]
  split
  · rename_i hnone
    rw [h] at hnone
    cases hnone
  · rename_i hsome
    rw [h] at hsome
    cases hsome
    rfl

lemma tokens?_writeText (s : String) (rest : List Char) :
    tokens? (writeText s ++ rest) = (tokens? rest).map (.text (some s) :: ·) := by
  obtain ⟨ps, hps, hs⟩ := takePieces_flatMap_escapeChar s.toList rest
  have hquote := tokens?_quote hps
  rw [hs] at hquote
  simpa [writeText] using hquote

lemma ne_of_isNumberChar {c d : Char} (hc : isNumberChar c = true) (hd : isNumberChar d = false) :
    c ≠ d := by
  rintro rfl
  rw [hc] at hd
  cases hd

lemma isSpace_of_isNumberChar {c : Char} (hc : isNumberChar c = true) : isSpace c = false := by
  have h : c ≠ ' ' ∧ c ≠ '\n' ∧ c ≠ '\t' ∧ c ≠ '\r' := by
    refine ⟨?_, ?_, ?_, ?_⟩ <;> exact ne_of_isNumberChar hc (by decide)
  simp [isSpace, h]

lemma tokens?_number {n : Number} (hn : n.IsInteger) {rest : List Char} (hrest : EndsNumber rest) :
    tokens? (n.write ++ rest) = (tokens? rest).map (.atom (.number (some n)) :: ·) := by
  obtain ⟨l, hl, hvalue⟩ := hn.exists_literal
  obtain ⟨c, cs, hwrite, hchars⟩ := hn.exists_write_eq_cons
  have hc : isNumberChar c = true := hchars c List.mem_cons_self
  have hcs : ∀ d ∈ cs, isNumberChar d = true := fun d hd => hchars d (List.mem_cons_of_mem c hd)
  have hspan : (cs ++ rest).span isNumberChar = (cs, rest) := Text.span_append hcs hrest
  rw [List.span_eq_takeWhile_dropWhile] at hspan
  obtain ⟨htake, hdrop⟩ := Prod.mk.inj hspan
  have ht : c ≠ 't' := ne_of_isNumberChar hc (by decide)
  have hf : c ≠ 'f' := ne_of_isNumberChar hc (by decide)
  have hnull : c ≠ 'n' := ne_of_isNumberChar hc (by decide)
  have hquote : c ≠ '"' := ne_of_isNumberChar hc (by decide)
  have hspace : isSpace c = false := isSpace_of_isNumberChar hc
  rw [hwrite, List.cons_append]
  simp only [tokens?, ht, hf, hnull, hquote, hspace, hc, htake, hdrop, ← hwrite, hl,
    Option.bind_eq_bind, Option.bind_some, hvalue, Bool.false_eq_true, if_false, if_true,
    false_implies, implies_true]

/-! ## Whole values -/

lemma endsNumber_cons {c : Char} (hc : isNumberChar c = false) (cs : List Char) :
    EndsNumber (c :: cs) := by
  intro d hd
  obtain rfl : c = d := by simpa using hd
  exact hc

lemma endsNumber_writeItems (vs : List Json) (rest : List Char) :
    EndsNumber (writeItems vs ++ rest) := by
  cases vs with
  | nil => exact endsNumber_cons (by decide) _
  | cons v vs => exact endsNumber_cons (by decide) _

lemma endsNumber_writeFields (fs : List (String × Json)) (rest : List Char) :
    EndsNumber (writeFields fs ++ rest) := by
  cases fs with
  | nil => exact endsNumber_cons (by decide) _
  | cons f fs => exact endsNumber_cons (by decide) _

mutual

/-- **The text of a value is cut into its tokens.** -/
lemma tokens?_write : ∀ (v : Json) {rest : List Char}, v.IsIntegral → EndsNumber rest →
    tokens? (v.write ++ rest) = (tokens? rest).map (v.tokens ++ ·)
  | null, rest, _, _ => by simp [write, tokens?, tokens]
  | bool true, rest, _, _ => by simp [write, tokens?, tokens]
  | bool false, rest, _, _ => by simp [write, tokens?, tokens]
  | number n, rest, h, hrest => by
      have hn : n.IsInteger := by rwa [IsIntegral] at h
      rw [write, tokens?_number hn hrest]
      rfl
  | text s, rest, _, _ => by
      rw [write, tokens?_writeText]
      rfl
  | array [], rest, _, _ => by
      rw [write, List.cons_append, tokens?_punctuation (c := '[') rfl, List.cons_append,
        tokens?_punctuation (c := ']') rfl, Option.map_map]
      rfl
  | array (v :: vs), rest, h, _ => by
      obtain ⟨hv, hvs⟩ : v.IsIntegral ∧ AreIntegral vs := by rwa [IsIntegral, AreIntegral] at h
      rw [write, List.cons_append, tokens?_punctuation (c := '[') rfl, List.append_assoc,
        tokens?_write v hv (endsNumber_writeItems vs rest), tokens?_writeItems vs hvs]
      simp [tokens, Function.comp_def]
  | object [], rest, _, _ => by
      rw [write, List.cons_append, tokens?_punctuation (c := '\x7b') rfl, List.cons_append,
        tokens?_punctuation (c := '\x7d') rfl, Option.map_map]
      rfl
  | object ((k, v) :: fs), rest, h, _ => by
      obtain ⟨hv, hfs⟩ : v.IsIntegral ∧ HaveIntegral fs := by rwa [IsIntegral, HaveIntegral] at h
      rw [write, List.cons_append, tokens?_punctuation (c := '\x7b') rfl, List.append_assoc,
        tokens?_writeText, List.cons_append, tokens?_punctuation (c := ':') rfl,
        List.append_assoc, tokens?_write v hv (endsNumber_writeFields fs rest),
        tokens?_writeFields fs hfs]
      simp [tokens, Function.comp_def]

lemma tokens?_writeItems : ∀ (vs : List Json) {rest : List Char}, AreIntegral vs →
    tokens? (writeItems vs ++ rest) = (tokens? rest).map (itemTokens vs ++ ·)
  | [], rest, _ => by
      rw [writeItems, List.cons_append, tokens?_punctuation (c := ']') rfl]
      rfl
  | v :: vs, rest, h => by
      obtain ⟨hv, hvs⟩ : v.IsIntegral ∧ AreIntegral vs := by rwa [AreIntegral] at h
      rw [writeItems, List.cons_append, tokens?_punctuation (c := ',') rfl, List.append_assoc,
        tokens?_write v hv (endsNumber_writeItems vs rest), tokens?_writeItems vs hvs]
      simp [itemTokens, Function.comp_def]

lemma tokens?_writeFields : ∀ (fs : List (String × Json)) {rest : List Char}, HaveIntegral fs →
    tokens? (writeFields fs ++ rest) = (tokens? rest).map (fieldTokens fs ++ ·)
  | [], rest, _ => by
      rw [writeFields, List.cons_append, tokens?_punctuation (c := '\x7d') rfl]
      rfl
  | (k, v) :: fs, rest, h => by
      obtain ⟨hv, hfs⟩ : v.IsIntegral ∧ HaveIntegral fs := by rwa [HaveIntegral] at h
      rw [writeFields, List.cons_append, tokens?_punctuation (c := ',') rfl, List.append_assoc,
        tokens?_writeText, List.cons_append, tokens?_punctuation (c := ':') rfl,
        List.append_assoc, tokens?_write v hv (endsNumber_writeFields fs rest),
        tokens?_writeFields fs hfs]
      simp [fieldTokens, Function.comp_def]

end

end Provenance.Json
