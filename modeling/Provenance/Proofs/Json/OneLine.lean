import Provenance.Proofs.Json.Literal

/-!
# JSON on one line

The text of a value has no control characters, so the text of an event fits on one line, whatever
its parts say.  Structure is written without blanks, numbers are written in digits with a few signs,
and in text literals each control character is replaced by an escape.
-/

namespace Provenance

/-- None of the characters is a control character of ASCII below the blank. -/
def Text.NoControls (cs : List Char) : Prop :=
  ∀ c ∈ cs, ¬c.toNat < 0x20

namespace Text.NoControls

variable {c : Char} {cs ds : List Char}

@[simp] lemma nil : NoControls [] := by
  simp [NoControls]

@[simp] lemma cons_iff : NoControls (c :: cs) ↔ ¬c.toNat < 0x20 ∧ NoControls cs :=
  List.forall_mem_cons

@[simp] lemma append_iff : NoControls (cs ++ ds) ↔ NoControls cs ∧ NoControls ds :=
  List.forall_mem_append

lemma of_subset (h : NoControls ds) (hcs : cs ⊆ ds) : NoControls cs :=
  fun c hc => h c (hcs hc)

lemma of_isDigit (h : ∀ c ∈ cs, c.isDigit = true) : NoControls cs := by
  intro c hc
  have hrange : 48 ≤ c.toNat ∧ c.toNat ≤ 57 := toNat_of_isDigit (h c hc)
  omega

lemma newline_not_mem (h : NoControls cs) : '\n' ∉ cs :=
  fun hmem => h '\n' hmem (by decide)

end Text.NoControls

namespace Json

open Text

/-! ## Text literals -/

lemma noControls_hexDigit {n : ℕ} (h : n < 16) : ¬(hexDigit n).toNat < 0x20 := by
  have hall : ∀ n < 16, ¬(hexDigit n).toNat < 0x20 := by decide
  exact hall n h

lemma noControls_shortEscape {e c : Char} (h : shortEscape? e = some c) : ¬e.toNat < 0x20 := by
  intro hcontrol
  have hnone : shortEscape? e = none :=
    of_toNat_lt (P := fun e => shortEscape? e = none) (by decide) hcontrol
  rw [h] at hnone
  cases hnone

/-- **No control character is written in a text literal.** -/
lemma noControls_escapeChar (c : Char) : NoControls (escapeChar c) := by
  rcases escapeChar_cases c with ⟨e, he, hc⟩ | ⟨hcontrol, hc⟩ | ⟨-, -, hcontrol, hc⟩
  · rw [hc]
    simp [noControls_shortEscape he]
  · have hhigh : ¬(hexDigit (c.toNat / 16)).toNat < 0x20 := noControls_hexDigit (by omega)
    have hlow : ¬(hexDigit (c.toNat % 16)).toNat < 0x20 := noControls_hexDigit (by omega)
    rw [hc]
    simp [hhigh, hlow]
  · rw [hc]
    simp [hcontrol]

lemma noControls_writeText (s : String) : NoControls (writeText s) := by
  have hchars : NoControls (s.toList.flatMap escapeChar) := by
    intro c hc
    obtain ⟨d, -, hd⟩ := List.mem_flatMap.1 hc
    exact noControls_escapeChar d c hd
  simp [writeText, hchars]

/-! ## Numbers -/

lemma noControls_digits (n : ℕ) : NoControls (Decimal.digits n) :=
  .of_isDigit fun _ => Decimal.isDigit_of_mem_digits

lemma noControls_zeros (n : ℕ) : NoControls (List.replicate n '0') := by
  refine .of_isDigit fun c hc => ?_
  rw [List.eq_of_mem_replicate hc]
  rfl

namespace Number

lemma noControls_decimalText (s : Binary64.Scientific) : NoControls (decimalText s) := by
  have hdigits : NoControls (Decimal.digits s.digits) := noControls_digits _
  have hexponent : ∀ i, NoControls (signedDigits i) := by
    intro i
    unfold signedDigits
    split <;> simp [noControls_digits]
  unfold decimalText
  generalize Decimal.digits s.digits = ds at hdigits
  dsimp only
  split
  · simp [hdigits, noControls_zeros]
  split
  · have htake : ∀ n, NoControls (ds.take n) := fun n => hdigits.of_subset (List.take_subset n ds)
    have hdrop : ∀ n, NoControls (ds.drop n) := fun n => hdigits.of_subset (List.drop_subset n ds)
    simp [htake, hdrop]
  split
  · simp [hdigits, noControls_zeros]
  · cases ds with
    | nil => simp [hexponent]
    | cons d ds =>
        cases ds with
        | nil => simpa [hexponent] using hdigits
        | cons d' ds => simpa [hexponent] using hdigits

lemma noControls_write (n : Number) : NoControls n.write := by
  cases n with
  | natural n => exact noControls_digits n
  | negative n => simp [write, noControls_digits]
  | real x =>
      show NoControls (realText x)
      unfold realText
      split <;> split <;> simp [noControls_decimalText]

end Number

/-! ## Values -/

mutual

/-- **No control character is written**, whatever the value. -/
lemma noControls_write : ∀ v : Json, NoControls v.write
  | null => by simp [write]
  | bool true => by simp [write]
  | bool false => by simp [write]
  | number n => n.noControls_write
  | text s => noControls_writeText s
  | array [] => by simp [write]
  | array (v :: vs) => by simp [write, noControls_write v, noControls_writeItems vs]
  | object [] => by simp [write]
  | object ((k, v) :: fs) => by
      simp [write, noControls_writeText k, noControls_write v, noControls_writeFields fs]

lemma noControls_writeItems : ∀ vs : List Json, NoControls (writeItems vs)
  | [] => by simp [writeItems]
  | v :: vs => by simp [writeItems, noControls_write v, noControls_writeItems vs]

lemma noControls_writeFields : ∀ fs : List (String × Json), NoControls (writeFields fs)
  | [] => by simp [writeFields]
  | (k, v) :: fs => by
      simp [writeFields, noControls_writeText k, noControls_write v, noControls_writeFields fs]

end

lemma noControls_render (v : Json) : NoControls v.render.toList := by
  rw [render, String.toList_ofList]
  exact v.noControls_write

end Json

end Provenance
