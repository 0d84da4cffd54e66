import Provenance.Json.Literal
import Provenance.Json.Written
import Provenance.Proofs.Text.Decimal

/-!
# Literals, written and read

A text literal spells every text there is: each character is written as one piece, itself or an
escape, and the pieces are put together to the text again (`takePieces_flatMap_escapeChar`).  The
only escapes by code that are written are those of control characters, so no two units ever have to
form a pair.

A number literal spells the integers of 64 bits (`Number.IsInteger`).  Floating-point numbers are
left aside: some of them come back as a neighbour.
-/

namespace Provenance.Json

/-! ## Text literals -/

lemma hexValue?_hexDigit {n : ℕ} (h : n < 16) : hexValue? (hexDigit n) = some n := by
  have hall : ∀ n < 16, hexValue? (hexDigit n) = some n := by decide
  exact hall n h

/-- A piece in front of a text literal. -/
def Piece.before (p : Piece) (literal : List Piece × List Char) : List Piece × List Char :=
  (p :: literal.1, literal.2)

lemma takePieces_short {e c : Char} (h : shortEscape? e = some c) (rest : List Char) :
    takePieces ('\\' :: e :: rest) = (takePieces rest).map (Piece.char c).before := by
  have hu : e ≠ 'u' := by
    rintro rfl
    have hnone : shortEscape? 'u' = none := by decide
    rw [hnone] at h
    cases h
  simp only [takePieces, hu, h, Option.bind_eq_bind, Option.bind_some, false_implies, implies_true]
  cases takePieces rest <;> rfl

lemma takePieces_code {a b c d : Char} {n : ℕ} (h : hexValue4? a b c d = some n)
    (rest : List Char) : takePieces ('\\' :: 'u' :: a :: b :: c :: d :: rest) =
      (takePieces rest).map (Piece.unit n).before := by
  rw [takePieces, h]
  cases takePieces rest <;> rfl

lemma takePieces_plain {c : Char} (hquote : c ≠ '"') (hslash : c ≠ '\\')
    (hcontrol : ¬c.toNat < 0x20) (rest : List Char) :
    takePieces (c :: rest) = (takePieces rest).map (Piece.char c).before := by
  have hplain : ¬(c.toNat < 0x20 ∨ c = '\\') := by simp [hcontrol, hslash]
  rw [takePieces.eq_def]
  split
  · simp_all
  · simp_all
  · simp_all
  · simp_all
  · rename_i h
    obtain ⟨rfl, rfl⟩ := List.cons.inj h
    rw [if_neg hplain]
    cases takePieces rest <;> rfl

/-- **How a character is written.**  By a short escape, by its code, or as it is. -/
lemma escapeChar_cases (c : Char) :
    (∃ e, shortEscape? e = some c ∧ escapeChar c = ['\\', e]) ∨
      (c.toNat < 0x20 ∧ escapeChar c =
        ['\\', 'u', '0', '0', hexDigit (c.toNat / 16), hexDigit (c.toNat % 16)]) ∨
      c ≠ '"' ∧ c ≠ '\\' ∧ ¬c.toNat < 0x20 ∧ escapeChar c = [c] := by
  unfold escapeChar
  iterate 7
    split
    · rename_i h
      subst h
      refine .inl ⟨_, ?_, rfl⟩
      decide
  rename_i hquote hslash _ _ _ _ _
  split
  · rename_i hcontrol
    exact .inr (.inl ⟨hcontrol, rfl⟩)
  · rename_i hcontrol
    exact .inr (.inr ⟨hquote, hslash, hcontrol, rfl⟩)

/-- The code of a control character is read back as the character. -/
lemma hexValue4?_control {c : Char} (h : c.toNat < 0x20) :
    hexValue4? '0' '0' (hexDigit (c.toNat / 16)) (hexDigit (c.toNat % 16)) = some c.toNat := by
  have hzero : hexValue? '0' = some 0 := by decide
  have hhigh : hexValue? (hexDigit (c.toNat / 16)) = some (c.toNat / 16) :=
    hexValue?_hexDigit (by omega)
  have hlow : hexValue? (hexDigit (c.toNat % 16)) = some (c.toNat % 16) :=
    hexValue?_hexDigit (by omega)
  simp only [hexValue4?, hzero, hhigh, hlow, Option.bind_eq_bind, Option.bind_some]
  congr 1
  omega

lemma assemble_unit_of_lt {n : ℕ} (h : n < 0xD800) (ps : List Piece) :
    assemble (.unit n :: ps) = (assemble ps).map (Char.ofNat n :: ·) := by
  rw [assemble.eq_def]
  have hhigh : ¬(0xD800 ≤ n ∧ n < 0xDC00) := by omega
  have hlow : ¬(0xDC00 ≤ n ∧ n < 0xE000) := by omega
  simp only [if_neg hhigh, if_neg hlow]

/-- A character is written as one piece, which stands for it again. -/
lemma takePieces_escapeChar (c : Char) : ∃ p : Piece,
    (∀ rest, takePieces (escapeChar c ++ rest) = (takePieces rest).map p.before) ∧
    ∀ ps, assemble (p :: ps) = (assemble ps).map (c :: ·) := by
  rcases escapeChar_cases c with ⟨e, he, hc⟩ | ⟨hcontrol, hc⟩ | ⟨hquote, hslash, hcontrol, hc⟩
  · exact ⟨.char c, fun rest => hc ▸ takePieces_short he rest, fun ps => rfl⟩
  · refine ⟨.unit c.toNat, fun rest => hc ▸ takePieces_code (hexValue4?_control hcontrol) rest,
      fun ps => ?_⟩
    rw [assemble_unit_of_lt (by omega), Char.ofNat_toNat]
  · exact ⟨.char c, fun rest => hc ▸ takePieces_plain hquote hslash hcontrol rest, fun ps => rfl⟩

/-- **A text literal spells its text.** -/
lemma takePieces_flatMap_escapeChar (cs rest : List Char) :
    ∃ ps, takePieces (cs.flatMap escapeChar ++ '"' :: rest) = some (ps, rest) ∧
      assemble ps = some cs := by
  induction cs with
  | nil => exact ⟨[], by rw [List.flatMap_nil, List.nil_append, takePieces], rfl⟩
  | cons c cs ih =>
      obtain ⟨ps, hps, hcs⟩ := ih
      obtain ⟨p, hp, hc⟩ := takePieces_escapeChar c
      refine ⟨p :: ps, ?_, ?_⟩
      · rw [List.flatMap_cons, List.append_assoc, hp, hps]
        rfl
      · rw [hc, hcs]
        rfl

/-! ## Number literals -/

/-- The number is an integer of 64 bits, signed or unsigned, and has its own form. -/
def Number.IsInteger : Number → Prop
  | natural n => n < UInt64.size
  | negative n => 0 < n ∧ n ≤ UInt64.size / 2
  | real _ => False

lemma takeInteger_digits (n : ℕ) :
    takeInteger (Decimal.digits n) = some (Decimal.digits n, []) := by
  have hspan : Decimal.spanAllDigits (Decimal.digits n ++ []) = (Decimal.digits n, []) :=
    Decimal.spanAllDigits_append (fun _ => Decimal.isDigit_of_mem_digits) (by simp)
  rw [List.append_nil] at hspan
  rw [takeInteger.eq_def]
  split
  · rename_i rest h
    obtain ⟨-, rfl⟩ := Decimal.digits_eq_cons_zero h
    rw [h]
  · simp [hspan, Decimal.digits_ne_nil]

/-- The digits of a number are its literal, behind a minus sign or not. -/
lemma numberLiteral?_digits (n : ℕ) :
    numberLiteral? (Decimal.digits n) = some ⟨false, Decimal.digits n, none, none⟩ ∧
      numberLiteral? ('-' :: Decimal.digits n) = some ⟨true, Decimal.digits n, none, none⟩ := by
  have hminus : ∀ cs, Decimal.digits n ≠ '-' :: cs := by
    intro cs h
    have hdigit : '-'.isDigit = true := Decimal.isDigit_of_mem_digits (h ▸ List.mem_cons_self)
    cases hdigit
  constructor
  · unfold numberLiteral?
    split
    rename_i negative cs h
    split at h
    · rename_i cs' h'
      exact absurd h' (hminus cs')
    · cases h
      simp [takeInteger_digits, takeFraction, takeExponent]
  · simp [numberLiteral?, takeInteger_digits, takeFraction, takeExponent]

/-- **A number literal spells its integer.** -/
lemma Number.IsInteger.exists_literal {n : Number} (h : n.IsInteger) :
    ∃ l, numberLiteral? n.write = some l ∧ l.value? = some n := by
  cases n with
  | natural n =>
      refine ⟨_, (numberLiteral?_digits n).1, ?_⟩
      have hlt : n < UInt64.size := h
      simp [Literal.value?, Decimal.value_digits, hlt]
  | negative n =>
      refine ⟨_, (numberLiteral?_digits n).2, ?_⟩
      obtain ⟨hpos, hle⟩ := h
      simp [Literal.value?, Decimal.value_digits, hpos, hle]
  | real x => exact h.elim

/-- An integer is written with a first character and others, all of which belong to numbers. -/
lemma Number.IsInteger.exists_write_eq_cons {n : Number} (h : n.IsInteger) :
    ∃ c cs, n.write = c :: cs ∧ ∀ d ∈ c :: cs, isNumberChar d = true := by
  have hdigits : ∀ n, ∀ d ∈ Decimal.digits n, isNumberChar d = true := by
    intro n d hd
    simp [isNumberChar, Decimal.isDigit_of_mem_digits hd]
  cases n with
  | natural n =>
      cases hds : Decimal.digits n with
      | nil => exact absurd hds (Decimal.digits_ne_nil n)
      | cons c cs => exact ⟨c, cs, hds, hds ▸ hdigits n⟩
  | negative n => exact ⟨'-', _, rfl, List.forall_mem_cons.2 ⟨rfl, hdigits n⟩⟩
  | real x => exact h.elim

end Provenance.Json
