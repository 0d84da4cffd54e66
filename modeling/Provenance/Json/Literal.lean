import Provenance.Json.Written

/-!
# JSON literals

How a text literal and a number literal are spelled.  A text literal is a sequence of characters
and escapes up to the closing quote; an escape by code is one unit of UTF-16, so a character
beyond the basic plane takes two of them in a row.
-/

namespace Provenance.Json

/-! ## Text literals -/

/-- A part of a text literal: a character, or a UTF-16 unit that is given by its code. -/
inductive Piece where
  | char (c : Char)
  | unit (n : Nat)
  deriving Repr, DecidableEq

/-- What a hexadecimal digit counts. -/
def hexValue? (c : Char) : Option Nat :=
  if c.isDigit then some (c.toNat - '0'.toNat)
  else if 'a' ≤ c ∧ c ≤ 'f' then some (c.toNat - 'a'.toNat + 10)
  else if 'A' ≤ c ∧ c ≤ 'F' then some (c.toNat - 'A'.toNat + 10)
  else none

/-- The number of four hexadecimal digits. -/
def hexValue4? (a b c d : Char) : Option Nat := do
  some (((← hexValue? a) * 16 + (← hexValue? b)) * 256 + ((← hexValue? c) * 16 + (← hexValue? d)))

/-- The character that a backslash and a letter stand for. -/
def shortEscape? (c : Char) : Option Char :=
  if c = '"' ∨ c = '\\' ∨ c = '/' then some c
  else if c = 'b' then some '\x08'
  else if c = 'f' then some '\x0c'
  else if c = 'n' then some '\n'
  else if c = 'r' then some '\r'
  else if c = 't' then some '\t'
  else none

/-- The pieces of a text literal whose opening quote has been read, and what follows the closing
quote. -/
def takePieces : List Char → Option (List Piece × List Char)
  | [] => none
  | '"' :: rest => some ([], rest)
  | '\\' :: 'u' :: a :: b :: c :: d :: rest => do
    let n ← hexValue4? a b c d
    let (ps, rest) ← takePieces rest
    some (.unit n :: ps, rest)
  | '\\' :: e :: rest => do
    let c ← shortEscape? e
    let (ps, rest) ← takePieces rest
    some (.char c :: ps, rest)
  | c :: rest =>
    if c.toNat < 0x20 ∨ c = '\\' then none
    else do
      let (ps, rest) ← takePieces rest
      some (.char c :: ps, rest)

/-- The text of a list of pieces; `none` if a half of a surrogate pair has no other half. -/
def assemble : List Piece → Option (List Char)
  | [] => some []
  | .char c :: ps => (assemble ps).map (c :: ·)
  | .unit n :: ps =>
    if 0xD800 ≤ n ∧ n < 0xDC00 then
      match ps with
      | .unit m :: ps =>
        if 0xDC00 ≤ m ∧ m < 0xE000 then
          (assemble ps).map (Char.ofNat (0x10000 + (n - 0xD800) * 0x400 + (m - 0xDC00)) :: ·)
        else none
      | _ => none
    else if 0xDC00 ≤ n ∧ n < 0xE000 then none
    else (assemble ps).map (Char.ofNat n :: ·)

theorem takePieces_length_lt {cs : List Char} {ps : List Piece} {rest : List Char}
    (h : takePieces cs = some (ps, rest)) : rest.length < cs.length := by
  fun_induction takePieces cs generalizing ps rest with
  | case1 => simp at h
  | case2 => simp at h; simp [← h.2]
  | case3 a b c d r ih =>
    simp only [Option.bind_eq_bind, Option.bind_eq_some_iff, Option.some.injEq, Prod.mk.injEq] at h
    obtain ⟨_, _, ⟨_, _⟩, hr, _, rfl⟩ := h
    have := ih hr
    simp only [List.length_cons]; omega
  | case4 e r _ ih =>
    simp only [Option.bind_eq_bind, Option.bind_eq_some_iff, Option.some.injEq, Prod.mk.injEq] at h
    obtain ⟨_, _, ⟨_, _⟩, hr, _, rfl⟩ := h
    have := ih hr
    simp only [List.length_cons]; omega
  | case5 => simp at h
  | case6 c r _ _ _ _ ih =>
    simp only [Option.bind_eq_bind, Option.bind_eq_some_iff, Option.some.injEq, Prod.mk.injEq] at h
    obtain ⟨⟨_, _⟩, hr, _, rfl⟩ := h
    have := ih hr
    simp only [List.length_cons]; omega

/-! ## Number literals -/

/-- Whether a character can occur in a number literal. -/
def isNumberChar (c : Char) : Bool :=
  c.isDigit || c == '-' || c == '+' || c == '.' || c == 'e' || c == 'E'

/-- The integer part of a number literal, which has no superfluous leading zero, and the rest. -/
def takeInteger : List Char → Option (List Char × List Char)
  | '0' :: rest => some (['0'], rest)
  | cs =>
    let (ds, rest) := Decimal.spanAllDigits cs
    if ds.isEmpty then none else some (ds, rest)

/-- The fraction of a number literal, if there is one, and the rest. -/
def takeFraction : List Char → Option (Option (List Char) × List Char)
  | '.' :: cs =>
    let (ds, rest) := Decimal.spanAllDigits cs
    if ds.isEmpty then none else some (some ds, rest)
  | cs => some (none, cs)

/-- The exponent that ends a number literal, if there is one. -/
def takeExponent : List Char → Option (Option (Bool × List Char))
  | [] => some none
  | e :: cs =>
    if e = 'e' ∨ e = 'E' then
      let (down, ds) := match cs with
        | '-' :: ds => (true, ds)
        | '+' :: ds => (false, ds)
        | ds => (false, ds)
      if ds.isEmpty ∨ !ds.all (·.isDigit) then none else some (some (down, ds))
    else none

/-- The literal that a list of characters spells, all of them used. -/
def numberLiteral? (cs : List Char) : Option Number.Literal := do
  let (negative, cs) := match cs with
    | '-' :: cs => (true, cs)
    | cs => (false, cs)
  let (integer, cs) ← takeInteger cs
  let (fraction, cs) ← takeFraction cs
  let exponent ← takeExponent cs
  some ⟨negative, integer, fraction, exponent⟩

end Provenance.Json
