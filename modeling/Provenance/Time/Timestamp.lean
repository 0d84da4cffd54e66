import Provenance.Text.Blank
import Provenance.Time.Instant

/-!
# Timestamps

The text of an instant is a date, a time of day and an offset from universal time, in the order and
with the separators of RFC 3339.  More is read than is written: numbers may lack leading zeros,
blanks may surround the separators, the year may carry a sign and any number of digits, the letters
may be small, the date may be set off by a blank, and universal time may be named `UTC`.

Each `take` function reads one part and returns it with the text that follows.
-/

namespace Provenance.Timestamp

open Text

/-- A number of at most `limit` digits after any blanks. -/
def takeNumber (limit : Nat) (cs : List Char) : Option (Nat × List Char) :=
  let (ds, rest) := Decimal.spanDigits limit (cs.dropWhile isBlank)
  if ds.isEmpty then none else some (Decimal.value ds, rest)

/-- A number of at most two digits after any blanks, between two bounds. -/
def takeField (low high : Nat) (cs : List Char) : Option (Nat × List Char) := do
  let (n, rest) ← takeNumber 2 cs
  if low ≤ n ∧ n ≤ high then some (n, rest) else none

/-- A character after any blanks. -/
def takeSeparator (c : Char) (cs : List Char) : Option (List Char) :=
  match cs.dropWhile isBlank with
  | d :: rest => if d = c then some rest else none
  | [] => none

/-- A year: up to four digits, or a sign and any number of them. -/
def takeYear (cs : List Char) : Option (Int × List Char) :=
  let signed (sign : Int) (cs : List Char) : Option (Int × List Char) :=
    let (ds, rest) := Decimal.spanAllDigits cs
    if ds.isEmpty then none else some (sign * Decimal.value ds, rest)
  match cs.dropWhile isBlank with
  | '-' :: rest => signed (-1) rest
  | '+' :: rest => signed 1 rest
  | rest => (takeNumber 4 rest).map fun (n, rest) => (n, rest)

/-- A date. -/
def takeDate (cs : List Char) : Option (Date × List Char) := do
  let (year, cs) ← takeYear cs
  let cs ← takeSeparator '-' cs
  let (month, cs) ← takeField 1 12 cs
  let cs ← takeSeparator '-' cs
  let (day, cs) ← takeField 1 31 cs
  let date : Date := ⟨year, month, day⟩
  if date.isValid then some (date, cs) else none

/-- The nanoseconds of a fraction of a second, if there is one; digits after the ninth are
skipped. -/
def takeFraction (cs : List Char) : Option (Nat × List Char) :=
  match cs with
  | '.' :: cs =>
    let (ds, rest) := Decimal.spanAllDigits cs
    let kept := ds.take 9
    if ds.isEmpty then none else some (Decimal.value kept * Decimal.power (9 - kept.length), rest)
  | cs => some (0, cs)

/-- A time of day: the seconds since midnight and the nanoseconds.  The sixtieth second of any
minute is read as a leap second. -/
def takeClock (cs : List Char) : Option ((Nat × Nat) × List Char) := do
  let (hour, cs) ← takeField 0 23 cs
  let cs ← takeSeparator ':' cs
  let (minute, cs) ← takeField 0 59 cs
  let cs ← takeSeparator ':' cs
  let (second, cs) ← takeField 0 60 cs
  let (nano, cs) ← takeFraction cs
  let minutes := (hour * 60 + minute) * 60
  if second = 60 then some ((minutes + 59, Instant.nanosPerSecond + nano), cs)
  else some ((minutes + second, nano), cs)

/-- The offset of a sign, two digits of hours, and two digits of minutes, between which colons and
blanks may stand. -/
def takeSignedOffset (sign : Int) (cs : List Char) : Option (Int × List Char) :=
  match cs with
  | h₁ :: h₂ :: cs =>
    match cs.dropWhile fun c => c == ':' || isBlank c with
    | m₁ :: m₂ :: rest =>
      if h₁.isDigit ∧ h₂.isDigit ∧ m₁.isDigit ∧ m₁ ≤ '5' ∧ m₂.isDigit then
        some (sign * (Decimal.value [h₁, h₂] * 3600 + Decimal.value [m₁, m₂] * 60), rest)
      else none
    | _ => none
  | _ => none

/-- An offset from universal time in seconds, after any blanks. -/
def takeOffset (cs : List Char) : Option (Int × List Char) :=
  let cs := cs.dropWhile isBlank
  if (cs.take 3).map Char.toUpper = ['U', 'T', 'C'] then some (0, cs.drop 3)
  else match cs with
    | c :: rest =>
      if c = 'Z' ∨ c = 'z' then some (0, rest)
      else if c = '+' then takeSignedOffset 1 rest
      else if c = '-' ∨ c = '\u2212' then takeSignedOffset (-1) rest
      else none
    | [] => none

/-- The instant that a timestamp denotes. -/
def instant? (s : String) : Option Instant := do
  let (date, cs) ← takeDate s.toList
  let cs ← match cs with
    | c :: rest => if c = 'T' ∨ c = 't' ∨ c = ' ' then some rest else none
    | [] => none
  let ((clock, nano), cs) ← takeClock cs
  let (offset, cs) ← takeOffset cs
  let second := date.toDays * Instant.secondsPerDay + clock
  if cs.all isBlank ∧ offset.natAbs < 86400 ∧ Instant.isRepresentable second
      ∧ Instant.isRepresentable (second - offset) then
    some ⟨second - offset, nano⟩
  else none

end Provenance.Timestamp
