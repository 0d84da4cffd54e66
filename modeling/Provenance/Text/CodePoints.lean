/-!
# Sets and maps of code points

The properties of characters that the library uses are data of the Unicode standard.  They are
kept as lists of *runs*: arithmetic progressions of code points, which hold both an unbroken range
(step one) and a block in which only every second character has the property (step two).
-/

namespace Provenance.CodePoints

/-- The code points `first`, `first + step`, … up to `last`. -/
structure Run where
  first : Nat
  last : Nat
  step : Nat
  deriving Repr, DecidableEq

/-- Whether a code point lies in a run. -/
def Run.contains (r : Run) (n : Nat) : Bool :=
  r.first ≤ n && n ≤ r.last && (n - r.first) % r.step == 0

/-- Whether a code point lies in one of the runs. -/
def contains (runs : List Run) (n : Nat) : Bool :=
  runs.any (·.contains n)

/-- A run of code points that are all moved by the same distance. -/
structure Shift where
  run : Run
  offset : Int
  deriving Repr, DecidableEq

/-- The code point that a table of shifts makes of `n`, which is `n` where no run holds it. -/
def shift (shifts : List Shift) (n : Nat) : Nat :=
  match shifts.find? (·.run.contains n) with
  | some s => (n + s.offset).toNat
  | none => n

end Provenance.CodePoints
