import Mathlib.Data.Nat.Notation
import Mathlib.Tactic.Lemma
import Provenance.Text.CodePoints

/-!
# Runs of code points that keep apart

Tables of code points are long, and what one of them holds is told apart from what another holds
run by run: no code point lies in two tables whose runs keep apart (`contains_eq_false_of_apart`),
and a table of shifts leads into no run from which its images keep apart
(`contains_shift_eq_false`).

Alternating blocks do not keep apart in this sense, since one lies within the ends of the other.
Two of them miss each other all the same if one holds the even code points and the other the odd
ones (`Run.touches`).  So a table that makes small letters of capitals can be seen to lead out of
the capitals (`shift_eq_or_contains_eq_false`).
-/

namespace Provenance.CodePoints

lemma Run.contains_eq_true_iff {r : Run} {n : ℕ} : r.contains n = true ↔
    (r.first ≤ n ∧ n ≤ r.last) ∧ (n - r.first) % r.step = 0 := by
  simp only [Run.contains, Bool.and_eq_true, decide_eq_true_eq, beq_iff_eq]

lemma Run.bounds_of_contains {r : Run} {n : ℕ} (h : r.contains n = true) :
    r.first ≤ n ∧ n ≤ r.last :=
  (Run.contains_eq_true_iff.1 h).1

lemma contains_eq_true_iff {runs : List Run} {n : ℕ} :
    contains runs n = true ↔ ∃ r ∈ runs, r.contains n = true :=
  List.any_eq_true

/-- One table ends before the other begins, run by run. -/
def Apart (runs others : List Run) : Prop :=
  ∀ r ∈ runs, ∀ o ∈ others, r.last < o.first ∨ o.last < r.first

instance (runs others : List Run) : Decidable (Apart runs others) :=
  inferInstanceAs (Decidable (∀ _ ∈ _, _))

lemma contains_eq_false_of_apart {runs others : List Run} (h : Apart runs others) {n : ℕ}
    (hn : contains runs n = true) : contains others n = false := by
  apply Bool.eq_false_iff.2
  intro hother
  obtain ⟨r, hr, hrn⟩ := contains_eq_true_iff.1 hn
  obtain ⟨o, ho, hon⟩ := contains_eq_true_iff.1 hother
  have hlow := Run.bounds_of_contains hrn
  have hhigh := Run.bounds_of_contains hon
  rcases h r hr o ho with hlt | hlt
  · omega
  · omega

/-- Where a table of shifts leads is a code point, and none that lies between the ends of a run. -/
def LeadsOutside (shifts : List Shift) (runs : List Run) : Prop :=
  ∀ s ∈ shifts, 0 ≤ s.run.first + s.offset ∧
    ∀ r ∈ runs, s.run.last + s.offset < r.first ∨ r.last < s.run.first + s.offset

instance (shifts : List Shift) (runs : List Run) : Decidable (LeadsOutside shifts runs) :=
  inferInstanceAs (Decidable (∀ _ ∈ _, _))

/-- What lies in no run is not led into one. -/
lemma contains_shift_eq_false {shifts : List Shift} {runs : List Run}
    (h : LeadsOutside shifts runs) {n : ℕ} (hn : contains runs n = false) :
    contains runs (shift shifts n) = false := by
  unfold shift
  split
  · rename_i s hs
    have hmem : s.run.contains n = true := by simpa using List.find?_some hs
    have hsource := Run.bounds_of_contains hmem
    obtain ⟨hpos, happart⟩ := h s (List.mem_of_find?_eq_some hs)
    apply Bool.eq_false_iff.2
    intro hin
    obtain ⟨r, hr, htarget⟩ := contains_eq_true_iff.1 hin
    have himage := Run.bounds_of_contains htarget
    rcases happart r hr with hlt | hlt
    · omega
    · omega
  · exact hn

/-! ## Alternating blocks -/

/-- Whether two runs may have a code point in common, for all that their ends and parities show.
The comparison of numbers is the built-in one, as tables are compared run by run. -/
def Run.touches (r o : Run) : Bool :=
  Nat.ble o.first r.last && Nat.ble r.first o.last &&
    !((r.first == r.last || r.step % 2 == 0) && o.step % 2 == 0 && (r.first + o.first) % 2 == 1)

/-- A run of an even step holds code points of one parity only. -/
lemma Run.parity_of_contains {r : Run} {n : ℕ} (h : r.contains n = true) (hstep : r.step % 2 = 0) :
    n % 2 = r.first % 2 := by
  obtain ⟨hbounds, hmod⟩ := Run.contains_eq_true_iff.1 h
  have hdvd : 2 ∣ n - r.first :=
    Nat.dvd_trans (Nat.dvd_of_mod_eq_zero hstep) (Nat.dvd_of_mod_eq_zero hmod)
  omega

lemma Run.touches_of_contains {r o : Run} {n : ℕ} (hr : r.contains n = true)
    (ho : o.contains n = true) : r.touches o = true := by
  have hbounds := bounds_of_contains hr
  have hothers := bounds_of_contains ho
  have hsame : ¬((r.first = r.last ∨ r.step % 2 = 0) ∧ o.step % 2 = 0 ∧
      (r.first + o.first) % 2 = 1) := by
    rintro ⟨hone, hstep, hodd⟩
    have hparity : n % 2 = o.first % 2 := parity_of_contains ho hstep
    have hfirst : n % 2 = r.first % 2 := by
      rcases hone with hone | hone
      · rw [Nat.le_antisymm (hone ▸ hbounds.2) hbounds.1]
      · exact parity_of_contains hr hone
    omega
  simp only [touches, Nat.ble_eq, Bool.and_eq_true, Bool.or_eq_true, Bool.not_eq_true',
    Bool.eq_false_iff, beq_iff_eq, ne_eq, and_assoc]
  exact ⟨by omega, by omega, hsame⟩

/-- Where a shift leads. -/
def Shift.image (s : Shift) : Run :=
  ⟨(s.run.first + s.offset).toNat, (s.run.last + s.offset).toNat, s.run.step⟩

lemma Shift.contains_image {s : Shift} {n : ℕ} (hpos : 0 ≤ s.run.first + s.offset)
    (h : s.run.contains n = true) : s.image.contains (n + s.offset).toNat = true := by
  obtain ⟨⟨hlow, hhigh⟩, hmod⟩ := Run.contains_eq_true_iff.1 h
  have hsame : (n + s.offset).toNat - (s.run.first + s.offset).toNat = n - s.run.first := by omega
  refine Run.contains_eq_true_iff.2 ⟨⟨?_, ?_⟩, ?_⟩
  · show (s.run.first + s.offset).toNat ≤ (n + s.offset).toNat
    omega
  · show (n + s.offset).toNat ≤ (s.run.last + s.offset).toNat
    omega
  · show ((n + s.offset).toNat - (s.run.first + s.offset).toNat) % s.run.step = 0
    rw [hsame, hmod]

/-- Whether a table of shifts leads to code points, and to none that may lie in one of the runs. -/
def leaves (shifts : List Shift) (runs : List Run) : Bool :=
  shifts.all fun s => 0 ≤ s.run.first + s.offset && !runs.any s.image.touches

lemma shift_of_contains_eq_false {shifts : List Shift} {n : ℕ}
    (h : contains (shifts.map (·.run)) n = false) : shift shifts n = n := by
  unfold shift
  split
  · rename_i s hs
    have hmem : s.run.contains n = true := by simpa using List.find?_some hs
    have hin : contains (shifts.map (·.run)) n = true :=
      contains_eq_true_iff.2 ⟨s.run, List.mem_map_of_mem (List.mem_of_find?_eq_some hs), hmem⟩
    rw [h] at hin
    cases hin
  · rfl

/-- A code point stays where it is, or it is led out of the runs. -/
lemma shift_eq_or_contains_eq_false {shifts : List Shift} {runs : List Run}
    (h : leaves shifts runs = true) (n : ℕ) :
    shift shifts n = n ∨ contains runs (shift shifts n) = false := by
  unfold shift
  split
  · rename_i s hs
    right
    have hmem : s.run.contains n = true := by simpa using List.find?_some hs
    have hs := List.all_eq_true.1 h s (List.mem_of_find?_eq_some hs)
    simp only [Bool.and_eq_true, decide_eq_true_eq, Bool.not_eq_true'] at hs
    obtain ⟨hpos, htouches⟩ := hs
    apply Bool.eq_false_iff.2
    intro hin
    obtain ⟨r, hr, htarget⟩ := contains_eq_true_iff.1 hin
    exact List.any_eq_false.1 htouches r hr
      (Run.touches_of_contains (Shift.contains_image hpos hmem) htarget)
  · left
    rfl

/-- A number that is no code point stands for the null character. -/
lemma toNat_ofNat_eq_or (n : ℕ) : (Char.ofNat n).toNat = n ∨ (Char.ofNat n).toNat = 0 := by
  unfold Char.ofNat
  by_cases h : n.isValidChar
  · left
    rw [dif_pos h]
    rfl
  · right
    rw [dif_neg h]
    rfl

end Provenance.CodePoints
