import Mathlib.Tactic.IntervalCases
import Provenance.Proofs.Time.Date

/-!
# The calendar, day by day

The conversions between days and dates compute.  This module says what they compute, by the rule
from which a calendar is made: the day after a day is the next one of its month, or the first of the
next month, or the first of the next year (`tomorrow`).  From one day to the next the count of days
goes up by one (`toDays_tomorrow`), so the date of every count is found by going from 1970-01-01
forwards and backwards (`ofDays_zero`, `ofDays_succ`).

That this determines the dates rests on the count being a different one for every date of the
calendar (`ofDays_toDays`).  Years begin in March for it: then every day falls in front of the next
month and of the next year (`bounds_of_isValid_march`).
-/

namespace Provenance.Date

/-- The day after a day. -/
def tomorrow (d : Date) : Date :=
  if d.day < daysInMonth d.year d.month then ⟨d.year, d.month, d.day + 1⟩
  else if d.month < 12 then ⟨d.year, d.month + 1, 1⟩
  else ⟨d.year + 1, 1, 1⟩

/-! ## Years that begin in March -/

/-- The days from the first of March of year 0 to that of another year. -/
def yearStart (year : Int) : Int :=
  365 * year + year / 4 - year / 100 + year / 400

lemma yearStart_le {year year' : Int} (h : year ≤ year') : yearStart year ≤ yearStart year' := by
  unfold yearStart
  omega

/-- The year of a date if years begin in March. -/
def marchYear (d : Date) : Int :=
  if d.month ≤ 2 then d.year - 1 else d.year

/-- The month of a date, counted from March. -/
def marchMonth (d : Date) : Int :=
  if d.month ≤ 2 then d.month + 9 else d.month - 3

lemma toDays_eq (d : Date) : d.toDays =
    yearStart d.marchYear + daysBeforeMonth d.marchMonth + d.day - 1 - epochOffset := by
  have hera : ∀ year : Int, daysPerEra * (year / 400) + daysBefore (year % 400) =
      yearStart year := by
    intro year
    unfold daysPerEra daysBefore yearStart
    omega
  by_cases h : d.month ≤ 2
  · have hyear := hera (d.year - 1)
    unfold daysBefore at hyear
    simp only [toDays, marchYear, marchMonth, daysBeforeMonth, if_pos h]
    omega
  · have hyear := hera d.year
    unfold daysBefore at hyear
    simp only [toDays, marchYear, marchMonth, daysBeforeMonth, if_neg h]
    omega

lemma day_le_of_isValid {d : Date} (h : d.isValid = true) :
    d.day ≤ daysInMonth d.year d.month := by
  simp only [isValid, Bool.and_eq_true, decide_eq_true_eq] at h
  exact h.2

/-- Months other than February have the length of their place in the rhythm of the year. -/
lemma daysInMonth_of_ne_two {d : Date} (h1 : 1 ≤ d.month) (h12 : d.month ≤ 12)
    (hfeb : d.month ≠ 2) : daysBeforeMonth d.marchMonth + daysInMonth d.year d.month =
      daysBeforeMonth (d.marchMonth + 1) := by
  obtain ⟨year, month, day⟩ := d
  simp only at h1 h12 hfeb
  simp only [daysInMonth, if_neg hfeb]
  interval_cases month <;> first | exact absurd rfl hfeb | simp [marchMonth, daysBeforeMonth]

/-- February is what is left of the year. -/
lemma yearStart_eq (year : Int) :
    yearStart year = yearStart (year - 1) + daysBeforeMonth 11 + daysInMonth year 2 := by
  have hleap : isLeapYear year = true ↔
      year % 4 = 0 ∧ (year % 100 ≠ 0 ∨ year % 400 = 0) := by
    simp [isLeapYear]
  by_cases h : isLeapYear year = true
  · have hlength : daysInMonth year 2 = 29 := by simp [daysInMonth, h]
    have hrule := hleap.1 h
    unfold yearStart daysBeforeMonth
    omega
  · have hlength : daysInMonth year 2 = 28 := by simp [daysInMonth, h]
    have hrule := mt hleap.2 h
    unfold yearStart daysBeforeMonth
    omega

/-- A day of the calendar falls in front of the next month and in front of the next year. -/
lemma bounds_of_isValid_march {d : Date} (h : d.isValid = true) :
    daysBeforeMonth d.marchMonth + d.day ≤ daysBeforeMonth (d.marchMonth + 1) ∧
      yearStart d.marchYear + daysBeforeMonth d.marchMonth + d.day ≤
        yearStart (d.marchYear + 1) := by
  obtain ⟨hm1, hm12, hd1, -⟩ := bounds_of_isValid h
  have hd : d.day ≤ daysInMonth d.year d.month := day_le_of_isValid h
  have hfebruary : yearStart (d.marchYear + 1) = yearStart d.marchYear + daysBeforeMonth 11 +
      daysInMonth (d.marchYear + 1) 2 := by
    have hyear := yearStart_eq (d.marchYear + 1)
    rwa [Int.add_sub_cancel] at hyear
  by_cases hfeb : d.month = 2
  · have hyear : d.marchYear + 1 = d.year := by simp [marchYear, hfeb]
    have hmonth : d.marchMonth = 11 := by simp [marchMonth, hfeb]
    have hlength : daysInMonth d.year 2 ≤ 29 := by
      simp only [daysInMonth, if_true]
      split <;> simp
    rw [hfeb] at hd
    rw [hfebruary, hyear, hmonth]
    unfold daysBeforeMonth
    omega
  · have hlength := daysInMonth_of_ne_two hm1 hm12 hfeb
    have hlast : d.marchMonth + 1 ≤ 11 := by
      unfold marchMonth
      split <;> omega
    unfold daysBeforeMonth at *
    omega

/-- The days of a year come before those of the next. -/
lemma toDays_lt_of_marchYear_lt {d d' : Date} (h : d.isValid = true) (h' : d'.isValid = true)
    (hlt : d.marchYear < d'.marchYear) : d.toDays < d'.toDays := by
  obtain ⟨hm1', -, hd1', -⟩ := bounds_of_isValid h'
  have hle : yearStart (d.marchYear + 1) ≤ yearStart d'.marchYear := yearStart_le hlt
  have hend := (bounds_of_isValid_march h).2
  have hpos : 0 ≤ daysBeforeMonth d'.marchMonth := by
    unfold daysBeforeMonth marchMonth
    split <;> omega
  rw [toDays_eq, toDays_eq]
  omega

lemma ext_march {d d' : Date} (h : d.isValid = true) (h' : d'.isValid = true)
    (hyear : d.marchYear = d'.marchYear) (hmonth : d.marchMonth = d'.marchMonth)
    (hday : d.day = d'.day) : d = d' := by
  obtain ⟨hm1, hm12, -⟩ := bounds_of_isValid h
  obtain ⟨hm1', hm12', -⟩ := bounds_of_isValid h'
  unfold marchYear at hyear
  unfold marchMonth at hmonth
  have hm : d.month = d'.month := by
    split at hmonth <;> split at hmonth <;> omega
  have hy : d.year = d'.year := by
    rw [hm] at hyear
    split at hyear <;> omega
  cases d
  cases d'
  simp_all

/-- **Different dates count different numbers of days.** -/
lemma toDays_injOn {d d' : Date} (h : d.isValid = true) (h' : d'.isValid = true)
    (heq : d.toDays = d'.toDays) : d = d' := by
  rcases Int.lt_trichotomy d.marchYear d'.marchYear with hlt | hy | hlt
  · exact absurd heq (toDays_lt_of_marchYear_lt h h' hlt).ne
  · obtain ⟨-, -, hd1, -⟩ := bounds_of_isValid h
    obtain ⟨-, -, hd1', -⟩ := bounds_of_isValid h'
    have hmonth := (bounds_of_isValid_march h).1
    have hmonth' := (bounds_of_isValid_march h').1
    rw [toDays_eq, toDays_eq, hy] at heq
    have hm : d.marchMonth = d'.marchMonth := by
      unfold daysBeforeMonth at *
      omega
    rw [hm] at heq
    exact ext_march h h' hy hm (by omega)
  · exact absurd heq (toDays_lt_of_marchYear_lt h' h hlt).ne'

/-- **A date is the date of the days that it counts.** -/
lemma ofDays_toDays {d : Date} (h : d.isValid = true) : ofDays d.toDays = d :=
  toDays_injOn (isValid_ofDays _) h (toDays_ofDays _)

/-! ## From one day to the next -/

lemma isValid_tomorrow {d : Date} (h : d.isValid = true) : d.tomorrow.isValid = true := by
  have hlong : ∀ year month, 1 ≤ daysInMonth year month := by
    intro year month
    unfold daysInMonth
    split
    · split <;> decide
    · split <;> decide
  simp only [isValid, Bool.and_eq_true, decide_eq_true_eq] at h ⊢
  obtain ⟨⟨⟨hm1, hm12⟩, hd1⟩, hd⟩ := h
  unfold tomorrow
  split
  · exact ⟨⟨⟨hm1, hm12⟩, by simp⟩, by assumption⟩
  split
  · exact ⟨⟨⟨by simp, by assumption⟩, le_rfl⟩, hlong _ _⟩
  · exact ⟨⟨⟨le_rfl, Nat.le_add_left 1 11⟩, le_rfl⟩, hlong _ _⟩

lemma toDays_tomorrow {d : Date} (h : d.isValid = true) : d.tomorrow.toDays = d.toDays + 1 := by
  obtain ⟨hm1, hm12, hd1, -⟩ := bounds_of_isValid h
  have hd : d.day ≤ daysInMonth d.year d.month := day_le_of_isValid h
  rw [toDays_eq, toDays_eq]
  by_cases hlast : d.day < daysInMonth d.year d.month
  · have hnext : d.tomorrow = ⟨d.year, d.month, d.day + 1⟩ := if_pos hlast
    rw [hnext]
    show yearStart d.marchYear + daysBeforeMonth d.marchMonth + ((d.day + 1 : ℕ) : Int) - 1 -
      epochOffset = _
    omega
  have hday : d.day = daysInMonth d.year d.month := by omega
  rw [tomorrow, if_neg hlast, hday]
  by_cases hfeb : d.month = 2
  · have hyear : d.marchYear = d.year - 1 := by simp [marchYear, hfeb]
    have hmonth : d.marchMonth = 11 := by simp [marchMonth, hfeb]
    have hyear' : marchYear ⟨d.year, 2 + 1, 1⟩ = d.year := rfl
    have hmonth' : marchMonth ⟨d.year, 2 + 1, 1⟩ = 0 := rfl
    have hfirst : daysBeforeMonth 0 = 0 := rfl
    have hlength := yearStart_eq d.year
    rw [hfeb, if_pos (by decide), hyear', hmonth', hfirst, hyear, hmonth]
    simp only
    omega
  have hlength := daysInMonth_of_ne_two hm1 hm12 hfeb
  by_cases hdec : d.month < 12
  · have hyear : marchYear ⟨d.year, d.month + 1, 1⟩ = d.marchYear := by
      simp only [marchYear]
      split <;> split <;> omega
    have hmonth : marchMonth ⟨d.year, d.month + 1, 1⟩ = d.marchMonth + 1 := by
      simp only [marchMonth]
      split <;> split <;> omega
    rw [if_pos hdec, hyear, hmonth]
    simp only
    omega
  · have hmonth : d.month = 12 := by omega
    have hyear : marchYear ⟨d.year + 1, 1, 1⟩ = d.marchYear := by
      simp [marchYear, hmonth]
    have hmonth : marchMonth ⟨d.year + 1, 1, 1⟩ = d.marchMonth + 1 := by
      simp [marchMonth, hmonth]
    rw [if_neg hdec, hyear, hmonth]
    simp only
    omega

lemma ofDays_zero : ofDays 0 = ⟨1970, 1, 1⟩ := by
  decide

/-- **The date of the day after is the day after the date.** -/
lemma ofDays_succ (days : Int) : ofDays (days + 1) = (ofDays days).tomorrow := by
  have hvalid : (ofDays days).isValid = true := isValid_ofDays days
  refine toDays_injOn (isValid_ofDays _) (isValid_tomorrow hvalid) ?_
  rw [toDays_tomorrow hvalid, toDays_ofDays, toDays_ofDays]

end Provenance.Date
