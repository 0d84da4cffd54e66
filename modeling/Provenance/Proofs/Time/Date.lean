import Mathlib.Tactic.Lemma
import Provenance.Time.Date

/-!
# Days and dates

Every number of days is a date of the calendar, and the date counts that number of days
(`toDays_ofDays`).

The year of an era is found by a division that makes up for leap days: one is passed every 1460
days, but for the last one of a century.  Once it is known that the century comes out right
(`century_of_era`), what is left is linear.  The months from March on follow one another in a fixed
rhythm, which the leap day, the last of its year, does not disturb.
-/

namespace Provenance.Date

/-- The days of an era in front of one of its years. -/
def daysBefore (yearOfEra : Int) : Int :=
  365 * yearOfEra + yearOfEra / 4 - yearOfEra / 100

/-- The days of a year, which begins in March, in front of one of its months. -/
def daysBeforeMonth (monthFromMarch : Int) : Int :=
  (153 * monthFromMarch + 2) / 5

/-- The last day of an era is the one day that the count of centuries puts too late. -/
lemma century_of_era {day year : Int} (h0 : 0 ≤ day) (h1 : day < 146097)
    (hyear : year = (day - day / 1460 + day / 36524 - day / 146096) / 365) :
    year / 100 = day / 36524 - day / 146096 := by
  have hcentury : day / 36524 = 0 ∨ day / 36524 = 1 ∨ day / 36524 = 2 ∨ day / 36524 = 3 ∨
      day / 36524 = 4 := by omega
  rcases hcentury with hc | hc | hc | hc | hc <;> omega

/-- **The year of an era in which a day falls.**  Only a leap year has a day of number 365, and its
February belongs to the year after. -/
lemma year_of_era {day year : Int} (h0 : 0 ≤ day) (h1 : day < 146097)
    (hyear : year = (day - day / 1460 + day / 36524 - day / 146096) / 365) :
    0 ≤ year ∧ year < 400 ∧ daysBefore year ≤ day ∧ day ≤ daysBefore year + 365 ∧
      (day = daysBefore year + 365 →
        (year + 1) % 4 = 0 ∧ ((year + 1) % 100 ≠ 0 ∨ year = 399)) := by
  have hcentury : year / 100 = day / 36524 - day / 146096 := century_of_era h0 h1 hyear
  unfold daysBefore
  refine ⟨by omega, by omega, by omega, by omega, fun hlast => ?_⟩
  have hend : day / 146096 = 0 ∨ day / 146096 = 1 := by omega
  rcases hend with hend | hend
  · have hquad : year / 4 + 1 ≤ day / 1460 := by omega
    have hfour : year % 4 = 3 := by omega
    omega
  · omega

/-- The month of a year in which a day falls, and how long it may be. -/
lemma month_of_year {day month : Int} (h0 : 0 ≤ day) (h1 : day ≤ 365)
    (hmonth : month = (5 * day + 2) / 153) :
    0 ≤ month ∧ month ≤ 11 ∧ daysBeforeMonth month ≤ day ∧ day ≤ daysBeforeMonth month + 30 ∧
      (month = 1 ∨ month = 3 ∨ month = 6 ∨ month = 8 → day ≤ daysBeforeMonth month + 29) ∧
      (month = 11 → day ≤ daysBeforeMonth month + 28) := by
  unfold daysBeforeMonth
  omega

/-- The parts of a date that is some days after 1970-01-01: the era, the year of the era, the month
counted from March, and the day of the month. -/
structure Parts (days era year month day : Int) : Prop where
  year_nonneg : 0 ≤ year
  year_lt : year < 400
  month_nonneg : 0 ≤ month
  month_le : month ≤ 11
  day_pos : 1 ≤ day
  day_le : day ≤ 31
  short : month = 1 ∨ month = 3 ∨ month = 6 ∨ month = 8 → day ≤ 30
  february : month = 11 → day ≤ 29
  leap : month = 11 → day = 29 → (year + 1) % 4 = 0 ∧ ((year + 1) % 100 ≠ 0 ∨ year = 399)
  count : days + epochOffset =
    daysPerEra * era + daysBefore year + daysBeforeMonth month + day - 1

/-- The date whose parts are given. -/
def ofParts (era year month day : Int) : Date :=
  if month < 10 then ⟨400 * era + year, (month + 3).toNat, day.toNat⟩
  else ⟨400 * era + year + 1, (month - 9).toNat, day.toNat⟩

lemma exists_parts (days : Int) :
    ∃ era year month day, Parts days era year month day ∧
      ofDays days = ofParts era year month day := by
  have hsplit : daysPerEra * ((days + epochOffset) / daysPerEra) +
      (days + epochOffset) % daysPerEra = days + epochOffset := Int.mul_ediv_add_emod _ _
  have h0 : 0 ≤ (days + epochOffset) % daysPerEra := Int.emod_nonneg _ (by decide)
  have h1 : (days + epochOffset) % daysPerEra < 146097 := Int.emod_lt_of_pos _ (by decide)
  generalize hday : (days + epochOffset) % daysPerEra = dayOfEra at hsplit h0 h1
  generalize hera : (days + epochOffset) / daysPerEra = era at hsplit
  generalize hyear : (dayOfEra - dayOfEra / 1460 + dayOfEra / 36524 - dayOfEra / 146096) / 365 =
    year
  obtain ⟨hy0, hy1, hlow, hhigh, hleap⟩ := year_of_era h0 h1 hyear.symm
  generalize hmonth : (5 * (dayOfEra - daysBefore year) + 2) / 153 = month
  obtain ⟨hm0, hm1, hmlow, hmhigh, hshort, hfeb⟩ :=
    month_of_year (by omega) (by omega) hmonth.symm
  refine ⟨era, year, month, dayOfEra - daysBefore year - daysBeforeMonth month + 1, ?_, ?_⟩
  · refine ⟨hy0, hy1, hm0, hm1, by omega, by omega, by omega, by omega, fun hm hd => ?_, by omega⟩
    have hlast : daysBeforeMonth 11 = 337 := rfl
    rw [hm, hlast] at hd
    exact hleap (by omega)
  · have hbefore : 365 * year + year / 4 - year / 100 = daysBefore year := rfl
    have hmonths : (153 * month + 2) / 5 = daysBeforeMonth month := rfl
    simp only [ofDays, ofParts, hday, hera, hyear, hbefore, hmonth, hmonths]
    by_cases hm : month < 10
    · have hspring : ¬month + 3 ≤ 2 := by omega
      simp only [if_pos hm, if_neg hspring]
    · have hwinter : month - 9 ≤ 2 := by omega
      simp only [if_neg hm, if_pos hwinter]

/-- **A date counts the days of which it is the date.** -/
lemma toDays_ofDays (days : Int) : toDays (ofDays days) = days := by
  obtain ⟨era, year, month, day, h, hdate⟩ := exists_parts days
  obtain ⟨hy0, hy1, hm0, hm1, hd, -, -, -, -, hcount⟩ := h
  have hera : (400 * era + year) / 400 = era := by omega
  have hyear : (400 * era + year) % 400 = year := by omega
  have hday : (day.toNat : Int) = day := by omega
  unfold daysBefore daysBeforeMonth at hcount
  rw [hdate, ofParts]
  by_cases hm : month < 10
  · have hmonth : ((month + 3).toNat : Int) = month + 3 := by omega
    have hspring : ¬(month + 3).toNat ≤ 2 := by omega
    simp only [if_pos hm, toDays, if_neg hspring, hmonth, hday, hera, hyear]
    omega
  · have hmonth : ((month - 9).toNat : Int) = month - 9 := by omega
    have hwinter : (month - 9).toNat ≤ 2 := by omega
    have hbefore : 400 * era + year + 1 - 1 = 400 * era + year := by omega
    simp only [if_neg hm, toDays, if_pos hwinter, hmonth, hday, hbefore, hera, hyear]
    omega

/-- The calendar has twelve months, of at most 31 days. -/
lemma bounds_of_isValid {d : Date} (h : d.isValid = true) :
    1 ≤ d.month ∧ d.month ≤ 12 ∧ 1 ≤ d.day ∧ d.day ≤ 31 := by
  simp only [isValid, Bool.and_eq_true, decide_eq_true_eq] at h
  obtain ⟨⟨⟨hm1, hm12⟩, hd1⟩, hd⟩ := h
  have hlong : daysInMonth d.year d.month ≤ 31 := by
    unfold daysInMonth
    split
    · split <;> omega
    · split <;> omega
  exact ⟨hm1, hm12, hd1, Nat.le_trans hd hlong⟩

/-- **Every day is a date of the calendar.** -/
lemma isValid_ofDays (days : Int) : (ofDays days).isValid = true := by
  obtain ⟨era, year, month, day, h, hdate⟩ := exists_parts days
  obtain ⟨hy0, hy1, hm0, hm1, hd, hd31, hshort, hfeb, hleap, -⟩ := h
  rw [hdate, ofParts]
  by_cases hm : month < 10
  · simp only [if_pos hm, isValid, daysInMonth, Bool.and_eq_true, decide_eq_true_eq]
    refine ⟨⟨⟨by omega, by omega⟩, by omega⟩, ?_⟩
    split
    · omega
    · split <;> omega
  · simp only [if_neg hm, isValid, daysInMonth, isLeapYear, Bool.and_eq_true, Bool.or_eq_true,
      decide_eq_true_eq]
    refine ⟨⟨⟨by omega, by omega⟩, by omega⟩, ?_⟩
    split
    · split
      · omega
      · omega
    · split <;> omega

end Provenance.Date
