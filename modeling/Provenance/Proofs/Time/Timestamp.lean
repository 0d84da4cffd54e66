import Mathlib.Data.List.TakeWhile
import Provenance.Proofs.Text.Decimal
import Provenance.Proofs.Time.Date
import Provenance.Time.Timestamp

/-!
# Instants, written and read

Every part of a timestamp is read back from its text with the rest behind it: the reader of a part
takes what has been written and no more.  Fields of two digits may be followed by anything; a year
and a fraction end where no digit follows.

An instant is *well formed* if it is representable and its nanoseconds go beyond one second in a
leap second only, which is the last second of a minute (`Instant.IsWellFormed`).  Well-formed
instants are read back as they were written (`instant?_toText`), and so are in particular those of
the host, which are whole milliseconds (`Instant.isWellFormed_of_ofMillis?`).
-/

namespace Provenance

namespace Timestamp

open Text Instant

/-! ## Numbers and separators -/

lemma isBlank_of_isDigit {c : Char} (h : c.isDigit = true) : isBlank c = false := by
  have hall : ∀ n < 58, 48 ≤ n → CodePoints.contains blankRuns n = false := by decide
  have hrange : 48 ≤ c.toNat ∧ c.toNat ≤ 57 := toNat_of_isDigit h
  exact hall c.toNat (by omega) hrange.1

lemma takeNumber_append {limit : ℕ} {ds rest : List Char} (hne : ds ≠ [])
    (hds : ∀ c ∈ ds, c.isDigit = true) (hlimit : ds.length ≤ limit)
    (hrest : ds.length = limit ∨ ∀ c ∈ rest.head?, c.isDigit = false) :
    takeNumber limit (ds ++ rest) = some (Decimal.value ds, rest) := by
  have hblank : (ds ++ rest).dropWhile isBlank = ds ++ rest := by
    cases ds with
    | nil => exact absurd rfl hne
    | cons d ds =>
        have hd : isBlank d = false := isBlank_of_isDigit (hds d List.mem_cons_self)
        rw [List.cons_append, List.dropWhile_cons_of_neg (by simp [hd])]
  rw [takeNumber, hblank, Decimal.spanDigits_append hds hlimit hrest]
  simp [hne]

/-- A number of at most two digits is read from a field of two. -/
lemma takeField_padded {low high n : ℕ} (hlow : low ≤ n) (hhigh : n ≤ high) (hn : n < 100)
    (rest : List Char) : takeField low high (Decimal.padded 2 n ++ rest) = some (n, rest) := by
  have hlength : (Decimal.padded 2 n).length = 2 := Decimal.length_padded hn
  have hnumber : takeNumber 2 (Decimal.padded 2 n ++ rest) = some (n, rest) := by
    rw [takeNumber_append (Decimal.padded_ne_nil 2 n) (fun _ => Decimal.isDigit_of_mem_padded)
      (by omega) (.inl hlength), Decimal.value_padded]
  simp [takeField, hnumber, hlow, hhigh]

lemma takeSeparator_cons {c : Char} (h : isBlank c = false) (rest : List Char) :
    takeSeparator c (c :: rest) = some rest := by
  simp [takeSeparator, h]

/-! ## The date -/

/-- A year without a sign is read from a field of four digits. -/
lemma takeYear_padded {n : ℕ} (hn : n < 10000) (rest : List Char) :
    takeYear (Decimal.padded 4 n ++ rest) = some ((n : Int), rest) := by
  have hnumber : takeNumber 4 (Decimal.padded 4 n ++ rest) = some (n, rest) := by
    have hlength : (Decimal.padded 4 n).length = 4 := Decimal.length_padded hn
    rw [takeNumber_append (Decimal.padded_ne_nil 4 n) (fun _ => Decimal.isDigit_of_mem_padded)
      (by omega) (.inl hlength), Decimal.value_padded]
  obtain ⟨c, cs, hcs⟩ := List.exists_cons_of_ne_nil (Decimal.padded_ne_nil 4 n)
  have hc : c.isDigit = true := Decimal.isDigit_of_mem_padded (hcs ▸ List.mem_cons_self)
  have hminus : c ≠ '-' := by
    rintro rfl
    cases hc
  have hplus : c ≠ '+' := by
    rintro rfl
    cases hc
  rw [hcs, List.cons_append] at hnumber ⊢
  simp [takeYear, isBlank_of_isDigit hc, hminus, hplus, hnumber]

/-- A year with a sign is read up to its last digit. -/
lemma takeYear_signed (n : ℕ) {rest : List Char} (hrest : ∀ c ∈ rest.head?, c.isDigit = false) :
    takeYear ('-' :: Decimal.padded 4 n ++ rest) = some (-(n : Int), rest) ∧
      takeYear ('+' :: Decimal.padded 4 n ++ rest) = some ((n : Int), rest) := by
  have hspan : Decimal.spanAllDigits (Decimal.padded 4 n ++ rest) = (Decimal.padded 4 n, rest) :=
    Decimal.spanAllDigits_append (fun _ => Decimal.isDigit_of_mem_padded) hrest
  have hblank : isBlank '-' = false ∧ isBlank '+' = false := by decide
  constructor <;> simp [takeYear, hblank, hspan, Decimal.padded_ne_nil, Decimal.value_padded]

lemma takeYear_yearText (year : Int) {rest : List Char}
    (hrest : ∀ c ∈ rest.head?, c.isDigit = false) :
    takeYear (yearText year ++ rest) = some (year, rest) := by
  unfold yearText
  split
  · rename_i hshort
    have hlt : year.toNat < 10000 := by omega
    have hcast : (year.toNat : Int) = year := by omega
    rw [takeYear_padded hlt, hcast]
  · split
    · rename_i hneg
      have hcast : -(year.natAbs : Int) = year := by omega
      rw [(takeYear_signed _ hrest).1, hcast]
    · rename_i hpos
      have hcast : (year.natAbs : Int) = year := by omega
      rw [(takeYear_signed _ hrest).2, hcast]

lemma takeDate_dateText {d : Date} (h : d.isValid = true) (rest : List Char) :
    takeDate (dateText d ++ rest) = some (d, rest) := by
  obtain ⟨hm1, hm12, hd1, hd31⟩ := Date.bounds_of_isValid h
  have hhyphen : isBlank '-' = false := by decide
  have hyear : ∀ cs, takeYear (yearText d.year ++ '-' :: cs) = some (d.year, '-' :: cs) :=
    fun cs => takeYear_yearText d.year (by simp)
  have hmonth : ∀ cs, takeField 1 12 (Decimal.padded 2 d.month ++ cs) = some (d.month, cs) :=
    takeField_padded hm1 hm12 (by omega)
  have hday : takeField 1 31 (Decimal.padded 2 d.day ++ rest) = some (d.day, rest) :=
    takeField_padded hd1 hd31 (by omega) rest
  simp only [takeDate, dateText, List.append_assoc, List.cons_append, hyear, hmonth, hday,
    takeSeparator_cons hhyphen, Option.bind_eq_bind, Option.bind_some, h, if_true]

/-! ## The time of day -/

/-- A fraction counts nanoseconds in as many digits as it has. -/
lemma takeFraction_padded {width n : ℕ} (hwidth : width + 1 ≤ 9)
    (hn : n < Decimal.power (width + 1)) :
    takeFraction ('.' :: Decimal.padded (width + 1) n ++ ['Z']) =
      some (n * Decimal.power (9 - (width + 1)), ['Z']) := by
  have hspan : Decimal.spanAllDigits (Decimal.padded (width + 1) n ++ ['Z']) =
      (Decimal.padded (width + 1) n, ['Z']) :=
    Decimal.spanAllDigits_append (fun _ => Decimal.isDigit_of_mem_padded) (by simp)
  have hlength : (Decimal.padded (width + 1) n).length = width + 1 := Decimal.length_padded hn
  have htake : (Decimal.padded (width + 1) n).take 9 = Decimal.padded (width + 1) n :=
    List.take_of_length_le (by omega)
  simp [takeFraction, hspan, Decimal.padded_ne_nil, htake, hlength, Decimal.value_padded]

lemma takeFraction_fractionText {nano : ℕ} (h : nano < nanosPerSecond) :
    takeFraction (fractionText nano ++ ['Z']) = some (nano, ['Z']) := by
  have hnano : nano < 1000000000 := h
  unfold fractionText
  split
  · rename_i hzero
    simp [takeFraction, hzero]
  split
  · rename_i hmillis
    have hvalue : nano / 1000000 * Decimal.power (9 - 3) = nano :=
      Nat.div_mul_cancel (Nat.dvd_of_mod_eq_zero hmillis)
    have hlt : nano / 1000000 < Decimal.power 3 := Nat.div_lt_of_lt_mul hnano
    rw [takeFraction_padded (by decide) hlt, hvalue]
  split
  · rename_i hmicros
    have hvalue : nano / 1000 * Decimal.power (9 - 6) = nano :=
      Nat.div_mul_cancel (Nat.dvd_of_mod_eq_zero hmicros)
    have hlt : nano / 1000 < Decimal.power 6 := Nat.div_lt_of_lt_mul hnano
    rw [takeFraction_padded (by decide) hlt, hvalue]
  · rw [takeFraction_padded (by decide) h]
    simp [Decimal.power]

lemma takeClock_fields {hour minute second nano : ℕ} (hhour : hour < 24) (hminute : minute < 60)
    (hsecond : second ≤ 60) (hnano : nano < nanosPerSecond) :
    takeClock (Decimal.padded 2 hour ++ ':' :: Decimal.padded 2 minute ++
        ':' :: Decimal.padded 2 second ++ fractionText nano ++ ['Z']) =
      some (if second = 60 then ((hour * 60 + minute) * 60 + 59, nanosPerSecond + nano)
        else ((hour * 60 + minute) * 60 + second, nano), ['Z']) := by
  have hcolon : isBlank ':' = false := by decide
  have hh : ∀ cs, takeField 0 23 (Decimal.padded 2 hour ++ cs) = some (hour, cs) :=
    takeField_padded (Nat.zero_le _) (by omega) (by omega)
  have hm : ∀ cs, takeField 0 59 (Decimal.padded 2 minute ++ cs) = some (minute, cs) :=
    takeField_padded (Nat.zero_le _) (by omega) (by omega)
  have hs : ∀ cs, takeField 0 60 (Decimal.padded 2 second ++ cs) = some (second, cs) :=
    takeField_padded (Nat.zero_le _) hsecond (by omega)
  simp only [takeClock, List.append_assoc, List.cons_append, hh, hm, hs,
    takeSeparator_cons hcolon, takeFraction_fractionText hnano, Option.bind_eq_bind,
    Option.bind_some]
  split <;> rfl

end Timestamp

/-! ## Whole instants -/

/-- An instant that is representable, in a leap second only if it is the last second of a minute. -/
structure Instant.IsWellFormed (t : Instant) : Prop where
  representable : Instant.isRepresentable t.second = true
  nano_lt : t.nano < 2 * Instant.nanosPerSecond
  leap : Instant.nanosPerSecond ≤ t.nano → t.second % 60 = 59

namespace Timestamp

open Instant

/-- The clock shows a leap second as the sixtieth of its minute, and is read so. -/
lemma exists_takeClock {clock nano : ℕ} (hclock : clock < 86400) (hnano : nano < 2000000000)
    (hleap : 1000000000 ≤ nano → clock % 60 = 59) : ∃ second fraction,
    (if nanosPerSecond ≤ nano then (clock % 60 + 1, nano - nanosPerSecond)
      else (clock % 60, nano)) = (second, fraction) ∧
    takeClock (Decimal.padded 2 (clock / 3600) ++ ':' :: Decimal.padded 2 (clock / 60 % 60) ++
      ':' :: Decimal.padded 2 second ++ fractionText fraction ++ ['Z']) =
      some ((clock, nano), ['Z']) := by
  have hhour : clock / 3600 < 24 := by omega
  have hminute : clock / 60 % 60 < 60 := by omega
  have hcount : (clock / 3600 * 60 + clock / 60 % 60) * 60 + clock % 60 = clock := by omega
  by_cases h : 1000000000 ≤ nano
  · have hlast : clock % 60 = 59 := hleap h
    have hfraction : nano - 1000000000 < 1000000000 := by omega
    have hsum : 1000000000 + (nano - 1000000000) = nano := by omega
    refine ⟨60, nano - 1000000000, ?_, ?_⟩
    · rw [hlast]
      exact if_pos h
    · rw [takeClock_fields hhour hminute (by decide) hfraction, if_pos rfl]
      show some (((clock / 3600 * 60 + clock / 60 % 60) * 60 + 59,
        1000000000 + (nano - 1000000000)), ['Z']) = _
      rw [hsum, ← hlast, hcount]
  · have hsecond : clock % 60 ≠ 60 := by omega
    refine ⟨clock % 60, nano, if_neg h, ?_⟩
    rw [takeClock_fields hhour hminute (by omega) (Nat.lt_of_not_le h), if_neg hsecond, hcount]

/-- **An instant is read as it was written.** -/
lemma instant?_toText {t : Instant} (h : t.IsWellFormed) : instant? t.toText = some t := by
  obtain ⟨second, nano⟩ := t
  have hnano : nano < 2000000000 := h.nano_lt
  have hleap : 1000000000 ≤ nano → second % 60 = 59 := h.leap
  generalize hclock : (second % secondsPerDay).toNat = clock
  have hcast : (clock : Int) = second % 86400 := by
    rw [← hclock]
    exact Int.toNat_of_nonneg (Int.emod_nonneg second (by decide))
  have hlt : clock < 86400 := by omega
  have hdate : ∀ cs, takeDate (dateText (Date.ofDays (second / secondsPerDay)) ++ cs) =
      some (Date.ofDays (second / secondsPerDay), cs) :=
    takeDate_dateText (Date.isValid_ofDays _)
  have hsecond :
      (Date.ofDays (second / secondsPerDay)).toDays * secondsPerDay + clock = second := by
    rw [Date.toDays_ofDays, hcast]
    exact Int.ediv_mul_add_emod second 86400
  have hoffset : takeOffset ['Z'] = some (0, []) := by decide
  obtain ⟨shown, fraction, hshown, hread⟩ :=
    exists_takeClock hlt hnano (fun hle => by have := hleap hle; omega)
  simp only [List.append_assoc, List.cons_append] at hread
  simp only [instant?, toText, String.toList_ofList, hclock, hshown, List.append_assoc,
    List.cons_append, hdate, Option.bind_eq_bind, Option.bind_some]
  rw [if_pos (by decide)]
  simp only [Option.bind_some, hread, hoffset, hsecond, Int.sub_zero, h.representable]
  exact if_pos ⟨rfl, by decide, trivial, trivial⟩

end Timestamp

/-! ## Instants that are read -/

namespace Timestamp

open Instant

/-- Nine digits of a fraction are kept, so it is less than a second. -/
lemma lt_of_takeFraction {cs rest : List Char} {nano : ℕ}
    (h : takeFraction cs = some (nano, rest)) : nano < nanosPerSecond := by
  unfold takeFraction at h
  split at h
  · rename_i cs
    simp only [Option.ite_none_left_eq_some, Option.some.injEq, Prod.mk.injEq] at h
    obtain ⟨-, rfl, -⟩ := h
    generalize hkept : (Decimal.spanAllDigits cs).1.take 9 = kept
    have hdigits : ∀ c ∈ kept, c.isDigit = true := by
      intro c hc
      rw [← hkept, Decimal.spanAllDigits, List.span_eq_takeWhile_dropWhile] at hc
      exact List.mem_takeWhile_imp (List.mem_of_mem_take hc)
    have hlength : kept.length ≤ 9 := by
      rw [← hkept]
      exact List.length_take_le 9 _
    have hpos : 0 < Decimal.power (9 - kept.length) := Nat.pow_pos (by decide)
    calc Decimal.value kept * Decimal.power (9 - kept.length)
        < Decimal.power kept.length * Decimal.power (9 - kept.length) :=
          Nat.mul_lt_mul_of_pos_right (Decimal.value_lt_power hdigits) hpos
      _ = Decimal.power (kept.length + (9 - kept.length)) := (Nat.pow_add 10 _ _).symm
      _ = nanosPerSecond := by rw [Nat.add_sub_cancel' hlength]; rfl
  · obtain ⟨rfl, -⟩ := Prod.mk.inj (Option.some.inj h)
    decide

/-- A clock goes beyond a second in the last second of a minute only. -/
lemma leap_of_takeClock {cs rest : List Char} {clock nano : ℕ}
    (h : takeClock cs = some ((clock, nano), rest)) :
    nano < 2 * nanosPerSecond ∧ (nanosPerSecond ≤ nano → clock % 60 = 59) := by
  simp only [takeClock, Option.bind_eq_bind, Option.bind_eq_some_iff] at h
  obtain ⟨⟨hour, cs₁⟩, -, cs₂, -, ⟨minute, cs₃⟩, -, cs₄, -, ⟨second, cs₅⟩, -, ⟨fraction, cs₆⟩,
    hfraction, h⟩ := h
  have hlt : fraction < 1000000000 := lt_of_takeFraction hfraction
  show nano < 2 * 1000000000 ∧ (1000000000 ≤ nano → clock % 60 = 59)
  split at h
  · simp only [Option.some.injEq, Prod.mk.injEq] at h
    obtain ⟨⟨rfl, hnano⟩, -⟩ := h
    have hsum : nano = 1000000000 + fraction := hnano.symm
    omega
  · simp only [Option.some.injEq, Prod.mk.injEq] at h
    obtain ⟨⟨-, rfl⟩, -⟩ := h
    omega

/-- An offset is a number of whole minutes. -/
lemma dvd_of_takeOffset {cs rest : List Char} {offset : Int}
    (h : takeOffset cs = some (offset, rest)) : 60 ∣ offset := by
  have hsigned : ∀ {sign : Int} {cs : List Char},
      takeSignedOffset sign cs = some (offset, rest) → 60 ∣ offset := by
    intro sign cs h
    unfold takeSignedOffset at h
    split at h
    · split at h
      · simp only [Option.ite_none_right_eq_some, Option.some.injEq, Prod.mk.injEq] at h
        obtain ⟨-, rfl, -⟩ := h
        refine Int.dvd_mul_of_dvd_right ?_
        omega
      · cases h
    · cases h
  simp only [takeOffset] at h
  split at h
  · obtain ⟨rfl, -⟩ := Prod.mk.inj (Option.some.inj h)
    exact Int.dvd_zero 60
  split at h
  · split at h
    · obtain ⟨rfl, -⟩ := Prod.mk.inj (Option.some.inj h)
      exact Int.dvd_zero 60
    split at h
    · exact hsigned h
    split at h
    · exact hsigned h
    · cases h
  · cases h

/-- **Every timestamp denotes a well-formed instant.**  A leap second remains the last second of a
minute at every offset. -/
lemma isWellFormed_of_instant? {s : String} {t : Instant} (h : instant? s = some t) :
    t.IsWellFormed := by
  simp only [instant?, Option.bind_eq_bind, Option.bind_eq_some_iff] at h
  obtain ⟨⟨date, cs₁⟩, -, h⟩ := h
  split at h
  case h_2 => cases h
  split at h
  case isFalse => cases h
  simp only [Option.bind_some, Option.bind_eq_some_iff, Option.ite_none_right_eq_some,
    Option.some.injEq] at h
  obtain ⟨⟨⟨clock, nano⟩, cs₂⟩, hclock, ⟨offset, cs₃⟩, hoffset, ⟨-, -, -, hrep⟩, rfl⟩ := h
  obtain ⟨hnano, hleap⟩ := leap_of_takeClock hclock
  have hminutes : 60 ∣ offset := dvd_of_takeOffset hoffset
  refine ⟨hrep, hnano, fun hle => ?_⟩
  have hlast : clock % 60 = 59 := hleap hle
  show (date.toDays * 86400 + (clock : Int) - offset) % 60 = 59
  omega

end Timestamp

/-- The instants of the host are well formed. -/
lemma Instant.isWellFormed_of_ofMillis? {millis : Int} {t : Instant}
    (h : Instant.ofMillis? millis = some t) : t.IsWellFormed := by
  simp only [Instant.ofMillis?, Option.ite_none_right_eq_some, Option.some.injEq] at h
  obtain ⟨hrep, rfl⟩ := h
  refine ⟨hrep, ?_, ?_⟩
  · show (millis % 1000).toNat * 1000000 < 2 * 1000000000
    omega
  · intro hle
    have hle : 1000000000 ≤ (millis % 1000).toNat * 1000000 := hle
    omega

end Provenance
