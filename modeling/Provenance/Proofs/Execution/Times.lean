import Provenance.Proofs.Execution.Trace
import Provenance.Proofs.Time.Calendar
import Provenance.Proofs.Time.Timestamp

/-!
# The times of events

The host gives the time of an event in milliseconds.  Calendar and clock show it as a `Moment`, a
date and a time of day, and every count of milliseconds is that of one moment
(`Moment.millis_ofMillis`, `Moment.ofMillis_millis`).  The time is written as its moment, with three
digits for the milliseconds if there are any (`Instant.toText_of_ofMillis?`), and is read back part
by part, the last of which says that it is universal time (`Moment.isShownBy_text`).

Moments from the first of the earliest representable year to the last of the latest one are
representable (`Instant.isSome_ofMillis?_iff`).  For all others an execution takes the time of its
own clock.  Otherwise the times of a history decide nothing: with other times it goes through the
same phases and emits the same events at other times (`Execution.after_retimed`,
`Execution.events_retimed`).
-/

namespace Provenance

open Instant

/-! ## Calendar and clock -/

/-- A date and a time of day to the millisecond. -/
structure Moment where
  date : Date
  hour : ℕ
  minute : ℕ
  second : ℕ
  milli : ℕ
  deriving Repr, DecidableEq

namespace Moment

/-- A moment that calendar and clock can show. -/
structure IsValid (r : Moment) : Prop where
  date : r.date.isValid = true
  hour : r.hour < 24
  minute : r.minute < 60
  second : r.second < 60
  milli : r.milli < 1000

/-- The whole seconds since midnight. -/
def secondOfDay (r : Moment) : ℕ :=
  (r.hour * 60 + r.minute) * 60 + r.second

/-- The milliseconds since 1970-01-01T00:00:00Z. -/
def millis (r : Moment) : Int :=
  (r.date.toDays * 86400 + r.secondOfDay) * 1000 + r.milli

/-- The moment that is a number of milliseconds after 1970-01-01T00:00:00Z. -/
def ofMillis (millis : Int) : Moment :=
  let clock := (millis / 1000 % 86400).toNat
  ⟨Date.ofDays (millis / 1000 / 86400), clock / 3600, clock / 60 % 60, clock % 60,
    (millis % 1000).toNat⟩

/-- The earliest moment that is representable. -/
def earliest : Moment := ⟨⟨-262143, 1, 1⟩, 0, 0, 0, 0⟩

/-- The latest moment that is representable. -/
def latest : Moment := ⟨⟨262142, 12, 31⟩, 23, 59, 59, 999⟩

lemma isValid_ofMillis (millis : Int) : (ofMillis millis).IsValid where
  date := Date.isValid_ofDays _
  hour := by
    simp only [ofMillis]
    omega
  minute := Nat.mod_lt _ (by decide)
  second := Nat.mod_lt _ (by decide)
  milli := by
    simp only [ofMillis]
    omega

lemma millis_ofMillis (millis : Int) : (ofMillis millis).millis = millis := by
  simp only [ofMillis, Moment.millis, secondOfDay, Date.toDays_ofDays]
  omega

/-- **A count of milliseconds is that of one moment only.** -/
lemma ofMillis_millis {r : Moment} (h : r.IsValid) : ofMillis r.millis = r := by
  obtain ⟨date, hour, minute, second, milli⟩ := r
  obtain ⟨hdate, hhour, hminute, hsecond, hmilli⟩ := h
  simp only at hdate hhour hminute hsecond hmilli
  generalize hclock : (hour * 60 + minute) * 60 + second = clock
  have hcount : millis ⟨date, hour, minute, second, milli⟩ =
      (date.toDays * 86400 + clock) * 1000 + milli := by
    rw [← hclock]
    rfl
  generalize millis ⟨date, hour, minute, second, milli⟩ = count at hcount
  have hday : count / 1000 / 86400 = date.toDays := by omega
  have hrest : (count / 1000 % 86400).toNat = clock := by omega
  have hfraction : (count % 1000).toNat = milli := by omega
  simp only [ofMillis, hday, hrest, hfraction, Date.ofDays_toDays hdate, mk.injEq, true_and,
    and_true]
  omega

/-! ## Moments as text -/

/-- The time of day as text, with the mark of universal time. -/
def clockText (r : Moment) : List Char :=
  Decimal.padded 2 r.hour ++ ':' :: Decimal.padded 2 r.minute ++ ':' :: Decimal.padded 2 r.second ++
    (if r.milli = 0 then [] else '.' :: Decimal.padded 3 r.milli) ++ ['Z']

/-- The moment as a timestamp. -/
def text (r : Moment) : String :=
  String.ofList (dateText r.date ++ 'T' :: r.clockText)

/-- What a timestamp says about a moment: its year has a sign if four digits do not hold it, and it
is read as the date, the time of day and an offset of zero from universal time. -/
structure IsShownBy (r : Moment) (s : String) : Prop where
  eq_text : s = r.text
  minus_iff : s.toList.head? = some '-' ↔ r.date.year < 0
  plus_iff : s.toList.head? = some '+' ↔ 9999 < r.date.year
  takeDate : Timestamp.takeDate s.toList = some (r.date, 'T' :: r.clockText)
  takeClock : Timestamp.takeClock r.clockText = some ((r.secondOfDay, r.milli * 1000000), ['Z'])
  takeOffset : Timestamp.takeOffset ['Z'] = some (0, [])

lemma fractionText_millis (milli : ℕ) : fractionText (milli * 1000000) =
    if milli = 0 then [] else '.' :: Decimal.padded 3 milli := by
  unfold fractionText
  by_cases h : milli = 0
  · simp [h]
  · have hpos : milli * 1000000 ≠ 0 := by omega
    rw [if_neg hpos, if_neg h, if_pos (Nat.mul_mod_left milli 1000000),
      Nat.mul_div_cancel milli (by decide)]

lemma head?_yearText (year : Int) (rest : List Char) :
    ((yearText year ++ rest).head? = some '-' ↔ year < 0) ∧
      ((yearText year ++ rest).head? = some '+' ↔ 9999 < year) := by
  unfold yearText
  split
  · rename_i hshort
    obtain ⟨c, cs, hcs⟩ := List.exists_cons_of_ne_nil (Decimal.padded_ne_nil 4 year.toNat)
    have hc : c.isDigit = true := Decimal.isDigit_of_mem_padded (hcs ▸ List.mem_cons_self)
    rw [hcs]
    constructor
    · refine iff_of_false ?_ (by omega)
      rintro ⟨⟩
      cases hc
    · refine iff_of_false ?_ (by omega)
      rintro ⟨⟩
      cases hc
  · split <;> simp <;> omega

lemma isShownBy_text {r : Moment} (h : r.IsValid) : r.IsShownBy r.text := by
  have htext : r.text.toList = dateText r.date ++ 'T' :: r.clockText := String.toList_ofList
  have hhead := head?_yearText r.date.year
    ('-' :: Decimal.padded 2 r.date.month ++ '-' :: Decimal.padded 2 r.date.day ++
      'T' :: r.clockText)
  have hyear : r.text.toList = yearText r.date.year ++
      ('-' :: Decimal.padded 2 r.date.month ++ '-' :: Decimal.padded 2 r.date.day ++
        'T' :: r.clockText) := by
    rw [htext, dateText]
    simp
  refine ⟨rfl, ?_, ?_, ?_, ?_, by decide⟩
  · rw [hyear]
    exact hhead.1
  · rw [hyear]
    exact hhead.2
  · rw [htext]
    exact Timestamp.takeDate_dateText h.date _
  · have hnano : r.milli * 1000000 < nanosPerSecond := by
      have hmilli := h.milli
      show r.milli * 1000000 < 1000000000
      omega
    have hsecond := h.second
    rw [clockText, ← fractionText_millis,
      Timestamp.takeClock_fields h.hour h.minute (by omega) hnano, if_neg (by omega)]
    rfl

end Moment

/-! ## Representable moments -/

namespace Instant

lemma isRepresentable_iff (second : Int) : isRepresentable second = true ↔
    firstDay ≤ second / 86400 ∧ second / 86400 ≤ lastDay := by
  show (decide (firstDay ≤ second / 86400) && decide (second / 86400 ≤ lastDay)) = true ↔ _
  rw [Bool.and_eq_true, decide_eq_true_eq, decide_eq_true_eq]

/-- **Which counts of milliseconds are representable.** -/
lemma isSome_ofMillis?_iff (millis : Int) : (ofMillis? millis).isSome = true ↔
    Moment.earliest.millis ≤ millis ∧ millis ≤ Moment.latest.millis := by
  have hearliest : Moment.earliest.millis = firstDay * 86400 * 1000 := by decide
  have hlatest : Moment.latest.millis = lastDay * 86400 * 1000 + 86399999 := by decide
  rw [ofMillis?, Option.isSome_ite, isRepresentable_iff, hearliest, hlatest]
  omega

lemma ofMillis?_eq_some {millis : Int} {t : Instant} (h : ofMillis? millis = some t) :
    t = ⟨millis / 1000, (millis % 1000).toNat * 1000000⟩ := by
  simp only [ofMillis?, Option.ite_none_right_eq_some, Option.some.injEq] at h
  exact h.2.symm

lemma millis_of_ofMillis? {millis : Int} {t : Instant} (h : ofMillis? millis = some t) :
    t.millis = millis := by
  rw [ofMillis?_eq_some h, Instant.millis]
  simp only
  omega

lemma toText_of_lt (second : Int) {nano : ℕ} (h : nano < nanosPerSecond) :
    toText ⟨second, nano⟩ = String.ofList (dateText (Date.ofDays (second / 86400)) ++
      'T' :: Decimal.padded 2 ((second % 86400).toNat / 3600) ++
      ':' :: Decimal.padded 2 ((second % 86400).toNat / 60 % 60) ++
      ':' :: Decimal.padded 2 ((second % 86400).toNat % 60) ++ fractionText nano ++ ['Z']) := by
  simp only [toText, if_neg (Nat.not_le.2 h), secondsPerDay]

/-- **An instant in whole milliseconds is written as its moment.** -/
lemma toText_of_ofMillis? {millis : Int} {t : Instant} (h : ofMillis? millis = some t) :
    t.toText = (Moment.ofMillis millis).text := by
  have hnano : (millis % 1000).toNat * 1000000 < 1000000000 := by omega
  rw [ofMillis?_eq_some h, toText_of_lt _ hnano, Moment.fractionText_millis]
  simp only [Moment.text, Moment.clockText, Moment.ofMillis, List.append_assoc, List.cons_append]
  rfl

end Instant

/-! ## Histories at other times -/

/-- The events agree in everything but their times. -/
def Event.AgreesButTime (e e' : Event) : Prop :=
  { e with time := e'.time } = e'

namespace Execution

/-- The call, made at another time. -/
def Call.retimed (f : Int → Int) : Call → Call
  | .bind j before => .bind j before
  | .start millis now => .start (f millis) now
  | .finish millis outcome now => .finish (f millis) outcome now

variable {x : Execution}

lemma emit_retimed (x : Execution) (a : Agent) (type : EventType) (phase : Phase)
    (error : Option ErrorFacet) (millis millis' : Int) (now : Instant) (ws : List Warning) :
    List.Forall₂ Event.AgreesButTime (x.emit a type phase error millis now ws).event.toList
      (x.emit a type phase error millis' now ws).event.toList := by
  rw [emit_event, emit_event]
  exact .cons rfl .nil

/-- What a call does to an execution does not depend on the time of the call, and what it emits
depends on it in the time of the event only. -/
lemma call_retimed (f : Int → Int) (x : Execution) (a : Agent) (c : Call) :
    (x.call a (c.retimed f)).execution = (x.call a c).execution ∧
      List.Forall₂ Event.AgreesButTime (x.call a (c.retimed f)).event.toList
        (x.call a c).event.toList := by
  cases c with
  | bind j before => exact ⟨rfl, .nil⟩
  | start millis now =>
      simp only [Call.retimed, call, start]
      split
      · exact ⟨rfl, emit_retimed ..⟩
      · exact ⟨rfl, emit_retimed ..⟩
      · exact ⟨rfl, .nil⟩
  | finish millis outcome now =>
      simp only [Call.retimed, call, finish]
      split
      · exact ⟨rfl, emit_retimed ..⟩
      · exact ⟨rfl, .nil⟩
      · exact ⟨rfl, emit_retimed ..⟩

lemma after_retimed (f : Int → Int) (x : Execution) (a : Agent) (cs : List Call) :
    x.after a (cs.map (Call.retimed f)) = x.after a cs := by
  induction cs generalizing x with
  | nil => rfl
  | cons c cs ih => rw [List.map_cons, after, after, (call_retimed f x a c).1, ih]

lemma events_retimed (f : Int → Int) (x : Execution) (a : Agent) (cs : List Call) :
    List.Forall₂ Event.AgreesButTime (x.events a (cs.map (Call.retimed f))) (x.events a cs) := by
  induction cs generalizing x with
  | nil => exact .nil
  | cons c cs ih =>
      obtain ⟨hexecution, hevent⟩ := call_retimed f x a c
      rw [List.map_cons, events, events, hexecution]
      exact List.rel_append hevent (ih _)

/-! ## The times of events -/

lemma start_of_unstarted (h : x.phase = .created ∨ x.phase = .bound) (a : Agent) (millis : Int)
    (now : Instant) :
    (x.start a millis now).event = some (.build .start ((ofMillis? millis).getD now) a.job
        ⟨x.run, facets a none⟩ x.inputs x.outputs) ∧
      (x.start a millis now).execution = { x with phase := .started } := by
  rcases h with h | h <;> simp only [start, h]
  · exact ⟨emit_event .., rfl⟩
  · exact ⟨emit_event .., rfl⟩

lemma finish_of_unended (h : ∀ type, x.phase ≠ .ended type) (a : Agent) (millis : Int)
    (outcome : Outcome) (now : Instant) :
    (x.finish a millis outcome now).event =
        some (.build outcome.eventType ((ofMillis? millis).getD now) a.job
          ⟨x.run, facets a outcome.error?⟩ x.inputs x.outputs) ∧
      (x.finish a millis outcome now).execution =
        { x with phase := .ended outcome.eventType } := by
  cases hphase : x.phase with
  | created | bound | started =>
      simp only [finish, hphase]
      exact ⟨emit_event .., rfl⟩
  | ended type => exact absurd hphase (h type)

/-- **The time of an event is that of the host.**  It is an instant if and only if the host's count
of milliseconds is representable, and then nothing is lost: the instant counts as many, its text is
that of the moment which calendar and clock show, and it is read back from the text.  The calendar
is the one in which a day follows every day, by the rule of leap years, from 1970-01-01 forwards and
backwards.

Whatever the time, an execution that has not started or ended yet emits one event about it and goes
on to its next phase, with its own time if that of the host is not representable; and with all times
of a history changed the execution goes through the same phases and emits the same events, but for
their times. -/
theorem event_time_faithful (millis : Int) :
    ((ofMillis? millis).isSome = true ↔
      Moment.earliest.millis ≤ millis ∧ millis ≤ Moment.latest.millis) ∧
    (Moment.earliest.text = "-262143-01-01T00:00:00Z" ∧
      Moment.latest.text = "+262142-12-31T23:59:59.999Z") ∧
    (∀ t, ofMillis? millis = some t → t.millis = millis ∧
      (Moment.ofMillis millis).IsShownBy t.toText ∧ Timestamp.instant? t.toText = some t) ∧
    ((Moment.ofMillis millis).IsValid ∧ (Moment.ofMillis millis).millis = millis ∧
      ∀ r : Moment, r.IsValid → r.millis = millis → r = Moment.ofMillis millis) ∧
    (Date.ofDays 0 = ⟨1970, 1, 1⟩ ∧ ∀ days, (Date.ofDays days).toDays = days ∧
      Date.ofDays (days + 1) = (Date.ofDays days).tomorrow) ∧
    (∀ (a : Agent) (x : Execution) (now : Instant), x.phase = .created ∨ x.phase = .bound →
      (x.start a millis now).event = some (.build .start ((ofMillis? millis).getD now) a.job
        ⟨x.run, facets a none⟩ x.inputs x.outputs) ∧
      (x.start a millis now).execution = { x with phase := .started }) ∧
    (∀ (a : Agent) (x : Execution) (outcome : Outcome) (now : Instant),
      (∀ type, x.phase ≠ .ended type) →
      (x.finish a millis outcome now).event =
        some (.build outcome.eventType ((ofMillis? millis).getD now) a.job
          ⟨x.run, facets a outcome.error?⟩ x.inputs x.outputs) ∧
      (x.finish a millis outcome now).execution =
        { x with phase := .ended outcome.eventType }) ∧
    ∀ (f : Int → Int) (a : Agent) (x : Execution) (calls : List Call),
      x.after a (calls.map (Call.retimed f)) = x.after a calls ∧
      List.Forall₂ Event.AgreesButTime (x.events a (calls.map (Call.retimed f)))
        (x.events a calls) := by
  refine ⟨isSome_ofMillis?_iff millis, ⟨by decide +kernel, by decide +kernel⟩, ?_,
    ⟨Moment.isValid_ofMillis millis, Moment.millis_ofMillis millis, ?_⟩, ⟨Date.ofDays_zero, ?_⟩,
    fun a x now h => start_of_unstarted h a millis now,
    fun a x outcome now h => finish_of_unended h a millis outcome now,
    fun f a x calls => ⟨after_retimed f x a calls, events_retimed f x a calls⟩⟩
  · intro t ht
    have hshown := Moment.isShownBy_text (Moment.isValid_ofMillis millis)
    rw [← toText_of_ofMillis? ht] at hshown
    exact ⟨millis_of_ofMillis? ht, hshown,
      Timestamp.instant?_toText (isWellFormed_of_ofMillis? ht)⟩
  · rintro r hr rfl
    exact (Moment.ofMillis_millis hr).symm
  · intro days
    exact ⟨Date.toDays_ofDays days, Date.ofDays_succ days⟩

/-- An agent that takes bare paths on the local filesystem. -/
def localAgent : Agent :=
  ⟨.standard ⟨0⟩, ⟨⟨"file", none, ""⟩⟩, .standard⟩

/-- The last millisecond of 1969, and the first that is not representable any more. -/
theorem event_time_faithful_bounds :
    (∃ t, ofMillis? (-1) = some t ∧ t.millis = -1 ∧ t.toText = "1969-12-31T23:59:59.999Z" ∧
      Timestamp.instant? "1969-12-31T23:59:59.999Z" = some t) ∧
    ofMillis? 8210266876800000 = none ∧
      ((new ⟨1⟩ ⟨0⟩).start localAgent 8210266876800000 ⟨0, 0⟩).execution.phase = .started ∧
      ((new ⟨1⟩ ⟨0⟩).start localAgent 8210266876800000 ⟨0, 0⟩).event.map Event.time =
        some ⟨0, 0⟩ := by
  have hsome : ofMillis? (-1) = some ⟨-1, 999000000⟩ := by decide
  have hnone : ofMillis? 8210266876800000 = none := by decide
  have hwritten : (Moment.ofMillis (-1)).text = "1969-12-31T23:59:59.999Z" := by decide +kernel
  obtain ⟨-, -, htext, -⟩ := event_time_faithful (-1)
  obtain ⟨hmillis, hshown, hread⟩ := htext _ hsome
  rw [hshown.eq_text, hwritten] at hread
  obtain ⟨-, -, -, -, -, hstart, -⟩ := event_time_faithful 8210266876800000
  obtain ⟨hevent, hphase⟩ := hstart localAgent (new ⟨1⟩ ⟨0⟩) ⟨0, 0⟩ (.inl rfl)
  refine ⟨⟨_, hsome, hmillis, hshown.eq_text.trans hwritten, hread⟩, hnone, ?_, ?_⟩
  · rw [hphase]
  · rw [hevent, hnone]
    rfl

end Execution

end Provenance
