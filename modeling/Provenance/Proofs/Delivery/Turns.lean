import Mathlib.Data.Nat.Notation
import Mathlib.Tactic.Lemma
import Provenance.Delivery.Collector

/-!
# The two sides of a channel

Senders and the task of a channel take turns in any order.  What is emitted in a schedule of turns
is up to the senders; what becomes of it depends on the room in the queue at that moment.

A channel *has room* for a number of events if they fit into the queue even if the task never takes
one out.  Then nothing is dropped, whatever the schedule is (`Channel.dropped_after`).  A task that
is left alone with a collector that accepts everything delivers the queue in order
(`Channel.deliver_of_accepting`).
-/

namespace Provenance.Delivery

/-! ## Schedules -/

/-- A turn of one of the two sides. -/
inductive Turn where
  /-- A sender emits an event. -/
  | emit (e : Event)
  /-- The task takes an event out of the queue. -/
  | receive
  /-- The delivery of the event in hand ends. -/
  | settle (result : Except Failure Unit)
  /-- The task is stopped. -/
  | abort

/-- The event that is emitted in a turn. -/
def Turn.emitted? : Turn → Option Event
  | emit e => some e
  | _ => none

/-- What is emitted in a schedule, in order. -/
def emitted (ts : List Turn) : List Event :=
  ts.filterMap Turn.emitted?

namespace Channel

/-- The channel after a turn. -/
def turn (c : Channel) : Turn → Channel
  | .emit e => (c.emit e).1
  | .receive => c.receive
  | .settle result => (c.settle result).1
  | .abort => c.abort

/-- The channel after a schedule. -/
def after (c : Channel) (ts : List Turn) : Channel :=
  ts.foldl turn c

/-! ## Room in the queue -/

/-- The task is there, and `n` more events fit into the queue. -/
structure HasRoom (c : Channel) (n : ℕ) : Prop where
  running : c.running = true
  length_le : c.queue.length + n ≤ c.capacity

variable {c : Channel} {n : ℕ}

lemma hasRoom_new (capacity : ℕ) : (new capacity).HasRoom capacity := by
  refine ⟨rfl, ?_⟩
  show [].length + capacity ≤ max capacity 1
  rw [List.length_nil, Nat.zero_add]
  exact Nat.le_max_left capacity 1

lemma HasRoom.mono {m : ℕ} (h : c.HasRoom n) (hm : m ≤ n) : c.HasRoom m :=
  ⟨h.running, Nat.le_trans (Nat.add_le_add_left hm _) h.length_le⟩

/-- An event takes up one place. -/
lemma HasRoom.push (h : c.HasRoom (n + 1)) (e : Event) :
    ({ c with queue := c.queue ++ [e] } : Channel).HasRoom n := by
  have hle : c.queue.length + (n + 1) ≤ c.capacity := h.length_le
  refine ⟨h.running, ?_⟩
  show (c.queue ++ [e]).length + n ≤ c.capacity
  rw [List.length_append, List.length_singleton]
  omega

/-- An event for which there is room is put behind the others. -/
lemma HasRoom.emit_eq (h : c.HasRoom (n + 1)) (e : Event) :
    c.emit e = ({ c with queue := c.queue ++ [e] }, none) := by
  have hroom : ¬c.capacity ≤ c.queue.length := by
    have hle := h.length_le
    omega
  have hrefusal : c.refusal? = none := by
    simp [refusal?, h.running, hroom]
  simp only [emit, hrefusal]

/-- **What a turn does to the room.**  Emitting an event takes up one place, and no turn of the task
takes up any; nothing is dropped in either case. -/
lemma HasRoom.turn {t : Turn} (h : c.HasRoom (n + t.emitted?.toList.length)) (ht : t ≠ .abort) :
    (c.turn t).HasRoom n ∧ (c.turn t).dropped = c.dropped := by
  cases t with
  | emit e =>
      have hroom : c.HasRoom (n + 1) := h
      have hturn : c.turn (.emit e) = { c with queue := c.queue ++ [e] } :=
        congrArg Prod.fst (hroom.emit_eq e)
      rw [hturn]
      exact ⟨hroom.push e, rfl⟩
  | receive =>
      have hroom : c.HasRoom n := h
      show c.receive.HasRoom n ∧ c.receive.dropped = c.dropped
      unfold receive
      split
      · rename_i e queue _ _ hqueue
        have hle : c.queue.length + n ≤ c.capacity := hroom.length_le
        rw [hqueue, List.length_cons] at hle
        refine ⟨⟨hroom.running, ?_⟩, rfl⟩
        show queue.length + n ≤ c.capacity
        omega
      · exact ⟨hroom, rfl⟩
  | settle result =>
      have hroom : c.HasRoom n := h
      show (c.settle result).1.HasRoom n ∧ (c.settle result).1.dropped = c.dropped
      unfold settle
      split <;> exact ⟨⟨hroom.running, hroom.length_le⟩, rfl⟩
  | abort => exact absurd rfl ht

lemma length_emitted_cons (t : Turn) (ts : List Turn) :
    (emitted (t :: ts)).length = (emitted ts).length + t.emitted?.toList.length := by
  unfold emitted
  rw [List.filterMap_cons]
  cases t.emitted? <;> simp

/-- **Nothing is dropped** in a schedule that emits no more events than there is room for. -/
lemma dropped_after {ts : List Turn} (h : c.HasRoom (emitted ts).length)
    (hts : ∀ t ∈ ts, t ≠ .abort) : (c.after ts).dropped = c.dropped := by
  induction ts generalizing c with
  | nil => rfl
  | cons t ts ih =>
      obtain ⟨ht, hts⟩ := List.forall_mem_cons.1 hts
      rw [length_emitted_cons] at h
      obtain ⟨hroom, hdropped⟩ := h.turn ht
      exact (ih hroom hts).trans hdropped

/-! ## Delivering what is there -/

/-- **A task with an accepting collector delivers the queue in order.** -/
lemma deliver_of_accepting {k : Collector} {limit : ℕ} (hrunning : c.running = true)
    (hhand : c.inHand = none) (hallow : k.allowance = none)
    (hanswer : ∀ i < c.queue.length, k.answer (k.accepted.length + i) = .ok ())
    (hlimit : c.queue.length ≤ limit) :
    c.deliver k limit =
      ({ c with queue := [], delivered := c.delivered + c.queue.length },
        { k with accepted := k.accepted ++ c.queue }, []) := by
  obtain ⟨capacity, queue, inHand, running, dropped, delivered, failed⟩ := c
  obtain ⟨allowance, answer, accepted⟩ := k
  cases hrunning
  cases hhand
  cases hallow
  dsimp only at hanswer hlimit ⊢
  induction queue generalizing limit delivered accepted with
  | nil =>
      rw [List.append_nil]
      cases limit <;> rfl
  | cons e queue ih =>
      cases limit with
      | zero => cases hlimit
      | succ limit =>
          have hfirst : answer accepted.length = .ok () := hanswer 0 (Nat.succ_pos _)
          have hrest : ∀ i < queue.length, answer ((accepted ++ [e]).length + i) = .ok () := by
            intro i hi
            have hnext := hanswer (i + 1) (Nat.succ_lt_succ hi)
            rw [List.length_append, List.length_singleton, Nat.add_assoc, Nat.add_comm 1 i]
            exact hnext
          have hstep :
              (⟨capacity, e :: queue, none, true, dropped, delivered, failed⟩ : Channel).deliver
                  ⟨none, answer, accepted⟩ (limit + 1) =
                (⟨capacity, queue, none, true, dropped, delivered + 1, failed⟩ : Channel).deliver
                  ⟨none, answer, accepted ++ [e]⟩ limit := by
            simp [deliver, receive, Collector.accept?, settle, hfirst]
          have hle : queue.length ≤ limit := Nat.le_of_succ_le_succ hlimit
          rw [hstep, ih _ _ hle hrest, List.append_assoc, List.length_cons, Nat.add_assoc,
            Nat.add_comm 1]
          rfl

end Channel

end Provenance.Delivery
