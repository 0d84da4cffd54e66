import Mathlib.Data.Nat.Notation
import Mathlib.Tactic.Lemma
import Provenance.Delivery.Collector

/-!
# Single steps and rounds of a channel

Each step of a channel is said once, by its cases: what it does, and under which condition.  A round
of the task takes an event up and settles it (`Channel.deliver_succ_cases`); a task whose collector
accepts everything goes on until nothing is left (`Channel.left_deliver`).
-/

namespace Provenance.Delivery

namespace Channel

/-! ## Single steps -/

/-- How many events the task has taken out of the queue. -/
def taken (c : Channel) : ℕ :=
  c.delivered + c.failed + c.inHand.toList.length

/-- An event is dropped if the task is gone or the queue is full, and put into the queue
otherwise. -/
lemma emit_cases (c : Channel) (e : Event) :
    ((c.running = false ∨ c.capacity ≤ c.queue.length) ∧
        c.emit e = ({ c with dropped := c.dropped + 1 },
          some (.dropped e (if c.running then .queueFull else .taskGone)))) ∨
      c.running = true ∧ c.queue.length < c.capacity ∧
        c.emit e = ({ c with queue := c.queue ++ [e] }, none) := by
  cases hrunning : c.running with
  | false =>
      left
      have hrefusal : c.refusal? = some .taskGone := by simp [refusal?, hrunning]
      simp [emit, hrefusal, hrunning]
  | true =>
      by_cases hfull : c.capacity ≤ c.queue.length
      · left
        have hrefusal : c.refusal? = some .queueFull := by simp [refusal?, hrunning, hfull]
        simp [emit, hrefusal, hrunning, hfull]
      · right
        have hrefusal : c.refusal? = none := by simp [refusal?, hrunning, hfull]
        simpa [emit, hrefusal, hrunning] using hfull

/-- The task takes an event out of the queue if it can. -/
lemma receive_cases (c : Channel) :
    c.receive = c ∧ (c.inHand = none → c.running = false ∨ c.queue = []) ∨
      c.running = true ∧ c.inHand = none ∧ ∃ e queue, c.queue = e :: queue ∧
        c.receive = { c with inHand := some e, queue := queue } := by
  unfold receive
  split
  · rename_i e queue hrunning hhand hqueue
    exact .inr ⟨hrunning, hhand, e, queue, hqueue, rfl⟩
  · rename_i hnot
    refine .inl ⟨rfl, fun hhand => ?_⟩
    cases hrunning : c.running with
    | false => exact .inl rfl
    | true =>
        cases hqueue : c.queue with
        | nil => exact .inr rfl
        | cons e queue => exact (hnot e queue hrunning hhand hqueue).elim

/-- The delivery of the event in hand counts as one that is settled. -/
lemma settle_cases (c : Channel) (result : Except Failure Unit) :
    c.inHand = none ∧ (c.settle result).1 = c ∨
      ∃ e delivered failed, c.inHand = some e ∧ delivered + failed = c.delivered + c.failed + 1 ∧
        (c.settle result).1 =
          { c with inHand := none, delivered := delivered, failed := failed } := by
  cases hhand : c.inHand with
  | none => exact .inl ⟨rfl, by simp [settle, hhand]⟩
  | some e =>
      right
      cases result with
      | ok _ =>
          refine ⟨e, c.delivered + 1, c.failed, rfl, by omega, ?_⟩
          simp [settle, hhand]
      | error failure =>
          refine ⟨e, c.delivered, c.failed + 1, rfl, by omega, ?_⟩
          simp [settle, hhand]

variable {c : Channel} {k k' : Collector} {e : Event} {result : Except Failure Unit}

lemma accepted_of_accept? (h : k.accept? e = some (result, k')) :
    k'.accepted = k.accepted ++ [e] := by
  unfold Collector.accept? at h
  split at h
  · cases h
  · cases h
    rfl

/-- The task stops without an event in hand, and if the collector does not accept the one it has. -/
lemma deliver_of_stopped (limit : ℕ) (h : ∀ e ∈ c.receive.inHand, k.accept? e = none) :
    c.deliver k (limit + 1) = (c.receive, k, []) := by
  rw [deliver]
  cases hhand : c.receive.inHand with
  | none => rfl
  | some e =>
      have hrefused : k.accept? e = none := h e hhand
      simp only [hrefused]

/-- The task goes on behind an event that the collector accepts. -/
lemma deliver_of_accepted (limit : ℕ) (hhand : c.receive.inHand = some e)
    (haccept : k.accept? e = some (result, k')) :
    (c.deliver k (limit + 1)).1 = ((c.receive.settle result).1.deliver k' limit).1 ∧
      (c.deliver k (limit + 1)).2.1 = ((c.receive.settle result).1.deliver k' limit).2.1 := by
  simp only [deliver, hhand, haccept, and_self]

/-- In a round the task goes on behind an event that the collector accepts, or it stops. -/
lemma deliver_succ_cases (c : Channel) (k : Collector) (limit : ℕ) :
    (∃ e result k', c.receive.inHand = some e ∧ k.accept? e = some (result, k') ∧
        (c.deliver k (limit + 1)).1 = ((c.receive.settle result).1.deliver k' limit).1 ∧
        (c.deliver k (limit + 1)).2.1 = ((c.receive.settle result).1.deliver k' limit).2.1) ∨
      c.deliver k (limit + 1) = (c.receive, k, []) := by
  cases hhand : c.receive.inHand with
  | none => exact .inr (deliver_of_stopped limit (by simp [hhand]))
  | some e =>
      cases haccept : k.accept? e with
      | none => exact .inr (deliver_of_stopped limit (by simpa [hhand] using haccept))
      | some answer =>
          exact .inl ⟨e, answer.1, answer.2, rfl, haccept, deliver_of_accepted limit hhand haccept⟩

end Channel

end Provenance.Delivery
