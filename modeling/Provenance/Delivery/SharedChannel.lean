import Provenance.Delivery.Collector

/-!
# Shared channels

Each part of a host that emits events holds a *sender* of the channel.  A sender can be copied and
given up.  All senders put their events into the same queue and share its count of dropped events,
so it does not matter through which of them an event is emitted.

The task ends by itself once every sender has been given up and nothing is left to deliver.
-/

namespace Provenance.Delivery

/-- A channel together with its senders. -/
structure SharedChannel where
  channel : Channel
  /-- For each sender that was ever made, in order, whether it is still there. -/
  senders : List Bool

namespace SharedChannel

/-- A channel with room for `capacity` events, or for one at least, and with one sender. -/
def new (capacity : Nat) : SharedChannel :=
  ⟨.new capacity, [true]⟩

/-! ## Senders -/

/-- Whether the sender with a number is there. -/
def hasSender (s : SharedChannel) (sender : Nat) : Bool :=
  s.senders[sender]?.getD false

/-- How many senders are there. -/
def senderCount (s : SharedChannel) : Nat :=
  s.senders.count true

/-- Emit an event through a sender.  One that is not there emits nothing. -/
def emit (s : SharedChannel) (sender : Nat) (e : Event) : SharedChannel × Option Warning :=
  if s.hasSender sender then
    let (c, warning) := s.channel.emit e
    ({ s with channel := c }, warning)
  else (s, none)

/-- Copy a sender that is there; the copy has the next number. -/
def copySender (s : SharedChannel) (sender : Nat) : SharedChannel :=
  if s.hasSender sender then { s with senders := s.senders ++ [true] } else s

/-- Give up a sender. -/
def giveUp (s : SharedChannel) (sender : Nat) : SharedChannel :=
  { s with senders := s.senders.set sender false }

/-- Give up all senders. -/
def giveUpAll (s : SharedChannel) : SharedChannel :=
  { s with senders := s.senders.map fun _ => false }

/-! ## The task -/

/-- The task ends by itself, unless a sender is there or an event is left. -/
def finish (s : SharedChannel) : SharedChannel :=
  if s.senderCount = 0 ∧ s.channel.queue = [] ∧ s.channel.inHand = none then
    { s with channel := { s.channel with running := false } }
  else s

/-- The task is stopped, whether it has anything left or not. -/
def abort (s : SharedChannel) : SharedChannel :=
  { s with channel := s.channel.abort }

/-- The task runs until it can go no further, which may be its end. -/
def drain (s : SharedChannel) (k : Collector) : SharedChannel × Collector × List Warning :=
  let (c, k, warnings) := s.channel.drain k
  (finish { s with channel := c }, k, warnings)

end SharedChannel

end Provenance.Delivery
