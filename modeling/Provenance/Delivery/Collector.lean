import Provenance.Delivery.Channel

/-!
# Collectors

A *collector* is where a channel's task delivers events.  It answers each delivery, in order, with
success or a failure, and it may let the task wait: it accepts no more events than it has allowed.
-/

namespace Provenance.Delivery

/-- The other end of deliveries. -/
structure Collector where
  /-- How many more events it accepts for now; any number if nothing is said. -/
  allowance : Option Nat
  /-- What it answers to its n-th delivery. -/
  answer : Nat → Except Failure Unit
  /-- The events that it has accepted. -/
  accepted : List Event

namespace Collector

/-- Allow a number of further events. -/
def allow (k : Collector) (n : Nat) : Collector :=
  { k with allowance := k.allowance.map (· + n) }

/-- Allow any number of further events. -/
def allowAll (k : Collector) : Collector :=
  { k with allowance := none }

/-- Accept an event, unless no further one is allowed. -/
def accept? (k : Collector) (e : Event) : Option (Except Failure Unit × Collector) :=
  if k.allowance = some 0 then none
  else some (k.answer k.accepted.length,
    { k with allowance := k.allowance.map (· - 1), accepted := k.accepted ++ [e] })

end Collector

/-- The task receives and delivers at most `limit` events, as long as there are some and the
collector accepts them. -/
def Channel.deliver (c : Channel) (k : Collector) :
    (limit : Nat) → Channel × Collector × List Warning
  | 0 => (c, k, [])
  | limit + 1 =>
    let c := c.receive
    match c.inHand with
    | none => (c, k, [])
    | some e =>
      match k.accept? e with
      | none => (c, k, [])
      | some (result, k) =>
        let (c, warning) := c.settle result
        let (c, k, warnings) := c.deliver k limit
        (c, k, warning.toList ++ warnings)

/-- The task runs until it can go no further. -/
def Channel.drain (c : Channel) (k : Collector) : Channel × Collector × List Warning :=
  c.deliver k (c.queue.length + 2)

end Provenance.Delivery
