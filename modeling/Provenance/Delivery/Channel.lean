import Provenance.Event
import Provenance.Notice

/-!
# Delivery channels

A job must not wait for its events to be delivered.  A *channel* therefore has two sides: senders
put events into a queue without waiting, and a task takes them out one at a time and delivers them.
The queue has a limited capacity.  An event that finds it full, or finds the task gone, is dropped
with a warning, and a delivery that fails is counted and warned about; neither is tried again.

The steps of the task are apart, since the host may emit events between any two of them: it
*receives* an event, which makes room in the queue, and then *settles* its delivery.
-/

namespace Provenance.Delivery

/-- Why a delivery failed. -/
inductive Failure where
  /-- Writing the event failed. -/
  | io (cause : String)
  /-- The collector refused the event. -/
  | rejected (reason : String)
  deriving Repr, DecidableEq

/-- The wording of a failure. -/
def Failure.message : Failure → String
  | io cause => "IO error: " ++ cause
  | rejected reason => "collector rejected event: " ++ reason

/-- Why an event was dropped. -/
inductive Drop where
  | queueFull
  | taskGone
  deriving Repr, DecidableEq

/-- The wording of a reason to drop an event. -/
def Drop.message : Drop → String
  | queueFull => "delivery queue full"
  | taskGone => "delivery task gone"

/-- What a channel warns about. -/
inductive Warning where
  | dropped (e : Event) (reason : Drop)
  | failed (e : Event) (failure : Failure)

/-- The notice of a warning. -/
def Warning.notice : Warning → Notice
  | dropped e reason =>
    ⟨"dropping lineage event",
      [("event_type", e.type.name), ("run_id", e.run.id.toText), ("reason", reason.message)]⟩
  | failed e failure =>
    ⟨"lineage event delivery failed",
      [("event_type", e.type.name), ("run_id", e.run.id.toText), ("error", failure.message)]⟩

/-- The capacity of a queue for which none is given. -/
def defaultCapacity : Nat := 1024

/-- A queue of events and the task that delivers them.  The counts are natural numbers, so they say
what a host with counters of 64 bits sees as long as fewer than `2 ^ 64` events are emitted. -/
structure Channel where
  capacity : Nat
  queue : List Event
  /-- The event that the task has received and not yet settled. -/
  inHand : Option Event
  /-- Whether the task is there. -/
  running : Bool
  dropped : Nat
  delivered : Nat
  failed : Nat

namespace Channel

/-- A channel with room for `capacity` events, or for one at least. -/
def new (capacity : Nat) : Channel :=
  ⟨max capacity 1, [], none, true, 0, 0, 0⟩

/-- Why an event would be dropped now, if it would be. -/
def refusal? (c : Channel) : Option Drop :=
  if !c.running then some .taskGone
  else if c.capacity ≤ c.queue.length then some .queueFull
  else none

/-- Put an event into the queue, or drop it. -/
def emit (c : Channel) (e : Event) : Channel × Option Warning :=
  match c.refusal? with
  | none => ({ c with queue := c.queue ++ [e] }, none)
  | some reason => ({ c with dropped := c.dropped + 1 }, some (.dropped e reason))

/-- The task takes the next event out of the queue, if it has none in hand. -/
def receive (c : Channel) : Channel :=
  match c.running, c.inHand, c.queue with
  | true, none, e :: queue => { c with inHand := some e, queue := queue }
  | _, _, _ => c

/-- The delivery of the event in hand ends. -/
def settle (c : Channel) (result : Except Failure Unit) : Channel × Option Warning :=
  match c.inHand, result with
  | none, _ => (c, none)
  | some _, .ok () => ({ c with inHand := none, delivered := c.delivered + 1 }, none)
  | some e, .error failure =>
    ({ c with inHand := none, failed := c.failed + 1 }, some (.failed e failure))

/-- The task is gone, and with it whatever it has not settled. -/
def abort (c : Channel) : Channel :=
  { c with queue := [], inHand := none, running := false }

end Channel

end Provenance.Delivery
