import ReactiveTree.Signal.Event

/-!
# The event bus

Every subscription reads from a channel of its own, and the bus keeps a registry of the channels
that it sends to. Publishing sends an event to all that are registered, in turn. A channel takes an
event to the end of its queue if there is room; a queue without a capacity always has room, and a
full one keeps its oldest events. Where nobody reads any more, the channel loses its place in the
registry when the next event is sent to it. A subscription that ends is taken from the registry
before its channel is closed.

Key definitions: `Channel.send`, `Bus`, `Bus.subscribe`, `Bus.publish`, `Bus.receive`, `Bus.drain`,
`Bus.unsubscribe`.
-/
namespace ReactiveTree.Signal

/-! ### Channels -/

structure Channel where
  id : Nat
  /-- How many events the queue holds. -/
  capacity : Option Nat := none
  /-- The events that are not read yet, the oldest one first. -/
  queue : List Event := []
  /-- The subscription that reads has not ended. -/
  isOpen : Bool := true
deriving Inhabited

/-- What becomes of an event that is sent. -/
inductive Delivery where
  | queued
  | full
  | disconnected
deriving Repr, DecidableEq, Inhabited

namespace Channel

/-- There is room for one more event. -/
def hasRoom (c : Channel) : Bool := c.capacity.all (c.queue.length < ·)

/-- Put an event at the end of the queue, if somebody reads and there is room. -/
def send (e : Event) (c : Channel) : Delivery × Channel :=
  if !c.isOpen then (.disconnected, c)
  else if c.hasRoom then (.queued, { c with queue := c.queue ++ [e] })
  else (.full, c)

/-- Nobody reads any more, and what is in the queue is lost. -/
def close (c : Channel) : Channel := { c with queue := [], isOpen := false }

end Channel

/-! ### The bus -/

structure Bus where
  /-- The ids of the channels that events are sent to, the oldest one first. -/
  registry : List Nat := []
  channels : List Channel := []
  nextId : Nat := 0
deriving Inhabited

namespace Bus

/-- How many subscriptions are registered. -/
def size (b : Bus) : Nat := b.registry.length

/-- The channel of a subscription that has not ended. -/
def find? (b : Bus) (id : Nat) : Option Channel :=
  b.channels.find? fun c => c.id == id && c.isOpen

/-- Change the channel with an id. -/
def update (b : Bus) (id : Nat) (f : Channel → Channel) : Bus :=
  { b with channels := b.channels.map fun c => if c.id = id then f c else c }

/-- A new subscription; a capacity is at least one. -/
def subscribe (b : Bus) (capacity : Option Nat) : Nat × Bus :=
  (b.nextId,
    { registry := b.registry ++ [b.nextId]
      channels := b.channels ++ [{ id := b.nextId, capacity := capacity.map (max · 1) }]
      nextId := b.nextId + 1 })

/-- Send an event to one id: what becomes of it, and the bus with the channel after it. -/
def send (e : Event) (b : Bus) (id : Nat) : Delivery × Bus :=
  match b.channels.find? (·.id == id) with
  | some c => ((c.send e).1, b.update id fun _ => (c.send e).2)
  | none => (.disconnected, b)

/-- Send an event to one id, which is registered again unless nobody reads there. -/
def deliver (e : Event) (b : Bus) (id : Nat) : Bus :=
  match b.send e id with
  | (.disconnected, b) => b
  | (_, b) => { b with registry := b.registry ++ [id] }

/-- Send an event to all that are registered, in turn. -/
def publish (b : Bus) (e : Event) : Bus :=
  b.registry.foldl (deliver e) { b with registry := [] }

/-- Replace the queue of a subscription. -/
def withQueue (b : Bus) (id : Nat) (queue : List Event) : Bus :=
  b.update id fun c => { c with queue }

/-- The oldest event that is not read. -/
def receive (b : Bus) (id : Nat) : Option Event × Bus :=
  match b.find? id with
  | some c =>
    match c.queue with
    | e :: rest => (some e, b.withQueue id rest)
    | [] => (none, b)
  | none => (none, b)

/-- All events that are not read. -/
def drain (b : Bus) (id : Nat) : List Event × Bus :=
  match b.find? id with
  | some c => (c.queue, b.withQueue id [])
  | none => ([], b)

/-- Take an id from the registry. -/
def remove (b : Bus) (id : Nat) : Bus := { b with registry := b.registry.filter (· != id) }

/-- End a subscription. -/
def unsubscribe (b : Bus) (id : Nat) : Bus := (b.remove id).update id Channel.close

end Bus
end ReactiveTree.Signal
