import Switchboard.Payload

/-!
# Connections

A connection is where the hub leaves payloads for a client: a queue with a fixed number of places,
which the client's write pump empties.  Sending never waits.  A payload that finds no place, or
that comes after the connection was closed or its queue abandoned, is dropped and counted.

What a reader of the queue gets, followed by what still stands in it, is what was queued, in order
(`receive_append_queue`, `queue_send`); the queue never holds more than its places
(`length_queue_send`); closing leaves what is queued to be read (`queue_close`).
-/
namespace Switchboard

/-- The most places that a queue can be made with: an eighth of what a size can be. -/
def mostPlaces : Nat := (UInt64.size - 1) / 8

/-- What became of a payload that was sent. -/
inductive SendOutcome
  | queued
  | dropped
  deriving DecidableEq, Repr

/-- What the reader of a queue finds. -/
inductive Received
  | payload (p : Payload)
  /-- Nothing yet. -/
  | empty
  /-- Nothing, and nothing will come. -/
  | ended
  deriving DecidableEq, Repr

/-- A queue of outgoing payloads. -/
structure Connection where
  /-- How many payloads may stand in the queue. -/
  places : Nat
  queue : List Payload
  closed : Bool
  /-- Whether someone still reads the queue. -/
  read : Bool
  /-- How many payloads were dropped. -/
  drops : UInt64
  deriving DecidableEq, Repr

namespace Connection

/-- A connection with so many places, but at least one. -/
def ofCapacity (capacity : Nat) : Connection := ⟨max capacity 1, [], false, true, 0⟩

/-- A connection with so many places, if a queue can be made with them. -/
def ofCapacity? (capacity : Nat) : Option Connection :=
  if max capacity 1 ≤ mostPlaces then some (ofCapacity capacity) else none

/-- A connection that is gone. -/
def gone : Connection := ⟨1, [], true, false, 0⟩

instance : Inhabited Connection := ⟨gone⟩

/-- Whether a payload would be queued. -/
def accepts (c : Connection) : Bool :=
  !c.closed && c.read && decide (c.queue.length < c.places)

/-- Sends a payload. -/
def send (p : Payload) (c : Connection) : SendOutcome × Connection :=
  if c.accepts then (.queued, { c with queue := c.queue ++ [p] })
  else (.dropped, { c with drops := c.drops + 1 })

/-- Reads a payload. -/
def receive (c : Connection) : Received × Connection :=
  match c.queue with
  | p :: rest => (.payload p, { c with queue := rest })
  | [] => (if c.closed then .ended else .empty, c)

/-- Closes a connection, now and for ever. -/
def close (c : Connection) : Connection := { c with closed := true }

/-- Gives up the queue with all that stands in it. -/
def abandon (c : Connection) : Connection := { c with queue := [], read := false }

/-- A connection as it shows in a log, under a name. -/
def summary (name : String) (c : Connection) : String :=
  "ClientConnection \x7b id: ConnectionId(" ++ name ++ "), closed: " ++ toString c.closed ++
    ", dropped: " ++ toString c.drops.toNat ++ ", .. \x7d"

variable {c : Connection} {p : Payload}

theorem send_eq_queued_iff : (c.send p).1 = .queued ↔ c.accepts := by
  unfold send; split <;> simp_all

theorem queue_send : (c.send p).2.queue = if c.accepts then c.queue ++ [p] else c.queue := by
  unfold send; split <;> simp_all

@[simp] theorem places_send : (c.send p).2.places = c.places := by
  unfold send; split <;> rfl

@[simp] theorem closed_send : (c.send p).2.closed = c.closed := by
  unfold send; split <;> rfl

/-- A send keeps the queue within its places. -/
theorem length_queue_send (h : c.queue.length ≤ c.places) :
    (c.send p).2.queue.length ≤ c.places := by
  rw [queue_send]
  split
  · next ha => simp [accepts] at ha; simp; omega
  · exact h

/-- What a reader of the queue has got. -/
def payloads : Received → List Payload
  | .payload p => [p]
  | _ => []

/-- What is read, followed by what is left, is what stood in the queue. -/
theorem receive_append_queue : payloads c.receive.1 ++ c.receive.2.queue = c.queue := by
  unfold receive
  cases h : c.queue with
  | nil => cases hc : c.closed <;> simp [payloads, h]
  | cons p rest => simp [payloads]

@[simp] theorem closed_receive : c.receive.2.closed = c.closed := by
  unfold receive; split <;> rfl

@[simp] theorem read_receive : c.receive.2.read = c.read := by
  unfold receive; split <;> rfl

@[simp] theorem drops_receive : c.receive.2.drops = c.drops := by
  unfold receive; split <;> rfl

/-- The end of the queue is seen exactly when the connection is closed and all has been read. -/
theorem receive_eq_ended_iff : c.receive.1 = .ended ↔ c.closed ∧ c.queue = [] := by
  unfold receive
  split
  · next h => simp [h]
  · next h => simp [h]

@[simp] theorem queue_close : c.close.queue = c.queue := rfl

@[simp] theorem closed_close : c.close.closed = true := rfl

@[simp] theorem accepts_close : c.close.accepts = false := by simp [accepts]

end Connection
end Switchboard
