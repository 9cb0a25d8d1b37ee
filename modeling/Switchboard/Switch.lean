import Switchboard.Connection
import Switchboard.Metrics
import Switchboard.Registry

/-!
# The switch

The switch holds the registry and the connections, and changes them by **events**, each applied as
a whole: a client is registered or taken out, or a message is delivered.

Delivery never waits for a client.  The payload is first sent to everybody whom the message is for;
whoever had no place for it is then put out: taken from the registry, with the connection closed.
So a client misses at most one payload, and that is the last one sent to it.
-/
namespace Switchboard

/-- What is asked of a switch. -/
inductive Event
  /-- A client has connected. -/
  | register (c : Client)
  /-- A client is gone. -/
  | unregister (c : Client)
  /-- A message is to be delivered. -/
  | deliver (m : RoutedMessage)
  /-- Somebody wants to know the sizes of the registry. -/
  | stats

/-- A payload for everyone. -/
def Event.broadcast (p : Payload) : Event := .deliver ⟨.everyone, p⟩

/-- The registry, the connections, and what has been counted. -/
structure Switch where
  registry : Registry
  connections : Std.ExtTreeMap ConnectionId Connection
  metrics : Metrics

namespace Switch

/-- The switch with no connections. -/
def empty : Switch := ⟨∅, ∅, ∅⟩

instance : EmptyCollection Switch := ⟨empty⟩

instance : Inhabited Switch := ⟨∅⟩

/-- A connection; one that was never opened is gone. -/
def connection (id : ConnectionId) (s : Switch) : Connection := s.connections.getD id .gone

/-- Puts a connection in the place of another. -/
def setConnection (id : ConnectionId) (c : Connection) (s : Switch) : Switch :=
  { s with connections := s.connections.insert id c }

/-- Opens a connection with so many places. -/
def openConnection (id : ConnectionId) (capacity : Nat) (s : Switch) : Switch :=
  s.setConnection id (.ofCapacity capacity)

/-- Closes a connection. -/
def close (id : ConnectionId) (s : Switch) : Switch :=
  s.setConnection id (s.connection id).close

/-- Gives up the queue of a connection. -/
def abandon (id : ConnectionId) (s : Switch) : Switch :=
  s.setConnection id (s.connection id).abandon

/-- Reads a payload from the queue of a connection. -/
def receive (id : ConnectionId) (s : Switch) : Received × Switch :=
  let (received, c) := (s.connection id).receive
  (received, s.setConnection id c)

/-- Sends a payload over a connection. -/
def send (p : Payload) (id : ConnectionId) (s : Switch) : SendOutcome × Switch :=
  let (outcome, c) := (s.connection id).send p
  (outcome, s.setConnection id c)

/-- Counts. -/
def count (series : Series) (n : Nat) (s : Switch) : Switch :=
  { s with metrics := s.metrics.add series n }

/-- Takes down how many clients are registered. -/
def recordClients (s : Switch) : Switch :=
  { s with metrics := s.metrics.set .hubClients s.registry.size }

/-- Registers a client, unless its connection is closed already, and closes the connection that it
supersedes. -/
def register (c : Client) (s : Switch) : Switch :=
  if (s.connection c.connection).closed then s
  else
    let (registry, previous) := s.registry.register c
    let s := { s with registry := registry }
    let s := match previous with
      | some p => (s.close p.connection).count .hubSuperseded 1
      | none => s
    s.recordClients

/-- Takes a client out, unless another connection of its user is registered. -/
def unregister (c : Client) (s : Switch) : Switch :=
  match s.registry.unregister c with
  | (registry, true) => { s with registry := registry }.recordClients
  | (_, false) => s

/-- Sends a payload to clients one after the other, and tells who had no place for it. -/
def sendAll (p : Payload) : List Client → Switch → Switch × List Client
  | [], s => (s, [])
  | c :: rest, s =>
    let (outcome, s) := s.send p c.connection
    let (s, missed) := sendAll p rest s
    (s, if outcome = .queued then missed else c :: missed)

/-- Puts a client out. -/
def evict (c : Client) (s : Switch) : Switch :=
  { s with registry := (s.registry.unregister c).1 }.close c.connection |>.count .hubEvictions 1

/-- Sends a payload to clients and puts out those that had no place for it. -/
def sendOrEvict (p : Payload) (targets : List Client) (s : Switch) : Switch :=
  let (s, missed) := s.sendAll p targets
  let s := s.count .hubDeliveries (targets.length - missed.length)
  if missed.isEmpty then s
  else
    let s := s.count .hubDrops missed.length
    (missed.foldl (fun s c => s.evict c) s).recordClients

/-- Delivers a message. -/
def deliver (m : RoutedMessage) (s : Switch) : Switch :=
  (s.count (.hubMessagesRouted m.audience.kind) 1).sendOrEvict m.payload
    (s.registry.resolve m.audience)

/-- Applies an event. -/
def apply : Event → Switch → Switch
  | .register c, s => s.register c
  | .unregister c, s => s.unregister c
  | .deliver m, s => s.deliver m
  | .stats, s => s

/-- Takes everybody out and closes their connections. -/
def shutDown (s : Switch) : Switch :=
  let (registry, clients) := s.registry.drain
  let s := { s with registry := registry }
  (clients.foldl (fun (s : Switch) c => s.close c.connection) s).recordClients

theorem connection_setConnection (id other : ConnectionId) (c : Connection) (s : Switch) :
    (s.setConnection id c).connection other = if other = id then c else s.connection other := by
  simp [connection, setConnection, Std.ExtTreeMap.getD_insert, eq_comm (a := other)]

@[simp] theorem registry_setConnection (id : ConnectionId) (c : Connection) (s : Switch) :
    (s.setConnection id c).registry = s.registry := rfl

@[simp] theorem registry_close (id : ConnectionId) (s : Switch) :
    (s.close id).registry = s.registry := rfl

@[simp] theorem connection_count (series : Series) (n : Nat) (id : ConnectionId) (s : Switch) :
    (s.count series n).connection id = s.connection id := rfl

@[simp] theorem registry_count (series : Series) (n : Nat) (s : Switch) :
    (s.count series n).registry = s.registry := rfl

end Switch
end Switchboard
