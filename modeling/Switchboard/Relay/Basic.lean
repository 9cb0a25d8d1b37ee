import Switchboard.Bus.Bridge
import Switchboard.Session

/-!
# The relay

The relay is all of it together: the hub, the sessions and the bridges that submit to it, and a
clock.  Its parts are tasks.  `Relay.step` is one step of one task; it answers with nothing while
the task has to wait for others or for time.  Whatever the relay does is a sequence of such steps,
of passing time, and of what comes from outside.
-/
namespace Switchboard

/-- A bridge with the channel that it reads. -/
structure Inlet where
  channel : Bus.Channel
  bridge : Bridge
  /-- How long the bridge rests after a transient failure, in milliseconds. -/
  pause : Nat
  /-- Whether the bridge is to stop. -/
  cancelled : Bool

/-- A part of the relay that goes on by itself. -/
inductive Task
  | hub
  | bridge (n : Nat)
  /-- The bookkeeping of a session. -/
  | session (n : Nat)
  | reader (n : Nat)
  | writer (n : Nat)
  deriving DecidableEq, Repr

/-- A relay. -/
structure Relay where
  settings : Settings
  /-- The time in milliseconds. -/
  now : Nat
  hub : Hub
  /-- What is counted outside the hub. -/
  metrics : Metrics
  /-- Whether everything is to stop. -/
  stopping : Bool
  sessions : List Session
  inlets : List Inlet
  /-- When tasks go on by themselves, in the order in which that was settled. -/
  timers : List (Task × Nat)
  /-- How many connections were opened. -/
  opened : Nat
  /-- Whether read pumps look to the transport before they look to the connection.  They favour
  neither, so this may change at any moment. -/
  transportFirst : Bool

namespace Relay

/-- A relay in which nothing has happened. -/
def start (settings : Settings) : Relay where
  settings := settings
  now := 0
  hub := .ofCapacity settings.hub.eventBuffer.toNat
  metrics := ∅
  stopping := false
  sessions := []
  inlets := []
  timers := []
  opened := 0
  transportFirst := false

/-- A relay in which nothing has happened, if there can be a hub as the settings want it. -/
def start? (settings : Settings) : Option Relay := do
  let hub ← Hub.ofCapacity? settings.hub.eventBuffer.toNat
  return { start settings with hub := hub }

/-- How long pumps wait. -/
def timing (r : Relay) : Timing := .ofSettings r.settings.keepalive

/-- Changes the hub. -/
def withHub (f : Hub → Hub) (r : Relay) : Relay := { r with hub := f r.hub }

/-- Changes the switch of the hub. -/
def withSwitch (f : Switch → Switch) (r : Relay) : Relay := r.withHub (Hub.withSwitch f)

/-- Counts. -/
def count (series : Series) (r : Relay) : Relay := { r with metrics := r.metrics.add series 1 }

/-- Changes a session. -/
def withSession (n : Nat) (f : Session → Session) (r : Relay) : Relay :=
  { r with sessions := r.sessions.modify n f }

/-- Changes the socket of a session. -/
def withSocket (n : Nat) (f : Socket → Socket) (r : Relay) : Relay :=
  r.withSession n fun s => { s with socket := f s.socket }

/-- Changes a bridge or its channel. -/
def withInlet (n : Nat) (f : Inlet → Inlet) (r : Relay) : Relay :=
  { r with inlets := r.inlets.modify n f }

/-- The connection of a client. -/
def connection (c : Client) (r : Relay) : Connection := r.hub.switch.connection c.connection

/-- Everything that was counted. -/
def allMetrics (r : Relay) : Metrics := r.metrics.merge r.hub.switch.metrics

/-! ## What tasks see and do -/

/-- What a read pump sees. -/
def readSight (s : Session) (r : Relay) : ReadPump.Sight where
  now := r.now
  closed := (r.connection s.client).closed
  transportFirst := r.transportFirst
  arrival := s.socket.arrivals.head?
  admission := r.hub.admission

/-- What a read pump does. -/
def doRead (n : Nat) (client : Client) (r : Relay) : ReadPump.Act → Relay
  | .take => r.withSocket n Socket.take
  | .skip e => r.count (.decodeErrors "client" e.kind)
  | .submit e => r.withHub (Hub.submit e)
  | .close => r.withSwitch (Switch.close client.connection)

/-- What a write pump sees. -/
def writeSight (s : Session) (r : Relay) : WritePump.Sight where
  now := r.now
  closed := (r.connection s.client).closed
  queue := s.front (r.connection s.client)
  admission := r.hub.admission
  offer f := (s.socket.offer f).1
  finish := s.socket.finish.1

/-- What a write pump does. -/
def doWrite (n : Nat) (client : Client) (ownQueue : Bool) (r : Relay) : WritePump.Act → Relay
  | .take =>
    if ownQueue then r.withSession n fun s => { s with queue := s.queue.map List.tail }
    else r.withSwitch fun s => (s.receive client.connection).2
  | .offer f _ => r.withSocket n fun s => (s.offer f).2
  | .finish => r.withSocket n fun s => s.finish.2
  | .submit e => r.withHub (Hub.submit e)
  | .close => r.withSwitch (Switch.close client.connection)
  | .abandon => if ownQueue then r else r.withSwitch (Switch.abandon client.connection)

/-- What the bookkeeping of a session does. -/
def doSession (r : Relay) : Session.Act → Relay
  | .submit e => r.withHub (Hub.submit e)
  | .giveUp => { r with metrics := r.metrics.lower .sessionsActive }
  | .finish reason =>
    let r := { r with metrics := r.metrics.lower .sessionsActive }
    (r.count (.sessionsEnded reason)).count .sessionDuration

/-- What a bridge sees. -/
def bridgeSight (i : Inlet) (r : Relay) : Bridge.Sight where
  now := r.now
  cancelled := r.stopping || i.cancelled
  arrival := i.channel.front?
  admission := r.hub.admission

/-- What a bridge does. -/
def doBridge (n : Nat) (topic : String) (r : Relay) : Bridge.Act → Relay
  | .take => r.withInlet n fun i => { i with channel := i.channel.take }
  | .record => r.count (.busRecords topic)
  | .skip e => r.count (.decodeErrors "bus" e.kind)
  | .failure f => r.count (.busErrors topic f.severity)
  | .submit e => r.withHub (Hub.submit e)
  | .leave => r.withInlet n fun i => { i with channel := i.channel.dropConsumer }

/-! ## Steps -/

/-- A step of a read pump. -/
def stepReader (n : Nat) (r : Relay) : Option Relay := do
  let s ← r.sessions[n]?
  let (pump, acts) ← (← s.reader).step r.timing s.client (r.readSight s)
  let r := r.withSession n fun s => { s with reader := some pump }
  return acts.foldl (doRead n s.client) r

/-- A step of a write pump. -/
def stepWriter (n : Nat) (r : Relay) : Option Relay := do
  let s ← r.sessions[n]?
  let (pump, acts) ← (← s.writer).step r.timing s.client (r.writeSight s)
  let r := r.withSession n fun s => { s with writer := some pump }
  return acts.foldl (doWrite n s.client s.queue.isSome) r

/-- A step in the bookkeeping of a session. -/
def stepSession (n : Nat) (r : Relay) : Option Relay := do
  let s ← r.sessions[n]?
  let (s, acts) ← s.step r.timing r.now r.hub.admission
  return acts.foldl doSession (r.withSession n fun _ => s)

/-- A step of a bridge. -/
def stepBridge (n : Nat) (r : Relay) : Option Relay := do
  let i ← r.inlets[n]?
  let (bridge, acts) ← i.bridge.step i.pause (r.bridgeSight i)
  let r := r.withInlet n fun i => { i with bridge := bridge }
  return acts.foldl (doBridge n i.channel.topic) r

/-- A step of the hub. -/
def stepHub (r : Relay) : Option Relay := do
  let hub ← r.hub.step
  return { r with hub := hub }

/-- A step of a task. -/
def step (r : Relay) : Task → Option Relay
  | .hub => r.stepHub
  | .bridge n => r.stepBridge n
  | .session n => r.stepSession n
  | .reader n => r.stepReader n
  | .writer n => r.stepWriter n

/-- When time alone makes a task go on. -/
def wakeAt? (r : Relay) : Task → Option Nat
  | .bridge n => (r.inlets[n]?).bind fun i => i.bridge.wakeAt?
  | .reader n => (r.sessions[n]?).bind fun s => s.reader.bind ReadPump.wakeAt?
  | .writer n => (r.sessions[n]?).bind fun s => s.writer.bind WritePump.wakeAt?
  | _ => none

end Relay
end Switchboard
