import Switchboard.Envelope
import Switchboard.Hub
import Switchboard.Pump.Basic

/-!
# The read pump

The read pump takes frames from the transport one by one and submits to the hub the messages that
the text and binary frames hold; what cannot be decoded is counted and skipped.  It gives the peer
up when the deadline passes, which only pongs put off.  However it ends, it first closes the
connection and then has the client taken out.

While it waits for a frame it also waits for the connection to be closed, and it favours neither:
when both have come, it may as well take the frame.

The pump is a machine.  What it sees of the world at a moment is a `Sight`; a step answers with the
next state and the acts to be done, or with nothing if the pump has to wait.
-/
namespace Switchboard

/-- Where a read pump stands. -/
inductive ReadPump
  /-- Waiting for a frame until the deadline. -/
  | reading (deadline : Nat)
  /-- A message is to be submitted. -/
  | submitting (m : RoutedMessage) (deadline : Nat)
  /-- The connection is closed, and the client is to be taken out. -/
  | leaving (result : Option TransportFault)
  /-- Over, with a fault or in order. -/
  | ended (result : Option TransportFault)
  /-- Taken down by the transport. -/
  | broken

namespace ReadPump

/-- What a read pump sees. -/
structure Sight where
  now : Nat
  /-- Whether the connection is closed. -/
  closed : Bool
  /-- Whether the pump looks to the transport before it looks to the connection. -/
  transportFirst : Bool
  /-- What the transport has for the pump. -/
  arrival : Option Incoming
  /-- What the hub would say to a submission. -/
  admission : Admission

namespace Sight

/-- Whether waiting for the transport is over: something has come, or the deadline has passed. -/
def ready (s : Sight) (deadline : Nat) : Bool := s.arrival.isSome || deadline ≤ s.now

/-- Whether the pump takes notice that the connection is closed.  It does not if it looks to the
transport first and does not have to wait there. -/
def notices (s : Sight) (deadline : Nat) : Bool :=
  s.closed && !(s.transportFirst && s.ready deadline)

end Sight

/-- What a read pump does to the world. -/
inductive Act
  /-- Takes what the transport has. -/
  | take
  /-- Counts a message that cannot be decoded. -/
  | skip (e : CodecError)
  | submit (e : Event)
  /-- Closes the connection. -/
  | close

/-- A read pump that begins. -/
def start (t : Timing) (now : Nat) : ReadPump := reading (now + t.pongWait)

/-- What is done with a frame. -/
def handle (t : Timing) (now deadline : Nat) (f : Frame) : ReadPump × List Act :=
  match f with
  | .text _ | .binary _ =>
    match ClientMessage.parse (f.data?.getD []) with
    | .ok m => (submitting m.routed deadline, [.take])
    | .error e => (reading deadline, [.take, .skip e])
  | .pong _ => (reading (now + t.pongWait), [.take])
  | .ping _ => (reading deadline, [.take])
  | .close _ => (leaving none, [.take, .close])

/-- A step of a read pump. -/
def step (t : Timing) (client : Client) (s : Sight) : ReadPump → Option (ReadPump × List Act)
  | reading deadline =>
    if s.notices deadline then some (leaving none, [.close])
    else match s.arrival with
      | some (.frame f) => some (handle t s.now deadline f)
      | some (.fault reason) => some (leaving (some (.read reason)), [.take, .close])
      | some .finished => some (leaving (some .unexpectedEnd), [.take, .close])
      | some .breakdown => some (broken, [.take])
      | none =>
        if deadline ≤ s.now then
          some (leaving (some (.readTimeout (nanoseconds t.pongWait))), [.close])
        else none
  | submitting m deadline =>
    match s.admission with
    | .admitted => some (reading deadline, [.submit (.deliver m)])
    | .wait => none
    | .refused => some (leaving none, [.close])
  | leaving result =>
    match s.admission with
    | .admitted => some (ended result, [.submit (.unregister client)])
    | .wait => none
    | .refused => some (ended result, [])
  | ended _ => none
  | broken => none

/-- When time alone makes a read pump go on. -/
def wakeAt? : ReadPump → Option Nat
  | reading deadline => some deadline
  | _ => none

/-- Whether a read pump is over. -/
def isOver : ReadPump → Bool
  | ended _ | broken => true
  | _ => false

/-- What a read pump that is over has to say about the end of the session. -/
def reason? : ReadPump → Option String
  | ended (some fault) => some fault.label
  | broken => some "task_failed"
  | _ => none

end ReadPump
end Switchboard
