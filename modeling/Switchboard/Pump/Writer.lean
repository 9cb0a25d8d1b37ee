import Switchboard.Hub
import Switchboard.Pump.Basic

/-!
# The write pump

The write pump writes the queued payloads to the transport in their order, and a ping whenever the
ping period has passed and nothing is queued.  Each frame has to be written within the write wait.
When the connection is closed, or its queue is over, a close frame is written and the transport is
closed, as far as it lets itself be.  However it ends, the pump first closes the connection and
then has the client taken out; what still stands in the queue is given up.

Like the read pump it is a machine with a `Sight` and acts.  A frame is written when the transport
answers that it is done.
-/
namespace Switchboard

/-- Where a write pump stands. -/
inductive WritePump
  | starting
  /-- Waiting for a payload, or for the time of the next ping. -/
  | idle (nextPing : Nat)
  /-- A frame is to be written until the deadline. -/
  | writing (f : Frame) (deadline nextPing : Nat)
  /-- The close frame is to be written until the deadline. -/
  | closingFrame (deadline : Nat)
  /-- The transport is to be closed until the deadline. -/
  | closingSink (deadline : Nat)
  /-- The connection is closed, and the client is to be taken out. -/
  | leaving (result : Option TransportFault)
  /-- Over, with a fault or in order. -/
  | ended (result : Option TransportFault)
  /-- Taken down by the transport. -/
  | broken
  deriving DecidableEq, Repr

namespace WritePump

/-- What a write pump sees. -/
structure Sight where
  now : Nat
  /-- Whether the connection is closed. -/
  closed : Bool
  /-- What a reader of the queue finds. -/
  queue : Received
  /-- What the hub would say to a submission. -/
  admission : Admission
  /-- What the transport would say to a frame. -/
  offer : Frame → Reply
  /-- What the transport would say to being closed. -/
  finish : Reply

/-- What a write pump does to the world. -/
inductive Act
  /-- Takes a payload from the queue. -/
  | take
  /-- Offers a frame to the transport, which gives an answer. -/
  | offer (f : Frame) (reply : Reply)
  /-- Closes the transport. -/
  | finish
  | submit (e : Event)
  /-- Closes the connection. -/
  | close
  /-- Gives up the queue. -/
  | abandon

/-- When the ping after the one that was due at `due` is due.  A ping that comes late puts off
those after it. -/
def pingAfter (t : Timing) (now due : Nat) : Nat :=
  if due + 5 < now then now + t.pingPeriod else due + t.pingPeriod

/-- Begins to write a frame. -/
def write (t : Timing) (s : Sight) (f : Frame) (nextPing : Nat) : WritePump × List Act :=
  match s.offer f with
  | .done => (idle nextPing, [.offer f .done])
  | .pending => (writing f (s.now + t.writeWait) nextPing, [.offer f .pending])
  | .failed reason => (leaving (some (.write reason)), [.offer f (.failed reason), .close])
  | .breakdown => (broken, [.offer f .breakdown, .abandon])

/-- Begins to take leave of the peer. -/
def beginClose (t : Timing) (s : Sight) : WritePump × List Act :=
  match s.offer (.close none) with
  | .pending => (closingFrame (s.now + t.writeWait), [.offer (.close none) .pending])
  | .breakdown => (broken, [.offer (.close none) .breakdown, .abandon])
  | reply => (closingSink (s.now + t.writeWait), [.offer (.close none) reply])

/-- A step of a write pump. -/
def step (t : Timing) (client : Client) (s : Sight) : WritePump → Option (WritePump × List Act)
  | starting =>
    -- A ping is never due at every moment.
    if t.pingPeriod = 0 then some (broken, [.abandon])
    else some (idle (s.now + t.pingPeriod), [])
  | idle nextPing =>
    if s.closed then some (beginClose t s)
    else match s.queue with
      | .payload p =>
        let (pump, acts) := write t s p.frame nextPing
        some (pump, .take :: acts)
      | .ended => some (beginClose t s)
      | .empty =>
        if nextPing ≤ s.now then some (write t s (.ping []) (pingAfter t s.now nextPing))
        else none
  | writing f deadline nextPing =>
    match s.offer f with
    | .pending =>
      if deadline ≤ s.now then
        some (leaving (some (.writeTimeout (nanoseconds t.writeWait))), [.close])
      else none
    | _ => some (write t s f nextPing)
  | closingFrame deadline =>
    match s.offer (.close none) with
    | .pending =>
      if deadline ≤ s.now then some (closingSink (s.now + t.writeWait), []) else none
    | _ => some (beginClose t s)
  | closingSink deadline =>
    match s.finish with
    | .pending => if deadline ≤ s.now then some (leaving none, [.close]) else none
    | .breakdown => some (broken, [.finish, .abandon])
    | _ => some (leaving none, [.finish, .close])
  | leaving result =>
    match s.admission with
    | .admitted => some (ended result, [.submit (.unregister client), .abandon])
    | .wait => none
    | .refused => some (ended result, [.abandon])
  | ended _ => none
  | broken => none

/-- When time alone makes a write pump go on. -/
def wakeAt? : WritePump → Option Nat
  | idle nextPing => some nextPing
  | writing _ deadline _ => some deadline
  | closingFrame deadline => some deadline
  | closingSink deadline => some deadline
  | _ => none

/-- Whether a write pump is over. -/
def isOver : WritePump → Bool
  | ended _ | broken => true
  | _ => false

/-- What a write pump that is over has to say about the end of the session. -/
def reason? : WritePump → Option String
  | ended (some fault) => some fault.label
  | broken => some "task_failed"
  | _ => none

end WritePump
end Switchboard
