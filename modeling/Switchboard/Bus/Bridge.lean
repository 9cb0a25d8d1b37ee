import Switchboard.Bus.Channel
import Switchboard.Envelope
import Switchboard.Hub

/-!
# Bridges

A bridge takes the records of a topic and submits to the hub the messages that they hold; a record
that cannot be decoded is counted and skipped.  After a transient failure it pauses.  It is over
when it is cancelled, when there are no more records, or when the hub has stopped.

It is a machine like the pumps, with a `Sight` and acts.
-/
namespace Switchboard

/-- Why a bridge is over. -/
inductive BridgeExit
  | cancelled
  | consumerClosed
  | consumerFailed (reason : String)
  | hubStopped
  deriving DecidableEq, Repr

/-- Where a bridge stands. -/
inductive Bridge
  /-- Waiting for a record. -/
  | receiving
  /-- A message is to be submitted. -/
  | forwarding (m : RoutedMessage)
  /-- Resting after a transient failure. -/
  | pausing (wake : Nat)
  | ended (exit : BridgeExit)

namespace Bridge

/-- What a bridge sees. -/
structure Sight where
  now : Nat
  /-- Whether the bridge is to stop. -/
  cancelled : Bool
  /-- What the channel has for the bridge. -/
  arrival : Option (Except Bus.Failure Bus.Record)
  /-- What the hub would say to a submission. -/
  admission : Admission

/-- What a bridge does to the world. -/
inductive Act
  /-- Takes what the channel has. -/
  | take
  /-- Counts a record. -/
  | record
  /-- Counts a record that cannot be decoded. -/
  | skip (e : CodecError)
  /-- Counts a failure. -/
  | failure (f : Bus.Failure)
  | submit (e : Event)
  /-- Goes away from the channel. -/
  | leave

/-- How long a bridge rests after a transient failure if nothing else is asked for, in
milliseconds. -/
def defaultPause : Nat := 200

/-- What is done with a record. -/
def handle (payload : Bytes) : Bridge × List Act :=
  match RoutedMessage.ofRecord payload with
  | .ok m => (forwarding m, [.take, .record])
  | .error e => (receiving, [.take, .record, .skip e])

/-- What is done about a failure. -/
def recover (pause now : Nat) (f : Bus.Failure) : Bridge × List Act :=
  match f with
  | .closed => (ended .consumerClosed, [.take, .failure f, .leave])
  | .fatal reason => (ended (.consumerFailed reason), [.take, .failure f, .leave])
  | .transient _ => (pausing (now + pause), [.take, .failure f])

/-- A step of a bridge. -/
def step (pause : Nat) (s : Sight) : Bridge → Option (Bridge × List Act)
  | receiving =>
    if s.cancelled then some (ended .cancelled, [.leave])
    else match s.arrival with
      | some (.ok record) => some (handle record.payload)
      | some (.error f) => some (recover pause s.now f)
      | none => none
  | forwarding m =>
    match s.admission with
    | .admitted => some (receiving, [.submit (.deliver m)])
    | .wait => none
    | .refused => some (ended .hubStopped, [.leave])
  | pausing wake =>
    if s.cancelled then some (ended .cancelled, [.leave])
    else if wake ≤ s.now then some (receiving, [])
    else none
  | ended _ => none

/-- When time alone makes a bridge go on. -/
def wakeAt? : Bridge → Option Nat
  | pausing wake => some wake
  | _ => none

/-- How a bridge ended, if it has. -/
def exit? : Bridge → Option BridgeExit
  | ended exit => some exit
  | _ => none

end Bridge
end Switchboard
