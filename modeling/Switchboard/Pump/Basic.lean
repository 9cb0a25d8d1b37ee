import Switchboard.Payload
import Switchboard.Settings.Basic
import Switchboard.Text.Duration

/-!
# Transports and their timing

Two pumps serve a connection: one reads frames from the transport, the other writes them to it.
Here is what the transport shows to them, how long they wait for it, and why they give up.
-/
namespace Switchboard

/-- What comes out of the reading half of a transport. -/
inductive Incoming
  | frame (f : Frame)
  /-- Reading fails. -/
  | fault (reason : String)
  /-- Nothing more will come. -/
  | finished
  /-- Reading takes the reader down with it. -/
  | breakdown
  deriving DecidableEq, Repr

/-- What the writing half of a transport answers. -/
inductive Reply
  | done
  /-- Not yet. -/
  | pending
  | failed (reason : String)
  /-- Writing takes the writer down with it. -/
  | breakdown
  deriving DecidableEq, Repr

/-- How long the pumps wait, in milliseconds. -/
structure Timing where
  /-- How long a frame may take to be written. -/
  writeWait : Nat
  /-- How long the peer may go without a pong. -/
  pongWait : Nat
  /-- How often the peer is pinged. -/
  pingPeriod : Nat
  deriving DecidableEq, Repr

/-- The timing that settings ask for. -/
def Timing.ofSettings (s : KeepaliveSettings) : Timing :=
  ⟨s.writeWait.toNat, s.pongWait.toNat, s.pingPeriod.toNat⟩

/-- The nanoseconds in so many milliseconds. -/
def nanoseconds (milliseconds : Nat) : Nat := milliseconds * 1000000

/-- Why a pump gave up. -/
inductive TransportFault
  | read (reason : String)
  | write (reason : String)
  /-- No pong came within so many nanoseconds. -/
  | readTimeout (wait : Nat)
  /-- A frame was not written within so many nanoseconds. -/
  | writeTimeout (wait : Nat)
  /-- The transport ended without a close frame. -/
  | unexpectedEnd
  deriving DecidableEq, Repr

namespace TransportFault

/-- The short name of a fault. -/
def label : TransportFault → String
  | read _ => "read_error"
  | write _ => "write_error"
  | readTimeout _ => "read_timeout"
  | writeTimeout _ => "write_timeout"
  | unexpectedEnd => "unexpected_eof"

/-- The wording of a fault. -/
def message : TransportFault → String
  | read reason => "read failed: " ++ reason
  | write reason => "write failed: " ++ reason
  | readTimeout wait => "no pong within " ++ Text.durationText wait
  | writeTimeout wait => "write did not complete within " ++ Text.durationText wait
  | unexpectedEnd => "peer went away without a close frame"

end TransportFault
end Switchboard
