import Switchboard.Pump.Basic

/-!
# Sockets

A socket is a transport with a peer behind it.  What the peer has sent waits to be read.  There are
two kinds of peers.

A **local** peer only lets itself be written to, or does not, by its mode; it answers nothing.  A
buffered one takes a frame that cannot be written yet into a place of its own, from where it is
written as soon as the peer is ready, whoever waits for that.

A **remote** peer is at the other end of a WebSocket.  Both ends answer pings and close frames by
themselves; after a close frame in either direction no other frame is written.
-/
namespace Switchboard

/-- How a local peer behaves. -/
inductive PeerMode
  /-- It takes what is written. -/
  | ready
  /-- It is never ready. -/
  | stalled
  /-- Writing to it fails. -/
  | failing
  /-- Writing to it breaks the writer. -/
  | breaking
  deriving DecidableEq, Repr

/-- What a peer in a mode answers to any attempt. -/
def PeerMode.reply : PeerMode → Reply
  | ready => .done
  | stalled => .pending
  | failing => .failed "sink failed"
  | breaking => .breakdown

/-- A peer that is no more than a place to write to. -/
structure LocalPeer where
  mode : PeerMode
  /-- Whether a frame that cannot be written yet is kept. -/
  buffered : Bool
  /-- The frame that is kept. -/
  kept : Option Frame
  written : List Frame
  closed : Bool
  deriving DecidableEq, Repr

/-- A peer at the other end of a WebSocket. -/
structure RemotePeer where
  /-- How many bytes a message of the peer may have. -/
  maxMessageSize : Nat
  /-- What has reached the peer. -/
  received : List Frame
  /-- Whether a close frame was sent to the peer. -/
  closeSent : Bool
  /-- Whether the peer's close frame was read. -/
  closeRead : Bool
  deriving DecidableEq, Repr

/-- Who is behind a socket. -/
inductive Peer
  | locally (p : LocalPeer)
  | remote (p : RemotePeer)
  deriving DecidableEq, Repr

/-- A transport. -/
structure Socket where
  /-- What the peer has sent and nobody has read. -/
  arrivals : List Incoming
  peer : Peer
  deriving DecidableEq, Repr

namespace LocalPeer

/-- Offers a frame. -/
def offer (f : Frame) (p : LocalPeer) : Reply × LocalPeer :=
  match p.mode.reply with
  | .done => (.done, { p with written := p.written ++ [f], kept := none })
  | reply => (reply, if p.buffered then { p with kept := some f } else p)

/-- Closes the peer, after what is kept has been written. -/
def finish (p : LocalPeer) : Reply × LocalPeer :=
  match p.mode.reply, p.kept with
  | .done, kept => (.done, { p with written := p.written ++ kept.toList, kept := none,
                                    closed := true })
  | .failed reason, none => (.failed reason, { p with closed := true })
  | reply, _ => (reply, p)

end LocalPeer

namespace RemotePeer

/-- What a peer sends back on a frame. -/
def answer : Frame → List Incoming
  | .ping data => [.frame (.pong data)]
  | .close _ => [.frame (.close none)]
  | _ => []

/-- Offers a frame.  Nothing goes after a close frame. -/
def offer (f : Frame) (p : RemotePeer) : Reply × RemotePeer × List Incoming :=
  if p.closeSent ∨ p.closeRead then (.failed "sending after closing", p, [])
  else
    let isClose := match f with
      | .close _ => true
      | _ => false
    (.done, { p with received := p.received ++ [f], closeSent := isClose }, answer f)

/-- Closes the peer, after its close frame has been answered. -/
def finish (p : RemotePeer) : RemotePeer :=
  if p.closeRead ∧ ¬ p.closeSent then
    { p with received := p.received ++ [.close none], closeSent := true }
  else p

/-- What the reading of a frame does: a ping is answered, and a close frame is remembered. -/
def read (f : Frame) (p : RemotePeer) : RemotePeer :=
  match f with
  | .ping data => { p with received := p.received ++ [.pong data] }
  | .close _ => { p with closeRead := true }
  | _ => p

/-- How a frame of the peer arrives. -/
def arrival (f : Frame) (p : RemotePeer) : Incoming :=
  match f.data? with
  | some data =>
    if p.maxMessageSize < data.length then .fault "message too long" else .frame f
  | none => .frame f

end RemotePeer

namespace Socket

/-- A socket with a local peer. -/
def toLocal (mode : PeerMode) (buffered : Bool) : Socket :=
  ⟨[], .locally ⟨mode, buffered, none, [], false⟩⟩

/-- A socket with a remote peer. -/
def toRemote (maxMessageSize : Nat) : Socket :=
  ⟨[], .remote ⟨maxMessageSize, [], false, false⟩⟩

/-- The peer sends something. -/
def arrive (i : Incoming) (s : Socket) : Socket :=
  let i := match i, s.peer with
    | .frame f, .remote p => p.arrival f
    | i, _ => i
  { s with arrivals := s.arrivals ++ [i] }

/-- A local peer changes its mode. -/
def setMode (mode : PeerMode) (s : Socket) : Socket :=
  match s.peer with
  | .locally p => { s with peer := .locally { p with mode := mode } }
  | .remote _ => s

/-- Takes what the peer sent first. -/
def take (s : Socket) : Socket :=
  match s.arrivals, s.peer with
  | .frame f :: rest, .remote p => ⟨rest, .remote (p.read f)⟩
  | arrivals, peer => ⟨arrivals.tail, peer⟩

/-- Offers a frame to the peer. -/
def offer (f : Frame) (s : Socket) : Reply × Socket :=
  match s.peer with
  | .locally p =>
    let (reply, p) := p.offer f
    (reply, { s with peer := .locally p })
  | .remote p =>
    let (reply, p, answers) := p.offer f
    (reply, ⟨s.arrivals ++ answers, .remote p⟩)

/-- Closes the writing half. -/
def finish (s : Socket) : Reply × Socket :=
  match s.peer with
  | .locally p =>
    let (reply, p) := p.finish
    (reply, { s with peer := .locally p })
  | .remote p => (.done, { s with peer := .remote p.finish })

/-- The frames that have reached the peer. -/
def written (s : Socket) : List Frame :=
  match s.peer with
  | .locally p => p.written
  | .remote p => p.received

/-- Forgets which frames have reached the peer. -/
def forgetWritten (s : Socket) : Socket :=
  match s.peer with
  | .locally p => { s with peer := .locally { p with written := [] } }
  | .remote p => { s with peer := .remote { p with received := [] } }

/-- Whether the writing half to a local peer was closed. -/
def isFinished (s : Socket) : Bool :=
  match s.peer with
  | .locally p => p.closed
  | .remote _ => false

end Socket
end Switchboard
