import Switchboard.Pump.Reader
import Switchboard.Pump.Writer
import Switchboard.Socket

/-!
# Sessions

A session serves a client over a socket.  The client is registered first; only then do the two
pumps begin.  The session is over when both pumps are, and what ended it is the fault of the read
pump, or else of the write pump, or else an orderly close.

A session may also consist of one pump alone, for which nothing is registered or counted.
-/
namespace Switchboard

/-- How far the bookkeeping of a session is. -/
inductive Stage
  /-- There is none. -/
  | none
  /-- The client is to be registered. -/
  | opening
  /-- The hub had stopped already. -/
  | refused
  | serving
  | ended (reason : String)
  deriving DecidableEq, Repr

/-- A client that is served over a socket. -/
structure Session where
  client : Client
  socket : Socket
  /-- A queue of its own for the write pump, to which nothing is added; otherwise the pump reads
  the queue of the connection. -/
  queue : Option (List Payload)
  stage : Stage
  reader : Option ReadPump
  writer : Option WritePump

namespace Session

/-- What a session does to the world. -/
inductive Act
  | submit (e : Event)
  /-- The session did not come about. -/
  | giveUp
  /-- The session has ended. -/
  | finish (reason : String)

/-- A session that begins. -/
def start (client : Client) (socket : Socket) : Session :=
  ⟨client, socket, none, .opening, none, none⟩

/-- A read pump alone. -/
def readOnly (t : Timing) (now : Nat) (client : Client) (socket : Socket) : Session :=
  ⟨client, socket, none, .none, some (.start t now), none⟩

/-- A write pump alone, with or without a queue of its own. -/
def writeOnly (client : Client) (socket : Socket) (queue : Option (List Payload)) : Session :=
  ⟨client, socket, queue, .none, none, some .starting⟩

/-- Whether both pumps are over. -/
def pumpsOver (s : Session) : Bool :=
  s.reader.all ReadPump.isOver && s.writer.all WritePump.isOver

/-- What the pumps ended with. -/
def reason (s : Session) : String :=
  ((s.reader.bind ReadPump.reason?).or (s.writer.bind WritePump.reason?)).getD "closed"

/-- A step in the bookkeeping of a session. -/
def step (t : Timing) (now : Nat) (admission : Admission) (s : Session) :
    Option (Session × List Act) :=
  match s.stage with
  | .opening =>
    match admission with
    | .admitted =>
      some ({ s with stage := .serving, reader := some (.start t now), writer := some .starting },
        [.submit (.register s.client)])
    | .wait => none
    | .refused => some ({ s with stage := .refused }, [.giveUp])
  | .serving =>
    if s.pumpsOver then some ({ s with stage := .ended s.reason }, [.finish s.reason]) else none
  | _ => none

/-- Whether nothing will happen any more. -/
def isOver (s : Session) : Bool :=
  match s.stage with
  | .refused | .ended _ => true
  | .none => s.pumpsOver
  | _ => false

/-- What a write pump finds in the queue, if `connection` is that of the client. -/
def front (connection : Connection) (s : Session) : Received :=
  match s.queue with
  | some (p :: _) => .payload p
  | some [] => .ended
  | none => connection.receive.1

end Session
end Switchboard
