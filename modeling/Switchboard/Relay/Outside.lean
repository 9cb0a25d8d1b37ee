import Switchboard.Health
import Switchboard.Http
import Switchboard.Relay.Schedule
import Switchboard.Shutdown

/-!
# What comes to a relay from outside

Clients come with their sockets, peers send frames, publishers publish, and requests are made.
After each of these the tasks go on until all of them wait.
-/
namespace Switchboard.Relay

/-! ## Events -/

/-- Submits an event to the hub, which may refuse it because it has stopped. -/
def submit (e : Event) (r : Relay) : Except String Relay :=
  match r.hub.admission with
  | .refused => .error Hub.refusal
  | _ => .ok (r.withHub (Hub.submit e)).settle

/-- Asks the hub for the sizes of the registry. -/
def stats (r : Relay) : Except String (Registry.Stats × Relay) := do
  let r ← r.submit .stats
  return (r.hub.switch.registry.stats, r)

/-- Stops the hub. -/
def stopHub (r : Relay) : Relay := (r.withHub Hub.askStop).settle

/-- Stops everything. -/
def shutDown (r : Relay) : Relay := { r with stopping := true }.stopHub

/-! ## Connections and sessions -/

/-- Opens a connection for somebody with so many places, and gives it a name. -/
def openConnection (identity : Identity) (capacity : Nat) (r : Relay) : Client × Relay :=
  let id := ConnectionId.ofSerial r.now r.opened
  (⟨id, identity⟩, { r with opened := r.opened + 1 }.withSwitch (Switch.openConnection id capacity))

/-- Changes the switch from outside. -/
def onSwitch (f : Switch → Switch) (r : Relay) : Relay := (r.withSwitch f).settle

/-- Sends a payload to a client without the hub. -/
def sendTo (p : Payload) (c : Client) (r : Relay) : SendOutcome × Relay :=
  let (outcome, switch) := r.hub.switch.send p c.connection
  (outcome, r.onSwitch fun _ => switch)

/-- Adds a session, and tells its number. -/
def addSession (s : Session) (r : Relay) : Nat × Relay :=
  (r.sessions.length, { r with sessions := r.sessions ++ [s] }.settle)

/-- Begins a session for somebody over a socket. -/
def beginSession (identity : Identity) (socket : Socket) (r : Relay) : Nat × Relay :=
  let (client, r) :=
    r.openConnection identity r.settings.hub.outboundQueueCapacity.toNat
  ((r.count .sessions).count .sessionsActive).addSession (.start client socket)

/-- Begins a read pump alone. -/
def beginReader (client : Client) (socket : Socket) (r : Relay) : Nat × Relay :=
  r.addSession (.readOnly r.timing r.now client socket)

/-- Begins a write pump alone. -/
def beginWriter (client : Client) (socket : Socket) (queue : Option (List Payload)) (r : Relay) :
    Nat × Relay :=
  r.addSession (.writeOnly client socket queue)

/-- Something happens at the socket of a session. -/
def onSocket (n : Nat) (f : Socket → Socket) (r : Relay) : Relay := (r.withSocket n f).settle

/-! ## Bridges -/

/-- Begins a bridge for a topic, and tells its number. -/
def beginBridge (topic : String) (capacity pause : Nat) (r : Relay) : Nat × Relay :=
  let inlet : Inlet := ⟨.ofCapacity topic capacity, .receiving, pause, false⟩
  (r.inlets.length, { r with inlets := r.inlets ++ [inlet] }.settle)

/-- Something happens at the channel of a bridge. -/
def onChannel (n : Nat) (f : Bus.Channel → Bus.Channel) (r : Relay) : Relay :=
  (r.withInlet n fun i => { i with channel := f i.channel }).settle

/-- Puts something into the channel of a bridge. -/
def putInto (n : Nat) (f : Bus.Channel → Bus.Publication × Bus.Channel) (r : Relay) :
    Option (Bus.Publication × Relay) :=
  (r.inlets[n]?).map fun i => ((f i.channel).1, r.onChannel n fun _ => (f i.channel).2)

/-- Cancels a bridge. -/
def cancelBridge (n : Nat) (r : Relay) : Relay :=
  (r.withInlet n fun i => { i with cancelled := true }).settle

/-! ## Requests -/

/-- The health of the relay. -/
def health (r : Relay) : Health × Relay :=
  match r.stats with
  | .ok (stats, r) => (⟨r.now / 1000, some stats⟩, r)
  | .error _ => (⟨r.now / 1000, none⟩, r)

/-- What is shown of everything that was counted. -/
def metricsText (r : Relay) : String :=
  String.join (r.allMetrics.samples.map fun line => line ++ "\n")

/-- Answers a request for a WebSocket: with the identity of the client if it can have one. -/
def acceptWebSocket (q : Request) (r : Relay) : Except Response Identity × Relay :=
  match Identity.ofHeaders q.headers with
  | .error e => (.error ⟨e.status, e.message⟩, r.count .sessionsRejected)
  | .ok identity =>
    match q.checkUpgrade with
    | .error e => (.error ⟨e.status, e.message⟩, r)
    | .ok () => (.ok identity, r)

/-- Begins a session with a remote peer, or refuses it. -/
def connect (q : Request) (r : Relay) : Except Response Nat × Relay :=
  match r.acceptWebSocket q with
  | (.ok identity, r) =>
    let (n, r) := r.beginSession identity (.toRemote r.settings.server.maxMessageSize.toNat)
    (.ok n, r)
  | (.error e, r) => (.error e, r)

/-- Answers a request. -/
def respond (q : Request) (r : Relay) : Response × Relay :=
  match Route.ofPath? q.path with
  | none => (⟨404, ""⟩, r)
  | some route =>
    if !q.isReading then (⟨405, ""⟩, r)
    else
      let (response, r) : Response × Relay := match route with
        | .health =>
          let (health, r) := r.health
          (⟨health.httpStatus, health.json.text⟩, r)
        | .metrics => (⟨200, r.metricsText⟩, r)
        | .webSocket =>
          match r.connect q with
          | (.ok _, r) => (⟨101, ""⟩, r)
          | (.error e, r) => (e, r)
      (response.shownTo q.method, r)

end Switchboard.Relay
