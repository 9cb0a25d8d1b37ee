import Switchboard.Proofs.Pump.Turns
import Switchboard.Relay.Outside

/-! # What happens to a relay

A relay is moved by its tasks, which take single steps in any order, by the
passing of time, and from outside: somebody comes over a socket, a peer sends
something, a record is published, somebody asks for the sizes of the registry,
and everything is to stop.  Nothing is taken for granted about the order of all
this, nor about where a read pump looks first that may go on in two ways: that is drawn
anew at any moment.  Only that a connection gets a name that no other connection has is:
the names come from a generator that promises it.

An act of the relay is to the hub a row of acts of its own (`Act.onHub`,
`hub_of_move`), each of which is one of a few (`Part`). -/
namespace Switchboard

/-! ## What comes from outside -/

namespace Socket

/-- A socket over which nothing has gone yet. -/
inductive Fresh : Socket → Prop
  | toLocal (mode : PeerMode) (buffered : Bool) : Fresh (.toLocal mode buffered)
  | toRemote (maxMessageSize : Nat) : Fresh (.toRemote maxMessageSize)

/-- What the peer behind a socket does. -/
inductive Use
  | arrive (i : Incoming)
  | setMode (mode : PeerMode)

/-- A socket after the peer has done something. -/
def Use.on : Use → Socket → Socket
  | arrive i => Socket.arrive i
  | setMode mode => Socket.setMode mode

end Socket

namespace Inlet

/-- What somebody outside does with a bridge and its channel. -/
inductive Use
  | publish (payload : Bytes)
  | fail (f : Bus.Failure)
  | dropPublisher
  | cancel

/-- A bridge and its channel after their use. -/
def Use.on : Use → Inlet → Inlet
  | publish payload, i => { i with channel := (i.channel.publish payload).2 }
  | fail f, i => { i with channel := (i.channel.fail f).2 }
  | dropPublisher, i => { i with channel := i.channel.dropPublisher }
  | cancel, i => { i with cancelled := true }

end Inlet

namespace Relay

/-- The client that somebody is who comes now. -/
def newcomer (identity : Identity) (r : Relay) : Client :=
  (r.openConnection identity r.settings.hub.outboundQueueCapacity.toNat).1

/-- Somebody comes over a socket: a connection is opened, and a session begins. -/
def join (identity : Identity) (socket : Socket) (r : Relay) : Relay :=
  let opened := (r.openConnection identity r.settings.hub.outboundQueueCapacity.toNat).2
  let counted := (opened.count .sessions).count .sessionsActive
  { counted with sessions := counted.sessions ++ [.start (r.newcomer identity) socket] }

/-- What happens to a relay. -/
inductive Act
  /-- A task takes a step. -/
  | step (t : Task)
  /-- The timer of a task is set. -/
  | arm (t : Task)
  /-- So many milliseconds pass. -/
  | wait (k : Nat)
  | join (identity : Identity) (socket : Socket)
  | reject
  | useSocket (n : Nat) (u : Socket.Use)
  | beginBridge (topic : String) (capacity pause : Nat)
  | useInlet (n : Nat) (u : Inlet.Use)
  /-- Somebody asks for the sizes of the registry. -/
  | ask
  | stopHub
  | shutDown
  /-- It is drawn whether read pumps look to the transport first. -/
  | draw (transportFirst : Bool)

namespace Act

/-- The relay after an act. -/
def next : Act → Relay → Relay
  | step t, r => (r.step t).getD r
  | arm t, r => r.setTimer t
  | wait k, r => { r with now := r.now + k }
  | join identity socket, r => r.join identity socket
  | reject, r => r.count .sessionsRejected
  | useSocket n u, r => r.withSocket n u.on
  | beginBridge topic capacity pause, r =>
    { r with inlets := r.inlets ++ [⟨.ofCapacity topic capacity, .receiving, pause, false⟩] }
  | useInlet n u, r => r.withInlet n u.on
  | ask, r => r.withHub (Hub.submit .stats)
  | stopHub, r => r.withHub Hub.askStop
  | shutDown, r => { r with stopping := true }.withHub Hub.askStop
  | draw transportFirst, r => { r with transportFirst := transportFirst }

/-- Whether an act can happen, with clients of a population. -/
def Allowed (P : Population) (r : Relay) : Act → Prop
  | step t => (r.step t).isSome
  | join identity socket => r.newcomer identity ∈ P ∧
      (r.newcomer identity).connection ∉ r.hub.switch.connections ∧ socket.Fresh
  | ask => r.hub.admission = .admitted
  | _ => True

end Act

/-- Which relay an act leads to. -/
def Move (P : Population) (r : Relay) (a : Act) (r' : Relay) : Prop :=
  a.Allowed P r ∧ r' = a.next r

variable {P : Population} {r r' : Relay} {a : Act} {t : Task} {n : Nat} {s s' : Session}

theorem move_step_iff : Move P r (.step t) r' ↔ r.step t = some r' := by
  constructor
  · rintro ⟨hsome, rfl⟩
    obtain ⟨r', hs⟩ := Option.isSome_iff_exists.mp hsome
    show r.step t = some ((r.step t).getD r)
    rw [hs]
    rfl
  · intro hs
    exact ⟨Option.isSome_iff_exists.mpr ⟨r', hs⟩, by simp [Act.next, hs]⟩

theorem move_step (h : (r.step t).isSome) : Move P r (.step t) ((Act.step t).next r) := ⟨h, rfl⟩

/-! ## The steps of the tasks -/

theorem stepReader_eq_some (h : r.stepReader n = some r') :
    ∃ s p q acts, r.sessions[n]? = some s ∧ s.reader = some p ∧
      p.step r.timing s.client (r.readSight s) = some (q, acts) ∧
      r' = acts.foldl (doRead n s.client) (r.withSession n fun s => { s with reader := some q }) := by
  simp only [stepReader, Option.bind_eq_bind, Option.bind_eq_some_iff, Option.pure_def,
    Option.some.injEq] at h
  obtain ⟨s, hs, p, hp, ⟨q, acts⟩, hstep, rfl⟩ := h
  exact ⟨s, p, q, acts, hs, hp, hstep, rfl⟩

theorem stepWriter_eq_some (h : r.stepWriter n = some r') :
    ∃ s p q acts, r.sessions[n]? = some s ∧ s.writer = some p ∧
      p.step r.timing s.client (r.writeSight s) = some (q, acts) ∧
      r' = acts.foldl (doWrite n s.client s.queue.isSome)
        (r.withSession n fun s => { s with writer := some q }) := by
  simp only [stepWriter, Option.bind_eq_bind, Option.bind_eq_some_iff, Option.pure_def,
    Option.some.injEq] at h
  obtain ⟨s, hs, p, hp, ⟨q, acts⟩, hstep, rfl⟩ := h
  exact ⟨s, p, q, acts, hs, hp, hstep, rfl⟩

theorem stepSession_eq_some (h : r.stepSession n = some r') :
    ∃ s s' acts, r.sessions[n]? = some s ∧
      s.step r.timing r.now r.hub.admission = some (s', acts) ∧
      r' = acts.foldl doSession (r.withSession n fun _ => s') := by
  simp only [stepSession, Option.bind_eq_bind, Option.bind_eq_some_iff, Option.pure_def,
    Option.some.injEq] at h
  obtain ⟨s, hs, ⟨s', acts⟩, hstep, rfl⟩ := h
  exact ⟨s, s', acts, hs, hstep, rfl⟩

theorem stepBridge_eq_some (h : r.stepBridge n = some r') :
    ∃ i b acts, r.inlets[n]? = some i ∧ i.bridge.step i.pause (r.bridgeSight i) = some (b, acts) ∧
      r' = acts.foldl (doBridge n i.channel.topic)
        (r.withInlet n fun i => { i with bridge := b }) := by
  simp only [stepBridge, Option.bind_eq_bind, Option.bind_eq_some_iff, Option.pure_def,
    Option.some.injEq] at h
  obtain ⟨i, hi, ⟨b, acts⟩, hstep, rfl⟩ := h
  exact ⟨i, b, acts, hi, hstep, rfl⟩

theorem stepHub_eq_some (h : r.stepHub = some r') :
    ∃ hub, r.hub.step = some hub ∧ r' = { r with hub := hub } := by
  simp only [stepHub, Option.bind_eq_bind, Option.bind_eq_some_iff, Option.pure_def,
    Option.some.injEq] at h
  obtain ⟨hub, hs, rfl⟩ := h
  exact ⟨hub, hs, rfl⟩

/-! ## What an act is to the hub -/

/-- What a step of a task is to the hub. -/
def stepOnHub (r : Relay) : Task → List Hub.Act
  | .hub => [.work]
  | .reader n => Option.getD (do
    let s ← r.sessions[n]?
    let (_, acts) ← (← s.reader).step r.timing s.client (r.readSight s)
    return acts.filterMap (ReadPump.Act.onHub s.client)) []
  | .writer n => Option.getD (do
    let s ← r.sessions[n]?
    let (_, acts) ← (← s.writer).step r.timing s.client (r.writeSight s)
    return acts.filterMap (WritePump.Act.onHub s.client)) []
  | .session n => Option.getD (do
    let s ← r.sessions[n]?
    let (_, acts) ← s.step r.timing r.now r.hub.admission
    return acts.filterMap Session.Act.onHub) []
  | .bridge n => Option.getD (do
    let i ← r.inlets[n]?
    let (_, acts) ← i.bridge.step i.pause (r.bridgeSight i)
    return acts.filterMap Bridge.Act.onHub) []

/-- What an act is to the hub. -/
def Act.onHub (r : Relay) : Act → List Hub.Act
  | step t => r.stepOnHub t
  | join identity _ => [.use (r.newcomer identity).connection
      (.connect r.settings.hub.outboundQueueCapacity.toNat)]
  | ask => [.submit .stats]
  | stopHub | shutDown => [.askStop]
  | _ => []

theorem stepOnHub_reader {p q : ReadPump} {acts : List ReadPump.Act}
    (hs : r.sessions[n]? = some s) (hp : s.reader = some p)
    (hstep : p.step r.timing s.client (r.readSight s) = some (q, acts)) :
    r.stepOnHub (.reader n) = acts.filterMap (ReadPump.Act.onHub s.client) := by
  simp [stepOnHub, hs, hp, hstep]

theorem stepOnHub_writer {p q : WritePump} {acts : List WritePump.Act}
    (hs : r.sessions[n]? = some s) (hp : s.writer = some p)
    (hstep : p.step r.timing s.client (r.writeSight s) = some (q, acts)) :
    r.stepOnHub (.writer n) = acts.filterMap (WritePump.Act.onHub s.client) := by
  simp [stepOnHub, hs, hp, hstep]

theorem stepOnHub_session {acts : List Session.Act} (hs : r.sessions[n]? = some s)
    (hstep : s.step r.timing r.now r.hub.admission = some (s', acts)) :
    r.stepOnHub (.session n) = acts.filterMap Session.Act.onHub := by
  simp [stepOnHub, hs, hstep]

theorem stepOnHub_bridge {i : Inlet} {b : Bridge} {acts : List Bridge.Act}
    (hi : r.inlets[n]? = some i)
    (hstep : i.bridge.step i.pause (r.bridgeSight i) = some (b, acts)) :
    r.stepOnHub (.bridge n) = acts.filterMap Bridge.Act.onHub := by
  simp [stepOnHub, hi, hstep]

/-- Where every act of a task is an act on the hub or none, so are many. -/
theorem hub_foldl {Deed : Type} {f : Relay → Deed → Relay} {g : Deed → Option Hub.Act}
    (hf : ∀ r x, (f r x).hub = r.hub.after (g x).toList) (xs : List Deed) (r : Relay) :
    (xs.foldl f r).hub = r.hub.after (xs.filterMap g) := by
  induction xs generalizing r with
  | nil => rfl
  | cons x xs ih =>
    rw [List.foldl_cons, ih, hf]
    cases hx : g x with
    | none =>
      rw [List.filterMap_cons_none hx]
      rfl
    | some b =>
      rw [List.filterMap_cons_some hx]
      rfl

/-- What no act of a task changes, many do not change. -/
theorem foldl_eq {Deed View : Type} {f : Relay → Deed → Relay} {v : Relay → View}
    (hf : ∀ r x, v (f r x) = v r) (xs : List Deed) (r : Relay) :
    v (xs.foldl f r) = v r := by
  induction xs generalizing r with
  | nil => rfl
  | cons x xs ih => rw [List.foldl_cons, ih, hf]

/-- What depends on the hub, on the sessions and on what is counted only through
something else is not changed by a step, unless a bridge takes it. -/
theorem eq_of_step {View : Type} {v : Relay → View}
    (hhub : ∀ (r : Relay) (h : Hub), v { r with hub := h } = v r)
    (hmetrics : ∀ (r : Relay) (m : Metrics), v { r with metrics := m } = v r)
    (hsessions : ∀ (r : Relay) (ss : List Session), v { r with sessions := ss } = v r)
    (h : r.step t = some r') (ht : ∀ n, t ≠ .bridge n) : v r' = v r := by
  cases t with
  | hub =>
    obtain ⟨hub, -, rfl⟩ := stepHub_eq_some h
    exact hhub r hub
  | reader n =>
    obtain ⟨s, p, q, acts, -, -, -, rfl⟩ := stepReader_eq_some h
    refine (foldl_eq (fun r x => ?_) acts _).trans (hsessions r _)
    cases x with
    | take => exact hsessions r _
    | skip => exact hmetrics r _
    | submit | close => exact hhub r _
  | writer n =>
    obtain ⟨s, p, q, acts, -, -, -, rfl⟩ := stepWriter_eq_some h
    refine (foldl_eq (fun r x => ?_) acts _).trans (hsessions r _)
    cases x with
    | offer | finish => exact hsessions r _
    | submit | close => exact hhub r _
    | take =>
      cases s.queue with
      | none => exact hhub r _
      | some => exact hsessions r _
    | abandon =>
      cases s.queue with
      | none => exact hhub r _
      | some => rfl
  | session n =>
    obtain ⟨s, s', acts, -, -, rfl⟩ := stepSession_eq_some h
    refine (foldl_eq (fun r x => ?_) acts _).trans (hsessions r _)
    cases x with
    | submit => exact hhub r _
    | giveUp | finish => exact hmetrics r _
  | bridge n => exact absurd rfl (ht n)

/-- **What no task changes**: the settings, the time, whether everything is to stop, and
how many connections were opened. -/
theorem unchanged_of_step (h : r.step t = some r') :
    r'.settings = r.settings ∧ r'.now = r.now ∧ r'.stopping = r.stopping ∧
      r'.opened = r.opened := by
  have hview : (r'.settings, r'.now, r'.stopping, r'.opened) =
      (r.settings, r.now, r.stopping, r.opened) := by
    cases t with
    | bridge n =>
      obtain ⟨i, b, acts, -, -, rfl⟩ := stepBridge_eq_some h
      exact foldl_eq (v := fun r => (r.settings, r.now, r.stopping, r.opened))
        (fun _ x => by cases x <;> rfl) acts _
    | hub | reader | writer | session =>
      exact eq_of_step (v := fun r => (r.settings, r.now, r.stopping, r.opened))
        (fun _ _ => rfl) (fun _ _ => rfl) (fun _ _ => rfl) h fun _ => nofun
  simpa using hview

/-- The messages that a task is to submit. -/
def inHand (r : Relay) : Task → List RoutedMessage
  | .reader n => ((r.sessions[n]?.bind Session.reader).map ReadPump.inHand).getD []
  | .bridge n => ((r.inlets[n]?).map fun i => i.bridge.inHand).getD []
  | _ => []

/-- The single acts on the hub that an act consists of. -/
inductive Part (r : Relay) : Act → Hub.Act → Prop
  | work : Part r (.step .hub) .work
  | register {n : Nat} {s : Session} (hs : r.sessions[n]? = some s) (hstage : s.stage = .opening) :
    Part r (.step (.session n)) (.submit (.register s.client))
  | unregister {n : Nat} {s : Session} {t : Task} (hs : r.sessions[n]? = some s) :
    Part r (.step t) (.submit (.unregister s.client))
  | deliver {t : Task} {m : RoutedMessage} (hm : m ∈ r.inHand t) :
    Part r (.step t) (.submit (.deliver m))
  | close {n : Nat} {s : Session} {t : Task} (hs : r.sessions[n]? = some s) :
    Part r (.step t) (.use s.client.connection .close)
  | ofQueue {n : Nat} {s : Session} {u : Switch.Use} (hs : r.sessions[n]? = some s)
    (hu : Pump.OfQueue u) : Part r (.step (.writer n)) (.use s.client.connection u)
  | connect (identity : Identity) (socket : Socket) (places : Nat) :
    Part r (.join identity socket) (.use (r.newcomer identity).connection (.connect places))
  | ask : Part r .ask (.submit .stats)
  | askStop (a : Act) : Part r a .askStop

/-- **What single acts on the hub an act consists of.** -/
theorem part_of_mem {b : Hub.Act} (hm : Move P r a r') (hb : b ∈ a.onHub r) : Part r a b := by
  cases a with
  | step t =>
    have hstep := move_step_iff.mp hm
    have hb : b ∈ r.stepOnHub t := hb
    cases t with
    | hub =>
      obtain rfl := List.mem_singleton.mp hb
      exact .work
    | reader n =>
      obtain ⟨s, p, q, acts, hs, hp, hdo, -⟩ := stepReader_eq_some hstep
      rw [stepOnHub_reader hs hp hdo] at hb
      rcases (ReadPump.turn_of_step hdo).of_mem hb with ⟨u, rfl, hu⟩ | rfl | ⟨m, hin, rfl⟩
      · -- of the acts of a read pump only the closing is a use
        obtain ⟨x, -, hx⟩ := List.mem_filterMap.mp hb
        cases x with
        | take | skip | submit => cases hx
        | close =>
          cases hx
          exact .close hs
      · exact .unregister hs
      · refine .deliver ?_
        simpa [inHand, hs, hp] using hin
    | writer n =>
      obtain ⟨s, p, q, acts, hs, hp, hdo, -⟩ := stepWriter_eq_some hstep
      rw [stepOnHub_writer hs hp hdo] at hb
      rcases (WritePump.turn_of_step hdo).of_mem hb with ⟨u, rfl, hu | rfl⟩ | rfl | ⟨m, hin, -⟩
      · exact .ofQueue hs hu
      · exact .close hs
      · exact .unregister hs
      · cases hin
    | session n =>
      obtain ⟨s, s', acts, hs, hdo, -⟩ := stepSession_eq_some hstep
      rw [stepOnHub_session hs hdo] at hb
      cases Session.step_iff.mp hdo with
      | register hstage =>
        obtain rfl := List.mem_singleton.mp hb
        exact .register hs hstage
      | refuse | finish => cases hb
    | bridge n =>
      obtain ⟨i, b, acts, hi, hdo, -⟩ := stepBridge_eq_some hstep
      rw [stepOnHub_bridge hi hdo] at hb
      rcases Bridge.step_eq_some hdo with he | ⟨m, hin, -, he⟩
      · rw [he] at hb
        cases hb
      · rw [he] at hb
        obtain rfl := List.mem_singleton.mp hb
        refine .deliver ?_
        simpa [inHand, hi] using hin
  | join identity socket =>
    obtain rfl := List.mem_singleton.mp hb
    exact .connect identity socket _
  | ask =>
    obtain rfl := List.mem_singleton.mp hb
    exact .ask
  | stopHub | shutDown =>
    obtain rfl := List.mem_singleton.mp hb
    exact .askStop _
  | arm | wait | reject | useSocket | beginBridge | useInlet | draw => cases hb

/-- The write pumps of all sessions read the queues of their connections. -/
def Joined (r : Relay) : Prop := ∀ (n : Nat) (s : Session), r.sessions[n]? = some s → s.queue = none

/-- Only the timers change when one of them is set. -/
theorem arm_of_move (hm : Move P r (.arm t) r') : ∃ timers, r' = { r with timers := timers } := by
  obtain ⟨-, rfl⟩ := hm
  show ∃ timers, r.setTimer t = { r with timers := timers }
  unfold setTimer
  dsimp only
  split
  · exact ⟨r.timers, rfl⟩
  · exact ⟨_, rfl⟩

/-- **An act of the relay is to the hub a row of acts of its own.** -/
theorem hub_of_move (hq : r.Joined) (hm : Move P r a r') : r'.hub = r.hub.after (a.onHub r) := by
  cases a with
  | step t =>
    have hstep := move_step_iff.mp hm
    cases t with
    | hub =>
      obtain ⟨hub, hs, rfl⟩ := stepHub_eq_some hstep
      show hub = r.hub.step.getD r.hub
      rw [hs]
      rfl
    | reader n =>
      obtain ⟨s, p, q, acts, hs, hp, hdo, rfl⟩ := stepReader_eq_some hstep
      show _ = r.hub.after (r.stepOnHub (.reader n))
      rw [stepOnHub_reader hs hp hdo]
      exact hub_foldl (fun _ x => by cases x <;> rfl) acts _
    | writer n =>
      obtain ⟨s, p, q, acts, hs, hp, hdo, rfl⟩ := stepWriter_eq_some hstep
      show _ = r.hub.after (r.stepOnHub (.writer n))
      rw [stepOnHub_writer hs hp hdo, hq n s hs]
      exact hub_foldl (fun _ x => by cases x <;> rfl) acts _
    | session n =>
      obtain ⟨s, s', acts, hs, hdo, rfl⟩ := stepSession_eq_some hstep
      show _ = r.hub.after (r.stepOnHub (.session n))
      rw [stepOnHub_session hs hdo]
      exact hub_foldl (fun _ x => by cases x <;> rfl) acts _
    | bridge n =>
      obtain ⟨i, b, acts, hi, hdo, rfl⟩ := stepBridge_eq_some hstep
      show _ = r.hub.after (r.stepOnHub (.bridge n))
      rw [stepOnHub_bridge hi hdo]
      exact hub_foldl (fun _ x => by cases x <;> rfl) acts _
  | arm t =>
    obtain ⟨timers, rfl⟩ := arm_of_move hm
    rfl
  | wait | join | reject | useSocket | beginBridge | useInlet | ask | stopHub | shutDown | draw =>
    obtain ⟨-, rfl⟩ := hm
    rfl

end Relay
end Switchboard
