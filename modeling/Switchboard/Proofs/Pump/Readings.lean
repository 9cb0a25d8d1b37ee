import Switchboard.Proofs.Hub.Order
import Switchboard.Proofs.Pump.Turns

/-! # What read pumps make of what they take

A read pump takes items from its transport, one after the other: frames, and what
stands for their end.  It submits the messages of the text and binary frames that can
be decoded, each once and in order (`ReadPump.Stands`), and skips those that cannot be
decoded; these, pings and pongs end nothing.  There are few ways out (`ReadPump.Exit`),
and each of them says with what the pump ends.  Whichever it takes, the connection is
closed before the client is to be taken out.

All this is so whatever a pump sees, and whenever. -/
namespace Switchboard

/-! ## What can come -/

/-- The message that a frame of a client holds, if it can be decoded. -/
def Frame.message? (f : Frame) : Option RoutedMessage :=
  f.data?.bind fun bytes => (ClientMessage.parse bytes).toOption.map ClientMessage.routed

theorem Frame.message?_eq_some {f : Frame} {bytes : Bytes} {m : ClientMessage}
    (hf : f.data? = some bytes) (hm : ClientMessage.parse bytes = .ok m) :
    f.message? = some m.routed := by
  rw [Frame.message?, hf, Option.bind_some, hm]
  rfl

theorem Frame.message?_eq_none {f : Frame} {bytes : Bytes} {e : CodecError}
    (hf : f.data? = some bytes) (hm : ClientMessage.parse bytes = .error e) : f.message? = none := by
  rw [Frame.message?, hf, Option.bind_some, hm]
  rfl

/-- The message that an act hands over to the hub. -/
def Hub.Act.message? (a : Hub.Act) : Option RoutedMessage := a.event?.bind Event.message?

/-- The message that something holds that a peer has sent. -/
def Incoming.message? : Incoming → Option RoutedMessage
  | frame f => f.message?
  | fault _ | finished | breakdown => none

/-- A way out of the work of a read pump. -/
inductive ReadPump.Exit
  /-- The connection is closed. -/
  | closed
  /-- The deadline has passed. -/
  | late
  /-- The peer has sent a close frame. -/
  | farewell (reason : Option (Nat × String))
  | fault (reason : String)
  | finished
  /-- The hub has stopped and does not take the message. -/
  | refused (m : RoutedMessage)

/-- **What a read pump ends with** that goes this way out. -/
def ReadPump.Exit.result (t : Timing) : Exit → Option TransportFault
  | closed | farewell _ | refused _ => none
  | late => some (.readTimeout (nanoseconds t.pongWait))
  | fault reason => some (.read reason)
  | finished => some .unexpectedEnd

namespace Incoming

/-- The way out that a read pump goes when it takes an item. -/
def exit? : Incoming → Option ReadPump.Exit
  | frame (.close reason) => some (.farewell reason)
  | frame _ | breakdown => none
  | fault reason => some (.fault reason)
  | finished => some .finished

/-- Whether a read pump goes on after an item. -/
def GoesOn (i : Incoming) : Prop := i.exit? = none ∧ i ≠ breakdown

/-- What is wrong with a text or binary frame that cannot be decoded. -/
def decodeFault? : Incoming → Option CodecError
  | frame f =>
    f.data?.bind fun bytes =>
      match ClientMessage.parse bytes with
      | .ok _ => none
      | .error e => some e
  | fault _ | finished | breakdown => none

theorem goesOn_of_data {f : Frame} {bytes : Bytes} (hf : f.data? = some bytes) :
    (frame f).GoesOn := by
  cases f with
  | text | binary => exact ⟨rfl, nofun⟩
  | ping | pong | close => cases hf

theorem goesOn_pong (data : Bytes) : (frame (.pong data)).GoesOn := ⟨rfl, nofun⟩

theorem goesOn_ping (data : Bytes) : (frame (.ping data)).GoesOn := ⟨rfl, nofun⟩

theorem decodeFault?_eq {f : Frame} {bytes : Bytes} (hf : f.data? = some bytes) :
    (frame f).decodeFault? = match ClientMessage.parse bytes with
      | .ok _ => none
      | .error e => some e := by
  rw [decodeFault?, hf]
  rfl

end Incoming

/-! ## One read pump -/

namespace ReadPump

variable {p q : ReadPump} {t : Timing} {c : Client} {s : Sight} {acts : List Act} {e : Exit}
  {items : List Incoming} {messages : List RoutedMessage} {ways : List Exit} {m : RoutedMessage}

/-- What a read pump takes by its next step. -/
def taken (s : Sight) : ReadPump → List Incoming
  | reading deadline => if s.notices deadline then [] else s.arrival.toList
  | _ => []

/-- The way out that a read pump goes by its next step. -/
def exit? (s : Sight) : ReadPump → Option Exit
  | reading deadline =>
    if s.notices deadline then some .closed
    else match s.arrival with
      | some i => i.exit?
      | none => if deadline ≤ s.now then some .late else none
  | submitting m _ => if s.admission = .refused then some (.refused m) else none
  | leaving _ | ended _ | broken => none

/-- **Even**: a pump goes on after all items, and the messages are those of all of them. -/
structure Even (items : List Incoming) (messages : List RoutedMessage) : Prop where
  goesOn : ∀ i ∈ items, i.GoesOn
  messages_eq : messages = items.filterMap Incoming.message?

/-- Even, but for the message of the last item. -/
def Behind (m : RoutedMessage) (items : List Incoming) (messages : List RoutedMessage) : Prop :=
  ∃ earlier f, items = earlier ++ [.frame f] ∧ f.message? = some m ∧ Even earlier messages

/-- Which items a pump has taken and which messages it has submitted when it goes a way
out: nothing is missing, and only the last item leads out. -/
def Exit.Left (items : List Incoming) (messages : List RoutedMessage) : Exit → Prop
  | closed | late => Even items messages
  | refused m => Behind m items messages
  | e => ∃ earlier i, items = earlier ++ [i] ∧ i.exit? = some e ∧ Even earlier messages

/-- **How a read pump stands** to the items that it has taken, to the messages that it
has submitted, and to the ways out that it has gone. -/
def Stands (t : Timing) (items : List Incoming) (messages : List RoutedMessage)
    (ways : List Exit) : ReadPump → Prop
  | reading _ => ways = [] ∧ Even items messages
  | submitting m _ => ways = [] ∧ Behind m items messages
  | leaving result | ended result => ∃ e, ways = [e] ∧ result = e.result t ∧ e.Left items messages
  | broken => ways = [] ∧ ∃ earlier, items = earlier ++ [.breakdown] ∧ Even earlier messages

theorem Even.start : Even [] [] := ⟨fun _ hi => absurd hi List.not_mem_nil, rfl⟩

/-- An item without a message after which a pump goes on leaves it even. -/
theorem Even.skip {i : Incoming} (h : Even items messages) (hi : i.GoesOn)
    (hm : i.message? = none) : Even (items ++ [i]) messages where
  goesOn := by
    intro j hj
    rcases List.mem_append.mp hj with hj | hj
    · exact h.goesOn j hj
    · exact List.mem_singleton.mp hj ▸ hi
  messages_eq := by
    rw [List.filterMap_append, ← h.messages_eq, List.filterMap_cons_none hm]
    exact (List.append_nil messages).symm

/-- A pump that was behind is even when it has submitted the message. -/
theorem Behind.even (h : Behind m items messages) : Even items (messages ++ [m]) := by
  obtain ⟨earlier, f, rfl, hm, heven⟩ := h
  refine ⟨fun i hi => ?_, ?_⟩
  · rcases List.mem_append.mp hi with hi | hi
    · exact heven.goesOn i hi
    · rw [List.mem_singleton.mp hi]
      cases f with
      | text | binary | ping | pong => exact ⟨rfl, nofun⟩
      | close => cases hm
  · have hlast : (Incoming.frame f).message? = some m := hm
    rw [List.filterMap_append, ← heven.messages_eq, List.filterMap_cons_some hlast]
    rfl

/-- What a pump takes that turns to the transport, and where it leads. -/
theorem takes (deadline : Nat) {i : Incoming} (hstays : ¬ s.notices deadline)
    (harrival : s.arrival = some i) :
    (reading deadline).taken s = [i] ∧ (reading deadline).exit? s = i.exit? := by
  constructor
  · rw [taken, if_neg hstays, harrival]
    rfl
  · rw [exit?, if_neg hstays, harrival]

/-- When nothing has come a pump takes nothing. -/
theorem takes_nothing (deadline : Nat) (hstays : ¬ s.notices deadline)
    (harrival : s.arrival = none) : (reading deadline).taken s = [] := by
  rw [taken, if_neg hstays, harrival]
  rfl

/-- An even pump that takes an item without a message and goes on is even. -/
theorem Even.stays {i : Incoming} (h : Even items messages) (deadline later : Nat)
    (hstays : ¬ s.notices deadline) (harrival : s.arrival = some i) (hi : i.GoesOn)
    (hm : i.message? = none) :
    (reading later).Stands t (items ++ (reading deadline).taken s) (messages ++ [])
      ([] ++ ((reading deadline).exit? s).toList) := by
  obtain ⟨htaken, hexit⟩ := takes deadline hstays harrival
  rw [htaken, hexit, hi.1, List.append_nil]
  exact ⟨rfl, h.skip hi hm⟩

/-- An even pump that takes an item and does not go on has taken a way out. -/
theorem Even.leaves {i : Incoming} (h : Even items messages) (deadline : Nat)
    (hstays : ¬ s.notices deadline) (harrival : s.arrival = some i) (hi : i.exit? = some e) :
    (leaving (e.result t)).Stands t (items ++ (reading deadline).taken s) (messages ++ [])
      ([] ++ ((reading deadline).exit? s).toList) := by
  obtain ⟨htaken, hexit⟩ := takes deadline hstays harrival
  rw [htaken, hexit, hi, List.append_nil]
  refine ⟨e, rfl, rfl, ?_⟩
  have hlast : ∃ earlier j, items ++ [i] = earlier ++ [j] ∧ j.exit? = some e ∧
      Even earlier messages := ⟨items, i, rfl, hi, h⟩
  cases e with
  | farewell | fault | finished => exact hlast
  -- no item leads these ways
  | closed | late | refused =>
    cases i with
    | frame f => cases f <;> cases hi
    | fault | finished | breakdown => cases hi

/-- **A step of a read pump**, whatever it sees, keeps how it stands. -/
theorem Stands.step (h : p.Stands t items messages ways)
    (hstep : p.step t c s = some (q, acts)) :
    q.Stands t (items ++ p.taken s)
      (messages ++ (acts.filterMap (Act.onHub c)).filterMap Hub.Act.message?)
      (ways ++ (p.exit? s).toList) := by
  cases step_iff.mp hstep with
  | @message deadline f bytes m hstays harrival hdata hparse =>
    obtain ⟨rfl, heven⟩ := h
    obtain ⟨htaken, hexit⟩ := takes deadline hstays harrival
    rw [htaken, hexit, (Incoming.goesOn_of_data hdata).1]
    refine ⟨rfl, items, f, rfl, Frame.message?_eq_some hdata hparse, ?_⟩
    exact (List.append_nil messages).symm ▸ heven
  | @skip deadline f bytes e hstays harrival hdata hparse =>
    obtain ⟨rfl, heven⟩ := h
    exact heven.stays deadline deadline hstays harrival (Incoming.goesOn_of_data hdata)
      (Frame.message?_eq_none hdata hparse)
  | pong hstays harrival =>
    obtain ⟨rfl, heven⟩ := h
    exact heven.stays _ _ hstays harrival (Incoming.goesOn_pong _) rfl
  | ping hstays harrival =>
    obtain ⟨rfl, heven⟩ := h
    exact heven.stays _ _ hstays harrival (Incoming.goesOn_ping _) rfl
  | farewell hstays harrival | fault hstays harrival | finished hstays harrival =>
    obtain ⟨rfl, heven⟩ := h
    exact heven.leaves _ hstays harrival rfl
  | @breakdown deadline hstays harrival =>
    obtain ⟨rfl, heven⟩ := h
    obtain ⟨htaken, hexit⟩ := takes deadline hstays harrival
    rw [htaken, hexit]
    exact ⟨rfl, items, rfl, (List.append_nil messages).symm ▸ heven⟩
  | @notice deadline hnotices =>
    obtain ⟨rfl, heven⟩ := h
    have htaken : (reading deadline).taken s = [] := if_pos hnotices
    have hexit : (reading deadline).exit? s = some .closed := if_pos hnotices
    rw [htaken, hexit, List.append_nil]
    exact ⟨.closed, rfl, rfl, (List.append_nil messages).symm ▸ heven⟩
  | @timeout deadline hstays harrival hlate =>
    obtain ⟨rfl, heven⟩ := h
    have hexit : (reading deadline).exit? s = some .late := by
      rw [exit?, if_neg hstays, harrival]
      exact if_pos hlate
    rw [takes_nothing deadline hstays harrival, hexit, List.append_nil]
    exact ⟨.late, rfl, rfl, (List.append_nil messages).symm ▸ heven⟩
  | @submit deadline m hadmission =>
    obtain ⟨rfl, hbehind⟩ := h
    have hexit : (submitting m deadline).exit? s = none := by
      rw [exit?, hadmission]
      rfl
    rw [hexit]
    refine ⟨rfl, ?_⟩
    show Even (items ++ []) (messages ++ [m])
    rw [List.append_nil]
    exact hbehind.even
  | @refused deadline m hadmission =>
    obtain ⟨rfl, hbehind⟩ := h
    have hexit : (submitting m deadline).exit? s = some (.refused m) := if_pos hadmission
    rw [hexit]
    refine ⟨.refused m, rfl, rfl, ?_⟩
    show Behind m (items ++ []) (messages ++ [])
    rw [List.append_nil, List.append_nil]
    exact hbehind
  | depart | vanish =>
    obtain ⟨e, rfl, rfl, hleft⟩ := h
    refine ⟨e, rfl, rfl, ?_⟩
    show e.Left (items ++ []) (messages ++ [])
    rw [List.append_nil, List.append_nil]
    exact hleft

/-! ### Its runs -/

/-- A read pump takes a step by what it sees, and takes by it what comes first. -/
def Move (t : Timing) (c : Client) :
    Fed ReadPump Incoming → Sight → Fed ReadPump Incoming → Prop :=
  Fed.Move (step t c) taken

variable {f g : Fed ReadPump Incoming} {seen : List (Fed ReadPump Incoming × Sight)} {now : Nat}

/-- The items that a read pump has taken along a run. -/
def takenIn (seen : List (Fed ReadPump Incoming × Sight)) : List Incoming :=
  Fed.takenIn taken seen

/-- What a read pump has done to the hub along a run. -/
def onHub (t : Timing) (c : Client) (seen : List (Fed ReadPump Incoming × Sight)) :
    List Hub.Act :=
  (Fed.deeds (step t c) seen).filterMap (Act.onHub c)

/-- The messages that a read pump has submitted along a run. -/
def submitted (t : Timing) (c : Client) (seen : List (Fed ReadPump Incoming × Sight)) :
    List RoutedMessage :=
  (onHub t c seen).filterMap Hub.Act.message?

/-- What was wrong with a frame that is skipped. -/
def Act.decodeFault? : Act → Option CodecError
  | skip e => some e
  | take | submit _ | close => none

/-- What was wrong with the frames that a read pump has skipped along a run. -/
def skipped (t : Timing) (c : Client) (seen : List (Fed ReadPump Incoming × Sight)) :
    List CodecError :=
  (Fed.deeds (step t c) seen).filterMap Act.decodeFault?

/-- The ways out that a read pump has gone along a run. -/
def exits (seen : List (Fed ReadPump Incoming × Sight)) : List Exit :=
  observe (fun f s => (f.machine.exit? s).toList) seen

theorem onHub_snoc (h : f.machine.step t c s = some (q, acts)) :
    onHub t c (seen ++ [(f, s)]) = onHub t c seen ++ acts.filterMap (Act.onHub c) := by
  rw [onHub, Fed.deeds_snoc h, List.filterMap_append]
  rfl

theorem submitted_snoc (h : f.machine.step t c s = some (q, acts)) :
    submitted t c (seen ++ [(f, s)]) =
      submitted t c seen ++ (acts.filterMap (Act.onHub c)).filterMap Hub.Act.message? := by
  rw [submitted, onHub_snoc h, List.filterMap_append]
  rfl

/-- **How a read pump stands at the end of every run.** -/
theorem stands_of_run (hr : Run (Move t c) ⟨.start t now, items⟩ seen f) :
    f.machine.Stands t (takenIn seen) (submitted t c seen) (exits seen) := by
  induction hr with
  | stay => exact ⟨rfl, .start⟩
  | move _ hm ih =>
    obtain ⟨⟨acts, hdo⟩, -⟩ := hm
    rw [takenIn, Fed.takenIn_snoc, submitted_snoc hdo, exits, observe_snoc]
    exact ih.step hdo

/-- A read pump skips the frames that cannot be decoded among those that it takes. -/
theorem skipped_of_step (h : p.step t c s = some (q, acts)) :
    acts.filterMap Act.decodeFault? = (p.taken s).filterMap Incoming.decodeFault? := by
  cases step_iff.mp h with
  | @message deadline f bytes m hstays harrival hdata hparse =>
    have hfine : (Incoming.frame f).decodeFault? = none := by
      rw [Incoming.decodeFault?_eq hdata, hparse]
    rw [(takes deadline hstays harrival).1, List.filterMap_cons_none hfine]
    rfl
  | @skip deadline f bytes e hstays harrival hdata hparse =>
    have hfault : (Incoming.frame f).decodeFault? = some e := by
      rw [Incoming.decodeFault?_eq hdata, hparse]
    rw [(takes deadline hstays harrival).1, List.filterMap_cons_some hfault]
    rfl
  | pong hstays harrival | ping hstays harrival | farewell hstays harrival | fault hstays harrival
  | finished hstays harrival | breakdown hstays harrival =>
    rw [(takes _ hstays harrival).1]
    rfl
  | notice hnotices =>
    rw [taken, if_pos hnotices]
    rfl
  | timeout hstays harrival =>
    rw [takes_nothing _ hstays harrival]
    rfl
  | submit | refused | depart | vanish => rfl

theorem skipped_of_run (hr : Run (Move t c) f seen g) :
    skipped t c seen = (takenIn seen).filterMap Incoming.decodeFault? := by
  induction hr with
  | stay => rfl
  | move _ hm ih =>
    obtain ⟨⟨acts, hdo⟩, -⟩ := hm
    rw [skipped, Fed.deeds_snoc hdo, takenIn, Fed.takenIn_snoc, List.filterMap_append,
      List.filterMap_append, skipped_of_step hdo, ← skipped, ih]
    rfl

/-- A read pump keeps to the way out. -/
theorem departing_of_run (hr : Run (Move t c) ⟨.start t now, items⟩ seen f) :
    Pump.Departing c (onHub t c seen) f.machine.phase :=
  .of_run (fun _ _ _ _ hdo => ⟨_, _, turn_of_step hdo⟩) hr rfl

/-- A read pump that is over has submitted that the client be taken out, unless the hub
had stopped. -/
theorem submitted_of_ended {result : Option TransportFault}
    (hr : Run (Move t c) ⟨.start t now, items⟩ seen f) (hended : f.machine = .ended result) :
    .submit (.unregister c) ∈ onHub t c seen ∨
      ∃ m ∈ seen, m.1.machine = .leaving result ∧ m.2.admission = .refused := by
  cases hr with
  | stay => cases hended
  | @move seen g f s _ hm =>
    obtain ⟨⟨acts, hdo⟩, -⟩ := hm
    rw [onHub_snoc hdo]
    obtain ⟨p, coming⟩ := g
    rw [hended] at hdo
    cases step_iff.mp hdo with
    | depart => exact Or.inl (List.mem_append_right _ List.mem_cons_self)
    | vanish hadmission =>
      exact Or.inr ⟨_, List.mem_append_right _ List.mem_cons_self, rfl, hadmission⟩

end ReadPump

end Switchboard
