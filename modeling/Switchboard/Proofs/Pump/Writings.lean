import Switchboard.Proofs.Pump.Turns

/-! # What write pumps write

A write pump takes payloads from the queue, one after the other, and begins to write a
frame for each, a ping now and then, and at last a close frame.  It begins the next frame
only when the one before is written, so all that was begun is written but for the last
frame at most (`WritePump.Stands`).

There are two orderly ways out, which the pump goes when the connection is closed or its
queue is over: both begin with the close frame.  A frame that is not written in order or in
time is the other way out, and then no frame comes after it, a close frame neither
(`WritePump.Exit.Left`).  Whichever way it goes, the connection is closed before the client
is to be taken out. -/
namespace Switchboard
namespace WritePump

/-- A way out of the work of a write pump. -/
inductive Exit
  /-- The connection is closed. -/
  | closed
  /-- The queue is over. -/
  | drained
  /-- A frame could not be written. -/
  | failed (f : Frame) (reason : String)
  /-- A frame was not written in time. -/
  | late (f : Frame)

/-- **What a write pump ends with** that goes this way out. -/
def Exit.result (t : Timing) : Exit → Option TransportFault
  | closed | drained => none
  | failed _ reason => some (.write reason)
  | late _ => some (.writeTimeout (nanoseconds t.writeWait))

/-- The way out that a write pump goes on a reply to a frame. -/
def exitBy? (f : Frame) : Reply → Option Exit
  | .failed reason => some (.failed f reason)
  | .done | .pending | .breakdown => none

/-- What a write pump takes from the queue by its next step. -/
def taken (s : Sight) : WritePump → List Payload
  | idle _ =>
    if s.closed then []
    else match s.queue with
      | .payload payload => [payload]
      | .ended | .empty => []
  | _ => []

/-- The frame that a write pump begins to write by its next step. -/
def begins? (s : Sight) : WritePump → Option Frame
  | idle nextPing =>
    if s.closed then some (.close none)
    else match s.queue with
      | .payload payload => some payload.frame
      | .ended => some (.close none)
      | .empty => if nextPing ≤ s.now then some (.ping []) else none
  | _ => none

/-- The way out that a write pump goes by its next step. -/
def exit? (s : Sight) : WritePump → Option Exit
  | idle nextPing =>
    if s.closed then some .closed
    else match s.queue with
      | .payload payload => exitBy? payload.frame (s.offer payload.frame)
      | .ended => some .drained
      | .empty => if nextPing ≤ s.now then exitBy? (.ping []) (s.offer (.ping [])) else none
  | writing f deadline _ =>
    if s.offer f = .pending ∧ deadline ≤ s.now then some (.late f) else exitBy? f (s.offer f)
  | _ => none

/-- The frame that an act has written. -/
def Act.written? : Act → Option Frame
  | offer f .done => some f
  | _ => none

/-! ## One write pump -/

variable {p q : WritePump} {t : Timing} {c : Client} {s : Sight} {acts : List Act} {e : Exit}
  {f : Frame} {nextPing : Nat} {payloads : List Payload} {begun written : List Frame}
  {ways : List Exit}

/-- Frames that **carry** payloads: a frame for each of them, in order, and empty pings in
between. -/
structure Carry (begun : List Frame) (payloads : List Payload) : Prop where
  data_eq : begun.filter Frame.isData = payloads.map Payload.frame
  data_or_ping : ∀ f ∈ begun, f.isData ∨ f = .ping []

/-- What a write pump has begun and what it has written when it goes a way out. -/
def Exit.Left (payloads : List Payload) (begun written : List Frame) : Exit → Prop
  | closed | drained =>
    ∃ body, Carry body payloads ∧ begun = body ++ [.close none] ∧ (written = body ∨ written = begun)
  | failed f _ | late f => Carry begun payloads ∧ begun = written ++ [f]

/-- What was begun carries what was taken, with a close frame after it at most, and what
was written is what was begun but for one frame at most. -/
def Framed (payloads : List Payload) (begun written : List Frame) : Prop :=
  (∃ body, Carry body payloads ∧ (begun = body ∨ begun = body ++ [.close none])) ∧
    ∃ last, begun = written ++ last ∧ last.length ≤ 1

/-- **How a write pump stands** to the payloads that it has taken, to the frames that it
has begun and written, and to the ways out that it has gone. -/
def Stands (t : Timing) (payloads : List Payload) (begun written : List Frame)
    (ways : List Exit) : WritePump → Prop
  | starting | idle _ => ways = [] ∧ Carry begun payloads ∧ begun = written
  | writing f .. => ways = [] ∧ Carry begun payloads ∧ begun = written ++ [f]
  | closingFrame _ =>
    ∃ e, ways = [e] ∧ e.result t = none ∧ Carry written payloads ∧
      begun = written ++ [.close none]
  | closingSink _ => ∃ e, ways = [e] ∧ e.result t = none ∧ e.Left payloads begun written
  | leaving result | ended result =>
    ∃ e, ways = [e] ∧ result = e.result t ∧ e.Left payloads begun written
  | broken => Framed payloads begun written

theorem Carry.nil : Carry [] [] := ⟨rfl, fun _ hf => absurd hf List.not_mem_nil⟩

/-- A payload more is a frame more. -/
theorem Carry.payload (h : Carry begun payloads) (payload : Payload) :
    Carry (begun ++ [payload.frame]) (payloads ++ [payload]) where
  data_eq := by
    rw [List.filter_append, h.data_eq, List.map_append]
    congr 1
    exact List.filter_eq_self.mpr fun f hf => List.mem_singleton.mp hf ▸ payload.isData_frame
  data_or_ping f hf := by
    rcases List.mem_append.mp hf with hf | hf
    · exact h.data_or_ping f hf
    · exact Or.inl (List.mem_singleton.mp hf ▸ payload.isData_frame)

/-- A ping carries nothing. -/
theorem Carry.ping (h : Carry begun payloads) : Carry (begun ++ [.ping []]) payloads where
  data_eq := by
    rw [List.filter_append, h.data_eq]
    exact List.append_nil _
  data_or_ping f hf := by
    rcases List.mem_append.mp hf with hf | hf
    · exact h.data_or_ping f hf
    · exact Or.inr (List.mem_singleton.mp hf)

/-- **An attempt to write a frame** that was begun after all others were written. -/
theorem stands_of_attempt (h : Carry begun payloads) (hbegun : begun = written ++ [f])
    (hattempt : Attempt t s f nextPing q acts) :
    q.Stands t payloads begun (written ++ acts.filterMap Act.written?)
      (exitBy? f (s.offer f)).toList := by
  cases hattempt with
  | done hreply =>
    rw [hreply]
    exact ⟨rfl, h, hbegun⟩
  | pending hreply =>
    rw [hreply]
    exact ⟨rfl, h, hbegun.trans (congrArg (· ++ [f]) (List.append_nil written).symm)⟩
  | failed hreply =>
    rw [hreply]
    exact ⟨_, rfl, rfl, h, hbegun.trans (congrArg (· ++ [f]) (List.append_nil written).symm)⟩
  | breakdown hreply =>
    refine ⟨⟨begun, h, Or.inl rfl⟩, [f], ?_, Nat.le_refl 1⟩
    exact hbegun.trans (congrArg (· ++ [f]) (List.append_nil written).symm)

/-- **An attempt to take leave of the peer** after all frames were written. -/
theorem stands_of_farewell (he : e = .closed ∨ e = .drained) (h : Carry written payloads)
    (hfarewell : Farewell t s q acts) :
    q.Stands t payloads (written ++ [.close none]) (written ++ acts.filterMap Act.written?) [e] := by
  have hresult : e.result t = none := by
    rcases he with rfl | rfl <;> rfl
  cases hfarewell with
  | pending =>
    refine ⟨e, rfl, hresult, ?_⟩
    show Carry (written ++ []) payloads ∧ _ = (written ++ []) ++ [Frame.close none]
    rw [List.append_nil]
    exact ⟨h, rfl⟩
  | breakdown =>
    refine ⟨⟨written, h, Or.inr rfl⟩, [.close none], ?_, Nat.le_refl 1⟩
    exact congrArg (· ++ [Frame.close none]) (List.append_nil written).symm
  | proceed hpending hbreakdown =>
    refine ⟨e, rfl, hresult, ?_⟩
    have hleft : ∃ body, Carry body payloads ∧
        written ++ [.close none] = body ++ [.close none] ∧
        (written ++ [Act.offer (.close none) (s.offer (.close none))].filterMap Act.written? = body ∨
          written ++ [Act.offer (.close none) (s.offer (.close none))].filterMap Act.written? =
            written ++ [.close none]) := by
      refine ⟨written, h, rfl, ?_⟩
      cases s.offer (.close none) with
      | done => exact Or.inr rfl
      | pending | failed | breakdown => exact Or.inl (List.append_nil written)
    rcases he with rfl | rfl <;> exact hleft

/-- The orderly ways out. -/
theorem Exit.orderly (h : e.result t = none) : e = .closed ∨ e = .drained := by
  cases e with
  | closed => exact Or.inl rfl
  | drained => exact Or.inr rfl
  | failed | late => cases h

/-- Whichever way out a pump goes, its frames are framed. -/
theorem Exit.Left.framed (h : e.Left payloads begun written) : Framed payloads begun written := by
  cases e with
  | failed f | late f => exact ⟨⟨begun, h.1, Or.inl rfl⟩, [f], h.2, Nat.le_refl 1⟩
  | closed | drained =>
    obtain ⟨body, hcarry, rfl, hwritten⟩ := h
    refine ⟨⟨body, hcarry, Or.inr rfl⟩, ?_⟩
    rcases hwritten with rfl | rfl
    · exact ⟨[.close none], rfl, Nat.le_refl 1⟩
    · exact ⟨[], (List.append_nil _).symm, Nat.zero_le 1⟩

/-- On an orderly way out all frames are written, but for the close frame maybe. -/
theorem Exit.left_of_farewell (he : e.result t = none) (h : Carry written payloads) :
    e.Left payloads (written ++ [.close none]) written := by
  rcases Exit.orderly he with rfl | rfl <;> exact ⟨written, h, rfl, Or.inl rfl⟩

/-- **A step of a write pump**, whatever it sees, keeps how it stands. -/
theorem Stands.step (h : p.Stands t payloads begun written ways)
    (hstep : p.step t c s = some (q, acts)) :
    q.Stands t (payloads ++ p.taken s) (begun ++ (p.begins? s).toList)
      (written ++ acts.filterMap Act.written?) (ways ++ (p.exit? s).toList) := by
  -- in many steps nothing is taken, begun or written, and no way out is gone
  have hquiet : ∀ q : WritePump, q.Stands t payloads begun written ways →
      q.Stands t (payloads ++ []) (begun ++ []) (written ++ []) (ways ++ []) := by
    intro q h
    rw [List.append_nil, List.append_nil, List.append_nil, List.append_nil]
    exact h
  cases step_iff.mp hstep with
  | start => exact hquiet (idle _) h
  | never =>
    obtain ⟨-, hcarry, rfl⟩ := h
    exact hquiet broken
      ⟨⟨begun, hcarry, Or.inl rfl⟩, [], (List.append_nil begun).symm, Nat.zero_le 1⟩
  | @notice nextPing _ _ hclosed hfarewell =>
    obtain ⟨rfl, hcarry, rfl⟩ := h
    rw [taken, begins?, exit?, if_pos hclosed, if_pos hclosed, if_pos hclosed, List.append_nil]
    exact stands_of_farewell (Or.inl rfl) hcarry hfarewell
  | @drained nextPing _ _ hopen hqueue hfarewell =>
    obtain ⟨rfl, hcarry, rfl⟩ := h
    rw [taken, begins?, exit?, if_neg hopen, if_neg hopen, if_neg hopen, hqueue]
    dsimp only
    rw [List.append_nil]
    exact stands_of_farewell (Or.inr rfl) hcarry hfarewell
  | @take nextPing payload _ acts hopen hqueue hattempt =>
    obtain ⟨rfl, hcarry, rfl⟩ := h
    have hattempted := stands_of_attempt (hcarry.payload payload) rfl hattempt
    rw [taken, begins?, exit?, if_neg hopen, if_neg hopen, if_neg hopen, hqueue]
    exact hattempted
  | @ping nextPing _ _ hopen hqueue hdue hattempt =>
    obtain ⟨rfl, hcarry, rfl⟩ := h
    rw [taken, begins?, exit?, if_neg hopen, if_neg hopen, if_neg hopen, hqueue]
    dsimp only
    rw [if_pos hdue, if_pos hdue, List.append_nil]
    exact stands_of_attempt hcarry.ping rfl hattempt
  | @retry f deadline nextPing _ _ hreply hattempt =>
    obtain ⟨rfl, hcarry, hlast⟩ := h
    have hexit : (writing f deadline nextPing).exit? s = exitBy? f (s.offer f) :=
      if_neg fun hlate => hreply hlate.1
    rw [hexit]
    show q.Stands t (payloads ++ []) (begun ++ []) _ _
    rw [List.append_nil, List.append_nil]
    exact stands_of_attempt hcarry hlast hattempt
  | @timeout f deadline nextPing hreply hlate =>
    obtain ⟨rfl, hcarry, hlast⟩ := h
    have hexit : (writing f deadline nextPing).exit? s = some (.late f) := if_pos ⟨hreply, hlate⟩
    rw [hexit]
    refine ⟨.late f, rfl, rfl, ?_⟩
    show Carry (begun ++ []) (payloads ++ []) ∧ begun ++ [] = (written ++ []) ++ [f]
    rw [List.append_nil, List.append_nil, List.append_nil]
    exact ⟨hcarry, hlast⟩
  | retryFarewell hreply hfarewell =>
    obtain ⟨e, rfl, hresult, hcarry, rfl⟩ := h
    show q.Stands t (payloads ++ []) ((written ++ [.close none]) ++ []) _ ([e] ++ [])
    rw [List.append_nil, List.append_nil]
    exact stands_of_farewell (Exit.orderly hresult) hcarry hfarewell
  | farewellTimeout =>
    obtain ⟨e, rfl, hresult, hcarry, rfl⟩ := h
    exact hquiet (closingSink _) ⟨e, rfl, hresult, Exit.left_of_farewell hresult hcarry⟩
  | finishTimeout | finish =>
    obtain ⟨e, rfl, hresult, hleft⟩ := h
    exact hquiet (leaving none) ⟨e, rfl, hresult.symm, hleft⟩
  | finishBreakdown =>
    obtain ⟨e, rfl, hresult, hleft⟩ := h
    exact hquiet broken hleft.framed
  | @depart result | @vanish result => exact hquiet (ended result) h

/-- **The frames of a write pump are framed** at every moment. -/
theorem Stands.framed (h : p.Stands t payloads begun written ways) :
    Framed payloads begun written := by
  cases p with
  | starting | idle =>
    obtain ⟨-, hcarry, rfl⟩ := h
    exact ⟨⟨begun, hcarry, Or.inl rfl⟩, [], (List.append_nil begun).symm, Nat.zero_le 1⟩
  | writing f => exact ⟨⟨begun, h.2.1, Or.inl rfl⟩, [f], h.2.2, Nat.le_refl 1⟩
  | closingFrame =>
    obtain ⟨e, -, -, hcarry, rfl⟩ := h
    exact ⟨⟨written, hcarry, Or.inr rfl⟩, [.close none], rfl, Nat.le_refl 1⟩
  | closingSink =>
    obtain ⟨e, -, -, h⟩ := h
    exact h.framed
  | leaving | ended =>
    obtain ⟨e, -, -, h⟩ := h
    exact h.framed
  | broken => exact h

/-! ## Its runs -/

/-- A write pump takes a step by what it sees, and takes by it what is queued first. -/
def Move (t : Timing) (c : Client) :
    Fed WritePump Payload → Sight → Fed WritePump Payload → Prop :=
  Fed.Move (step t c) taken

variable {x y : Fed WritePump Payload} {seen later : List (Fed WritePump Payload × Sight)}

/-- The payloads that a write pump has taken along a run. -/
def takenIn (seen : List (Fed WritePump Payload × Sight)) : List Payload := Fed.takenIn taken seen

/-- The frames that a write pump has begun to write along a run. -/
def begunIn (seen : List (Fed WritePump Payload × Sight)) : List Frame :=
  observe (fun x s => (x.machine.begins? s).toList) seen

/-- The frames that a write pump has written along a run. -/
def writtenIn (t : Timing) (c : Client) (seen : List (Fed WritePump Payload × Sight)) :
    List Frame :=
  (Fed.deeds (step t c) seen).filterMap Act.written?

/-- The ways out that a write pump has gone along a run. -/
def exits (seen : List (Fed WritePump Payload × Sight)) : List Exit :=
  observe (fun x s => (x.machine.exit? s).toList) seen

/-- What a write pump has done to the hub along a run. -/
def onHub (t : Timing) (c : Client) (seen : List (Fed WritePump Payload × Sight)) :
    List Hub.Act :=
  (Fed.deeds (step t c) seen).filterMap (Act.onHub c)

/-- **How a write pump stands at the end of every run.** -/
theorem stands_of_run (hr : Run (Move t c) ⟨.starting, payloads⟩ seen x) :
    x.machine.Stands t (takenIn seen) (begunIn seen) (writtenIn t c seen) (exits seen) := by
  induction hr with
  | stay => exact ⟨rfl, .nil, rfl⟩
  | move _ hm ih =>
    obtain ⟨⟨acts, hdo⟩, -⟩ := hm
    rw [takenIn, Fed.takenIn_snoc, begunIn, observe_snoc, writtenIn, Fed.deeds_snoc hdo,
      List.filterMap_append, exits, observe_snoc]
    exact ih.step hdo

/-- On a reply to a frame a pump goes no orderly way out. -/
theorem exitBy?_ne (f : Frame) (reply : Reply) :
    exitBy? f reply ≠ some .closed ∧ exitBy? f reply ≠ some .drained := by
  cases reply <;> exact ⟨nofun, nofun⟩

/-- **A close frame is begun** on the orderly ways out, and only there. -/
theorem begins_farewell_iff : p.begins? s = some (.close none) ↔
    p.exit? s = some .closed ∨ p.exit? s = some .drained := by
  cases p with
  | starting | closingFrame | closingSink | leaving | ended | broken => simp [begins?, exit?]
  | writing f deadline nextPing =>
    constructor
    · exact nofun
    · rw [exit?]
      split
      · exact nofun
      · exact fun h => (h.elim (exitBy?_ne _ _).1 (exitBy?_ne _ _).2).elim
  | idle nextPing =>
    rw [begins?, exit?]
    by_cases hclosed : s.closed
    · rw [if_pos hclosed, if_pos hclosed]
      exact ⟨fun _ => Or.inl rfl, fun _ => rfl⟩
    rw [if_neg hclosed, if_neg hclosed]
    cases s.queue with
    | ended => exact ⟨fun _ => Or.inr rfl, fun _ => rfl⟩
    | payload payload =>
      constructor
      · intro h
        -- the frame of a payload carries data, and a close frame does not
        have hdata : (Frame.close none).isData := Option.some.inj h ▸ payload.isData_frame
        cases hdata
      · exact fun h => (h.elim (exitBy?_ne _ _).1 (exitBy?_ne _ _).2).elim
    | empty =>
      dsimp only
      split
      · constructor
        · exact nofun
        · exact fun h => (h.elim (exitBy?_ne _ _).1 (exitBy?_ne _ _).2).elim
      · exact ⟨nofun, fun h => h.elim nofun nofun⟩

theorem farewell_begun_iff : .close none ∈ begunIn seen ↔
    .closed ∈ exits seen ∨ .drained ∈ exits seen := by
  simp only [begunIn, exits, observe, List.mem_flatMap, Option.mem_toList,
    begins_farewell_iff, and_or_left, exists_or]

theorem taken_of_closed (hclosed : s.closed) : p.taken s = [] := by
  cases p with
  | idle => exact if_pos hclosed
  | starting | writing | closingFrame | closingSink | leaving | ended | broken => rfl

theorem begins_of_closed (hclosed : s.closed) (hf : p.begins? s = some f) : f = .close none := by
  cases p with
  | idle =>
    rw [begins?, if_pos hclosed] at hf
    exact (Option.some.inj hf).symm
  | starting | writing | closingFrame | closingSink | leaving | ended | broken => cases hf

/-- **On a closed connection** no payload is taken and no frame is begun but a close
frame. -/
theorem begun_of_closed (hclosed : ∀ m ∈ later, m.2.closed) :
    takenIn later = [] ∧ ∀ f ∈ begunIn later, f = .close none := by
  constructor
  · exact List.flatMap_eq_nil_iff.mpr fun m hm => taken_of_closed (hclosed m hm)
  · intro f hf
    obtain ⟨m, hm, hin⟩ := List.mem_flatMap.mp hf
    exact begins_of_closed (hclosed m hm) (Option.mem_toList.mp hin)

/-- A write pump that is over has submitted that the client be taken out, unless the hub
had stopped. -/
theorem submitted_of_ended {result : Option TransportFault}
    (hr : Run (Move t c) ⟨.starting, payloads⟩ seen x) (hended : x.machine = .ended result) :
    .submit (.unregister c) ∈ onHub t c seen ∨
      ∃ m ∈ seen, m.1.machine = .leaving result ∧ m.2.admission = .refused := by
  cases hr with
  | stay => cases hended
  | @move seen y x s _ hm =>
    obtain ⟨⟨acts, hdo⟩, -⟩ := hm
    rw [onHub, Fed.deeds_snoc hdo, List.filterMap_append]
    obtain ⟨p, coming⟩ := y
    rw [hended] at hdo
    cases step_iff.mp hdo with
    | depart => exact Or.inl (List.mem_append_right _ List.mem_cons_self)
    | vanish hadmission =>
      exact Or.inr ⟨_, List.mem_append_right _ List.mem_cons_self, rfl, hadmission⟩
    | notice _ hfarewell | drained _ _ hfarewell | retryFarewell _ hfarewell => cases hfarewell
    | take _ _ hattempt | ping _ _ _ hattempt | retry _ hattempt => cases hattempt

/-- **What write pumps write**, whatever they see, and whenever.

* A pump takes the payloads from the front.  The frames that it has begun carry what it
  has taken, in order, with empty pings in between; a close frame comes after all others.
  What it has begun is written, but for the last frame at most (`WritePump.Stands`).
* A close frame is begun when the connection is closed or the queue is over, and only then.
  After a frame that was not written in order or in time no other frame comes.  A pump ends
  as its way out says: with a fault for such a frame, and in order else.
* On a closed connection no payload is taken, and no frame is begun but the close frame.
* When a pump leaves, it has closed the connection; it has done so before it submits that
  the client be taken out, and it does submit that unless the hub has stopped.
* It waits only for something to write, for a frame to be written or the transport to be
  closed before a deadline, and for a place at the hub. -/
theorem written_exactly (hr : Run (Move t c) ⟨.starting, payloads⟩ seen x) :
    payloads = takenIn seen ++ x.coming ∧
    x.machine.Stands t (takenIn seen) (begunIn seen) (writtenIn t c seen) (exits seen) ∧
    Framed (takenIn seen) (begunIn seen) (writtenIn t c seen) ∧
    (.close none ∈ begunIn seen ↔ .closed ∈ exits seen ∨ .drained ∈ exits seen) ∧
    (∀ later y, Run (Move t c) x later y → (∀ m ∈ later, m.2.closed) →
      takenIn later = [] ∧ ∀ f ∈ begunIn later, f = .close none) ∧
    (x.machine.phase = .leaving ∨ x.machine.phase = .gone →
      .use c.connection .close ∈ onHub t c seen) ∧
    (∀ before after, onHub t c seen = before ++ .submit (.unregister c) :: after →
      .use c.connection .close ∈ before) ∧
    (∀ result, x.machine = .ended result → .submit (.unregister c) ∈ onHub t c seen ∨
      ∃ m ∈ seen, m.1.machine = .leaving result ∧ m.2.admission = .refused) ∧
    ∀ s, x.machine.step t c s = none ↔ x.machine.isOver ∨ x.machine.Waits s := by
  have hstands := stands_of_run hr
  have hdeparting : Pump.Departing c (onHub t c seen) x.machine.phase :=
    .of_run (fun _ _ _ _ hdo => ⟨_, _, turn_of_step hdo⟩) hr rfl
  exact ⟨Fed.coming_eq hr, hstands, hstands.framed, farewell_begun_iff,
    fun _ _ _ => begun_of_closed, hdeparting.closed, fun _ _ => hdeparting.closed_first,
    fun _ => submitted_of_ended hr, fun _ => step_eq_none_iff⟩

/-- Of two payloads one is written; then the connection is closed. -/
theorem written_exactly_closed :
    let t : Timing := ⟨2, 10, 5⟩
    let anna : Client := ⟨⟨1⟩, .ofParts "anna" "acme" []⟩
    let one : Payload := .ofText "one"
    let two : Payload := .ofText "two"
    let free : Sight := ⟨0, false, .payload one, .admitted, fun _ => .done, .done⟩
    let shut : Sight := { free with closed := true, queue := .payload two }
    let x₀ : Fed WritePump Payload := ⟨.starting, [one, two]⟩
    let x₁ : Fed WritePump Payload := ⟨.idle 5, [one, two]⟩
    let x₂ : Fed WritePump Payload := ⟨.idle 5, [two]⟩
    let x₃ : Fed WritePump Payload := ⟨.closingSink 2, [two]⟩
    let x₄ : Fed WritePump Payload := ⟨.leaving none, [two]⟩
    let x₅ : Fed WritePump Payload := ⟨.ended none, [two]⟩
    let seen := [(x₀, free), (x₁, free), (x₂, shut), (x₃, shut), (x₄, shut)]
    Run (Move t anna) x₀ seen x₅ ∧ takenIn seen = [one] ∧
      begunIn seen = [.text "one", .close none] ∧
      Exit.closed.Left [one] (begunIn seen) (writtenIn t anna seen) ∧
      .use anna.connection .close ∈ onHub t anna seen := by
  intro t anna one two free shut x₀ x₁ x₂ x₃ x₄ x₅ seen
  have hframe : one.frame = .text "one" := Payload.frame_ofText "one"
  have hr : Run (Move t anna) x₀ seen x₅ :=
    (((((Run.stay.move (a := free) (u := x₁) ⟨⟨_, rfl⟩, rfl⟩).move (a := free) (u := x₂)
      ⟨⟨_, rfl⟩, rfl⟩).move (a := shut) (u := x₃) ⟨⟨_, rfl⟩, rfl⟩).move (a := shut) (u := x₄)
      ⟨⟨_, rfl⟩, rfl⟩).move (a := shut) (u := x₅) ⟨⟨_, rfl⟩, rfl⟩)
  obtain ⟨-, hstands, -, -, -, hclosed, -⟩ := written_exactly hr
  have hbegun : begunIn seen = [one.frame, .close none] := rfl
  have hways : exits seen = [.closed] := rfl
  refine ⟨hr, rfl, hbegun.trans (by rw [hframe]), ?_, hclosed (Or.inr rfl)⟩
  obtain ⟨e, he, -, hleft⟩ := hstands
  obtain rfl : Exit.closed = e := List.singleton_inj.mp (hways.symm.trans he)
  exact hleft

end WritePump
end Switchboard
