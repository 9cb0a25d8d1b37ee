import Switchboard.Proofs.Hub.Acts
import Switchboard.Proofs.Pump.Steps
import Switchboard.Session

/-! # What pumps, sessions and bridges do to the hub

To the hub, the two pumps of a session are alike.  A pump works, then it closes
the connection, then it submits that the client be taken out, and then it is
over; in between, the one hands messages to the hub and the other reads the
queue.  A transport may take a pump down while it works, and then the pump does
none of this.

`Pump.Turn` says all that a step of a pump can come to: from which phase to which
other, and by which acts on the hub.  The steps of both pumps are of this kind
(`ReadPump.turn_of_step`, `WritePump.turn_of_step`), so whatever is proved of
turns holds for both: a pump closes the connection before it submits that the client
be taken out (`Departing.closed_first`), whatever it sees (`Departing.of_run`). -/
namespace Switchboard

namespace Pump

/-- How far a pump is. -/
inductive Phase
  | working
  /-- The connection is closed, and the client is to be taken out. -/
  | leaving
  | gone
  /-- Taken down by the transport. -/
  | broken

/-- A use of the queue that a pump makes while it works or goes. -/
def OfQueue (u : Switch.Use) : Prop := u = .read ∨ u = .abandon

/-- What a step of a pump comes to: from which phase to which other, by which
acts on the hub, when the hub says so much to a submission and the pump holds
these messages. -/
inductive Turn (c : Client) (admission : Admission) (held : List RoutedMessage) :
    Phase → Phase → List Hub.Act → Prop
  | work (us : List Switch.Use) (hus : ∀ u ∈ us, OfQueue u) :
    Turn c admission held .working .working (us.map (.use c.connection))
  | breakDown (us : List Switch.Use) (hus : ∀ u ∈ us, OfQueue u) :
    Turn c admission held .working .broken (us.map (.use c.connection))
  | hand (m : RoutedMessage) (hm : m ∈ held) (h : admission = .admitted) :
    Turn c admission held .working .working [.submit (.deliver m)]
  | hangUp (us : List Switch.Use) (hus : ∀ u ∈ us, OfQueue u) :
    Turn c admission held .working .leaving
      (us.map (.use c.connection) ++ [.use c.connection .close])
  | leave (us : List Switch.Use) (hus : ∀ u ∈ us, OfQueue u) (h : admission = .admitted) :
    Turn c admission held .leaving .gone (.submit (.unregister c) :: us.map (.use c.connection))
  | part (us : List Switch.Use) (hus : ∀ u ∈ us, OfQueue u) (h : admission = .refused) :
    Turn c admission held .leaving .gone (us.map (.use c.connection))

theorem ofQueue_nil : ∀ u ∈ ([] : List Switch.Use), OfQueue u := fun _ hu => nomatch hu

theorem ofQueue_abandon : ∀ u ∈ [Switch.Use.abandon], OfQueue u :=
  fun _ hu => Or.inr (List.mem_singleton.mp hu)

/-- The far end of a connection that was opened can use it several times. -/
theorem allowed_uses {P : Population} {h : Hub} {id : ConnectionId} {us : List Switch.Use}
    (hus : ∀ u ∈ us, OfQueue u ∨ u = .close) (ho : id ∈ h.switch.connections) :
    Hub.Act.AllowedInRow P h (us.map (.use id)) := by
  induction us generalizing h with
  | nil => trivial
  | cons u us ih =>
    have hgrows : Switch.Grows h.switch (u.next id h.switch) :=
      Switch.grows_next (a := .use id u)
    refine ⟨?_, ih (fun v hv => hus v (List.mem_cons_of_mem u hv)) (hgrows id ho)⟩
    rcases hus u List.mem_cons_self with (rfl | rfl) | rfl <;> exact ho

/-- **A turn can happen to the hub** if the pump's connection was opened. -/
theorem Turn.allowed {P : Population} {h : Hub} {c : Client} {φ ψ : Phase} {acts : List Hub.Act}
    {held : List RoutedMessage} (ht : Turn c h.admission held φ ψ acts) (hc : c ∈ P)
    (ho : c.connection ∈ h.switch.connections) (hhere : h.abandoned = false) :
    Hub.Act.AllowedInRow P h acts := by
  cases ht with
  | work us hus | breakDown us hus | part us hus =>
    exact allowed_uses (fun u hu => Or.inl (hus u hu)) ho
  | hand m _ hadmitted => exact ⟨⟨hadmitted, hhere, trivial, trivial⟩, trivial⟩
  | hangUp us hus =>
    rw [← List.map_singleton (f := Hub.Act.use c.connection), ← List.map_append]
    refine allowed_uses (fun u hu => ?_) ho
    rcases List.mem_append.mp hu with hu | hu
    · exact Or.inl (hus u hu)
    · exact Or.inr (List.mem_singleton.mp hu)
  | leave us hus hadmitted =>
    exact ⟨⟨hadmitted, hhere, hc, ho⟩, allowed_uses (fun u hu => Or.inl (hus u hu)) ho⟩

/-- The single acts that a turn consists of. -/
theorem Turn.of_mem {admission : Admission} {c : Client} {φ ψ : Phase} {acts : List Hub.Act}
    {b : Hub.Act} {held : List RoutedMessage} (ht : Turn c admission held φ ψ acts)
    (hb : b ∈ acts) :
    (∃ u, b = .use c.connection u ∧ (OfQueue u ∨ u = .close)) ∨
      b = .submit (.unregister c) ∨ ∃ m ∈ held, b = .submit (.deliver m) := by
  have huses : ∀ us : List Switch.Use, (∀ u ∈ us, OfQueue u) → b ∈ us.map (.use c.connection) →
      ∃ u, b = .use c.connection u ∧ (OfQueue u ∨ u = .close) := by
    intro us hus hb
    obtain ⟨u, hu, rfl⟩ := List.mem_map.mp hb
    exact ⟨u, rfl, Or.inl (hus u hu)⟩
  cases ht with
  | work us hus | breakDown us hus | part us hus => exact Or.inl (huses us hus hb)
  | hand m hm => exact Or.inr (Or.inr ⟨m, hm, List.mem_singleton.mp hb⟩)
  | hangUp us hus =>
    left
    rcases List.mem_append.mp hb with hb | hb
    · exact huses us hus hb
    · exact ⟨.close, List.mem_singleton.mp hb, Or.inr rfl⟩
  | leave us hus =>
    rcases List.mem_cons.mp hb with rfl | hb
    · exact Or.inr (Or.inl rfl)
    · exact Or.inl (huses us hus hb)

/-! ### The way out -/

/-- What a pump has done to the hub when it has got so far: it closes the connection as
it leaves, and only after that does it submit that the client be taken out. -/
def Departing (c : Client) (acts : List Hub.Act) : Phase → Prop
  | .working | .broken => .use c.connection .close ∉ acts ∧ .submit (.unregister c) ∉ acts
  | .leaving => .use c.connection .close ∈ acts ∧ .submit (.unregister c) ∉ acts
  | .gone => ∃ before after, acts = before ++ after ∧ .use c.connection .close ∈ before ∧
      .submit (.unregister c) ∉ before

variable {c : Client} {admission : Admission} {held : List RoutedMessage} {φ ψ : Phase}
  {acts more : List Hub.Act}

/-- Uses of the queue neither close the connection nor take anybody out. -/
theorem not_mem_uses {us : List Switch.Use} (hus : ∀ u ∈ us, OfQueue u) (e : Event) :
    .use c.connection .close ∉ us.map (Hub.Act.use c.connection) ∧
      .submit e ∉ us.map (Hub.Act.use c.connection) := by
  constructor
  · rintro hin
    obtain ⟨u, hu, he⟩ := List.mem_map.mp hin
    cases he
    rcases hus _ hu with h | h <;> cases h
  · rintro hin
    obtain ⟨u, -, he⟩ := List.mem_map.mp hin
    cases he

/-- **Every turn keeps to the way out.** -/
theorem Departing.turn (hd : Departing c acts φ) (ht : Turn c admission held φ ψ more) :
    Departing c (acts ++ more) ψ := by
  cases ht with
  | work us hus | breakDown us hus =>
    obtain ⟨hopen, hkept⟩ := hd
    obtain ⟨hclose, hsubmit⟩ := not_mem_uses (c := c) hus (.unregister c)
    exact ⟨fun hin => (List.mem_append.mp hin).elim hopen hclose,
      fun hin => (List.mem_append.mp hin).elim hkept hsubmit⟩
  | hand m =>
    obtain ⟨hopen, hkept⟩ := hd
    refine ⟨fun hin => ?_, fun hin => ?_⟩
    · rcases List.mem_append.mp hin with hin | hin
      · exact hopen hin
      · cases List.mem_singleton.mp hin
    · rcases List.mem_append.mp hin with hin | hin
      · exact hkept hin
      · cases List.mem_singleton.mp hin
  | hangUp us hus =>
    obtain ⟨-, hkept⟩ := hd
    refine ⟨by simp, fun hin => ?_⟩
    rcases List.mem_append.mp hin with hin | hin
    · exact hkept hin
    rcases List.mem_append.mp hin with hin | hin
    · exact (not_mem_uses (c := c) hus (.unregister c)).2 hin
    · cases List.mem_singleton.mp hin
  | leave | part => exact ⟨acts, _, rfl, hd.1, hd.2⟩

/-- **The connection is closed before the client is to be taken out.** -/
theorem Departing.closed_first (hd : Departing c acts φ) {before after : List Hub.Act}
    (he : acts = before ++ .submit (.unregister c) :: after) :
    .use c.connection .close ∈ before := by
  have hin : .submit (.unregister c) ∈ acts := he ▸ List.mem_append_right _ List.mem_cons_self
  cases φ with
  | working | broken | leaving => exact absurd hin hd.2
  | gone =>
    obtain ⟨early, late, hsplit, hclosed, hkept⟩ := hd
    -- What comes before the event that takes the client out goes at least as far.
    rcases List.append_eq_append_iff.mp (hsplit.symm.trans he) with ⟨more, rfl, -⟩ | ⟨more, rfl, hrest⟩
    · exact List.mem_append_left _ hclosed
    · cases more with
      | nil => rwa [List.append_nil] at hclosed
      | cons a more =>
        obtain ⟨rfl, -⟩ := List.cons_eq_cons.mp hrest
        exact absurd (List.mem_append_right _ List.mem_cons_self) hkept

/-- A pump that leaves or is gone has closed the connection. -/
theorem Departing.closed (hd : Departing c acts φ) (hφ : φ = .leaving ∨ φ = .gone) :
    .use c.connection .close ∈ acts := by
  rcases hφ with rfl | rfl
  · exact hd.1
  · obtain ⟨before, after, rfl, hclosed, -⟩ := hd
    exact List.mem_append_left _ hclosed

/-- **A machine whose steps are turns keeps to the way out.** -/
theorem Departing.of_run {Machine Sight Deed Item : Type}
    {step : Sight → Machine → Option (Machine × List Deed)} {taken : Sight → Machine → List Item}
    {phase : Machine → Phase} {onHub : Deed → Option Hub.Act} {f g : Fed Machine Item}
    {seen : List (Fed Machine Item × Sight)}
    (hturn : ∀ s m m' deeds, step s m = some (m', deeds) →
      ∃ admission held, Turn c admission held (phase m) (phase m') (deeds.filterMap onHub))
    (hr : Run (Fed.Move step taken) f seen g) (hstart : phase f.machine = .working) :
    Departing c ((Fed.deeds step seen).filterMap onHub) (phase g.machine) := by
  induction hr with
  | stay =>
    rw [hstart]
    exact ⟨List.not_mem_nil, List.not_mem_nil⟩
  | move _ hm ih =>
    obtain ⟨⟨deeds, hdo⟩, -⟩ := hm
    obtain ⟨admission, held, ht⟩ := hturn _ _ _ _ hdo
    rw [Fed.deeds_snoc hdo, List.filterMap_append]
    exact ih.turn ht

end Pump

open Pump

variable {c : Client} {t : Timing}

/-! ## The read pump -/

namespace ReadPump

variable {p q : ReadPump} {s : Sight} {acts : List Act}

def phase : ReadPump → Phase
  | reading _ | submitting .. => .working
  | leaving _ => .leaving
  | ended _ => .gone
  | broken => .broken

/-- The message that a read pump is to submit. -/
def inHand : ReadPump → List RoutedMessage
  | submitting m _ => [m]
  | _ => []

/-- What an act of a read pump is to the hub. -/
def Act.onHub (c : Client) : Act → Option Hub.Act
  | take | skip _ => none
  | submit e => some (.submit e)
  | close => some (.use c.connection .close)

/-- **A step of a read pump is a turn.** -/
theorem turn_of_step (h : p.step t c s = some (q, acts)) :
    Turn c s.admission p.inHand p.phase q.phase (acts.filterMap (Act.onHub c)) := by
  have hquiet : ∀ held, Turn c s.admission held .working .working [] :=
    fun _ => .work [] ofQueue_nil
  have hclosing : ∀ held, Turn c s.admission held .working .leaving [.use c.connection .close] :=
    fun _ => .hangUp [] ofQueue_nil
  cases step_iff.mp h with
  | message | skip | pong | ping => exact hquiet _
  | notice | farewell | fault | finished | timeout | refused => exact hclosing _
  | breakdown => exact .breakDown [] ofQueue_nil
  | submit hadmission => exact .hand _ List.mem_cons_self hadmission
  | depart hadmission => exact .leave [] ofQueue_nil hadmission
  | vanish hadmission => exact .part [] ofQueue_nil hadmission

end ReadPump

/-! ## The write pump -/

namespace WritePump

variable {p q : WritePump} {s : Sight} {acts : List Act}

def phase : WritePump → Phase
  | starting | idle _ | writing .. | closingFrame _ | closingSink _ => .working
  | leaving _ => .leaving
  | ended _ => .gone
  | broken => .broken

/-- What an act of a write pump is to the hub, if the pump reads the queue of the
client's connection. -/
def Act.onHub (c : Client) : Act → Option Hub.Act
  | take => some (.use c.connection .read)
  | offer .. | finish => none
  | submit e => some (.submit e)
  | close => some (.use c.connection .close)
  | abandon => some (.use c.connection .abandon)

/-- An attempt to write a frame, after the queue was used or not, is a turn. -/
theorem turn_of_attempt {admission : Admission} {f : Frame} {nextPing : Nat}
    (us : List Switch.Use) (hus : ∀ u ∈ us, OfQueue u) (h : Attempt t s f nextPing q acts) :
    Turn c admission [] .working q.phase
      (us.map (.use c.connection) ++ acts.filterMap (Act.onHub c)) := by
  cases h with
  | done | pending => exact (List.append_nil _).symm ▸ .work us hus
  | failed => exact .hangUp us hus
  | breakdown =>
    have hlast : Turn c admission [] .working .broken
        ((us ++ [Switch.Use.abandon]).map (.use c.connection)) := by
      refine .breakDown _ fun u hu => ?_
      rcases List.mem_append.mp hu with hu | hu
      · exact hus u hu
      · exact ofQueue_abandon u hu
    rwa [List.map_append] at hlast

/-- Taking leave of the peer is a turn. -/
theorem turn_of_farewell {admission : Admission} (h : Farewell t s q acts) :
    Turn c admission [] .working q.phase (acts.filterMap (Act.onHub c)) := by
  cases h with
  | pending | proceed => exact .work [] ofQueue_nil
  | breakdown => exact .breakDown [.abandon] ofQueue_abandon

/-- **A step of a write pump is a turn.** -/
theorem turn_of_step (h : p.step t c s = some (q, acts)) :
    Turn c s.admission [] p.phase q.phase (acts.filterMap (Act.onHub c)) := by
  have hclosing : Turn c s.admission [] .working .leaving [.use c.connection .close] :=
    .hangUp [] ofQueue_nil
  cases step_iff.mp h with
  | start | farewellTimeout => exact .work [] ofQueue_nil
  | never | finishBreakdown => exact .breakDown [.abandon] ofQueue_abandon
  | notice _ hfarewell | drained _ _ hfarewell | retryFarewell _ hfarewell =>
    exact turn_of_farewell hfarewell
  | take _ _ hattempt =>
    exact turn_of_attempt [.read] (fun u hu => Or.inl (List.mem_singleton.mp hu)) hattempt
  | ping _ _ _ hattempt | retry _ hattempt => exact turn_of_attempt [] ofQueue_nil hattempt
  | timeout | finishTimeout | finish => exact hclosing
  | depart hadmission => exact .leave [.abandon] ofQueue_abandon hadmission
  | vanish hadmission => exact .part [.abandon] ofQueue_abandon hadmission

end WritePump

/-! ## The bookkeeping of a session -/

namespace Session

/-- What an act in the bookkeeping of a session is to the hub. -/
def Act.onHub : Act → Option Hub.Act
  | submit e => some (.submit e)
  | giveUp | finish _ => none

end Session

/-! ## Bridges -/

namespace Bridge

variable {b b' : Bridge} {s : Sight} {acts : List Act} {pause : Nat}

/-- The message that a bridge is to submit. -/
def inHand : Bridge → List RoutedMessage
  | forwarding m => [m]
  | _ => []

/-- What an act of a bridge is to the hub. -/
def Act.onHub : Act → Option Hub.Act
  | submit e => some (.submit e)
  | _ => none

/-- **What a bridge does to the hub**: nothing, or it hands over the message that
it holds. -/
theorem step_eq_some (h : b.step pause s = some (b', acts)) :
    acts.filterMap Act.onHub = [] ∨
    ∃ m ∈ b.inHand, s.admission = .admitted ∧
      acts.filterMap Act.onHub = [.submit (.deliver m)] := by
  cases step_iff.mp h with
  | submit hadmission => exact Or.inr ⟨_, List.mem_cons_self, hadmission, rfl⟩
  | cancel | message | skip | closed | fatal | transient | refused | interrupt | resume =>
    exact Or.inl rfl

end Bridge
end Switchboard
