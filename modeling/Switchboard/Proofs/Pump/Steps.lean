import Switchboard.Bus.Bridge
import Switchboard.Session

/-! # The steps of pumps, sessions and bridges

Each of these machines has a relation that tells all the ways in which it can take
a step: from which state to which other, by which acts, and what it must have seen
for that.  A step of the machine is a step of the relation and the other way round
(`ReadPump.step_iff`, `WritePump.step_iff`, `Session.step_iff`, `Bridge.step_iff`),
so what is proved of a machine has one case for every way. -/
namespace Switchboard

/-! ## The read pump -/

namespace ReadPump

namespace Sight

variable {s : Sight} {deadline : Nat}

theorem closed_of_notices (h : s.notices deadline) : s.closed := (Bool.and_eq_true_iff.mp h).1

/-- A pump that looks to the connection first takes notice that it is closed. -/
theorem notices_of_not_transportFirst (hclosed : s.closed) (hfirst : ¬ s.transportFirst) :
    s.notices deadline := by
  simp [notices, hclosed, hfirst]

/-- So does every pump that would have to wait for the transport. -/
theorem notices_of_not_ready (hclosed : s.closed) (hready : ¬ s.ready deadline) :
    s.notices deadline := by
  simp [notices, hclosed, hready]

theorem not_ready_iff : ¬ s.ready deadline ↔ s.arrival = none ∧ s.now < deadline := by
  simp [ready]

end Sight

/-- The ways in which a read pump takes a step. -/
inductive Step (t : Timing) (c : Client) (s : Sight) : ReadPump → ReadPump → List Act → Prop
  | notice {deadline : Nat} (hnotices : s.notices deadline) :
    Step t c s (reading deadline) (leaving none) [.close]
  | message {deadline : Nat} {f : Frame} {bytes : Bytes} {m : ClientMessage}
    (hstays : ¬ s.notices deadline) (harrival : s.arrival = some (.frame f))
    (hdata : f.data? = some bytes) (hparse : ClientMessage.parse bytes = .ok m) :
    Step t c s (reading deadline) (submitting m.routed deadline) [.take]
  | skip {deadline : Nat} {f : Frame} {bytes : Bytes} {e : CodecError}
    (hstays : ¬ s.notices deadline) (harrival : s.arrival = some (.frame f))
    (hdata : f.data? = some bytes) (hparse : ClientMessage.parse bytes = .error e) :
    Step t c s (reading deadline) (reading deadline) [.take, .skip e]
  | pong {deadline : Nat} {data : Bytes}
    (hstays : ¬ s.notices deadline) (harrival : s.arrival = some (.frame (.pong data))) :
    Step t c s (reading deadline) (reading (s.now + t.pongWait)) [.take]
  | ping {deadline : Nat} {data : Bytes}
    (hstays : ¬ s.notices deadline) (harrival : s.arrival = some (.frame (.ping data))) :
    Step t c s (reading deadline) (reading deadline) [.take]
  | farewell {deadline : Nat} {reason : Option (Nat × String)}
    (hstays : ¬ s.notices deadline) (harrival : s.arrival = some (.frame (.close reason))) :
    Step t c s (reading deadline) (leaving none) [.take, .close]
  | fault {deadline : Nat} {reason : String}
    (hstays : ¬ s.notices deadline) (harrival : s.arrival = some (.fault reason)) :
    Step t c s (reading deadline) (leaving (some (.read reason))) [.take, .close]
  | finished {deadline : Nat}
    (hstays : ¬ s.notices deadline) (harrival : s.arrival = some .finished) :
    Step t c s (reading deadline) (leaving (some .unexpectedEnd)) [.take, .close]
  | breakdown {deadline : Nat}
    (hstays : ¬ s.notices deadline) (harrival : s.arrival = some .breakdown) :
    Step t c s (reading deadline) broken [.take]
  | timeout {deadline : Nat} (hstays : ¬ s.notices deadline) (harrival : s.arrival = none)
    (hlate : deadline ≤ s.now) :
    Step t c s (reading deadline) (leaving (some (.readTimeout (nanoseconds t.pongWait)))) [.close]
  | submit {deadline : Nat} {m : RoutedMessage} (hadmission : s.admission = .admitted) :
    Step t c s (submitting m deadline) (reading deadline) [.submit (.deliver m)]
  | refused {deadline : Nat} {m : RoutedMessage} (hadmission : s.admission = .refused) :
    Step t c s (submitting m deadline) (leaving none) [.close]
  | depart {result : Option TransportFault} (hadmission : s.admission = .admitted) :
    Step t c s (leaving result) (ended result) [.submit (.unregister c)]
  | vanish {result : Option TransportFault} (hadmission : s.admission = .refused) :
    Step t c s (leaving result) (ended result) []

variable {p q : ReadPump} {t : Timing} {c : Client} {s : Sight} {acts : List Act}

/-- **The steps of a read pump are these.** -/
theorem step_iff : p.step t c s = some (q, acts) ↔ Step t c s p q acts := by
  constructor
  · intro h
    cases p with
    | ended | broken => cases h
    | leaving result =>
      rw [step] at h
      split at h
      · next hadmission =>
        cases h
        exact .depart hadmission
      · cases h
      · next hadmission =>
        cases h
        exact .vanish hadmission
    | submitting m deadline =>
      rw [step] at h
      split at h
      · next hadmission =>
        cases h
        exact .submit hadmission
      · cases h
      · next hadmission =>
        cases h
        exact .refused hadmission
    | reading deadline =>
      rw [step] at h
      split at h
      · next hnotices =>
        cases h
        exact .notice hnotices
      next hstays =>
      split at h
      · next f harrival =>
        cases f with
        | text | binary =>
          simp only [handle] at h
          split at h
          · next hparse =>
            cases h
            exact .message hstays harrival rfl hparse
          · next hparse =>
            cases h
            exact .skip hstays harrival rfl hparse
        | ping =>
          cases h
          exact .ping hstays harrival
        | pong =>
          cases h
          exact .pong hstays harrival
        | close reason =>
          cases h
          exact .farewell hstays harrival
      · next harrival =>
        cases h
        exact .fault hstays harrival
      · next harrival =>
        cases h
        exact .finished hstays harrival
      · next harrival =>
        cases h
        exact .breakdown hstays harrival
      · next harrival =>
        split at h
        · next hlate =>
          cases h
          exact .timeout hstays harrival hlate
        · cases h
  · intro h
    cases h with
    | notice hnotices => exact if_pos hnotices
    | @message _ f _ _ hstays harrival hdata hparse =>
      rw [step, if_neg hstays, harrival]
      cases f with
      | text | binary =>
        cases hdata
        simp only [handle, Frame.data?, Option.getD_some, hparse]
      | ping | pong | close => cases hdata
    | @skip _ f _ _ hstays harrival hdata hparse =>
      rw [step, if_neg hstays, harrival]
      cases f with
      | text | binary =>
        cases hdata
        simp only [handle, Frame.data?, Option.getD_some, hparse]
      | ping | pong | close => cases hdata
    | pong hstays harrival | ping hstays harrival | farewell hstays harrival =>
      rw [step, if_neg hstays, harrival]
      rfl
    | fault hstays harrival | finished hstays harrival | breakdown hstays harrival =>
      rw [step, if_neg hstays, harrival]
    | timeout hstays harrival hlate =>
      rw [step, if_neg hstays, harrival]
      exact if_pos hlate
    | submit hadmission | refused hadmission | depart hadmission | vanish hadmission =>
      rw [step, hadmission]

/-- What a read pump has to wait for. -/
inductive Waits (s : Sight) : ReadPump → Prop
  | arrival {deadline : Nat} (hopen : ¬ s.closed) (harrival : s.arrival = none)
    (hearly : s.now < deadline) : Waits s (reading deadline)
  | place {m : RoutedMessage} {deadline : Nat} (hadmission : s.admission = .wait) :
    Waits s (submitting m deadline)
  | leave {result : Option TransportFault} (hadmission : s.admission = .wait) :
    Waits s (leaving result)

/-- **A read pump goes on** unless it is over or has to wait. -/
theorem step_eq_none_iff : p.step t c s = none ↔ p.isOver ∨ p.Waits s := by
  constructor
  · intro h
    cases p with
    | ended | broken => exact Or.inl rfl
    | submitting m deadline =>
      rw [step] at h
      split at h
      · cases h
      · next hadmission => exact Or.inr (.place hadmission)
      · cases h
    | leaving result =>
      rw [step] at h
      split at h
      · cases h
      · next hadmission => exact Or.inr (.leave hadmission)
      · cases h
    | reading deadline =>
      rw [step] at h
      split at h
      · cases h
      next hstays =>
      split at h
      · cases h
      · cases h
      · cases h
      · cases h
      · next harrival =>
        split at h
        · cases h
        · next hearly =>
          have hopen : ¬ s.closed := fun hclosed => hstays (Sight.notices_of_not_ready hclosed
            (Sight.not_ready_iff.mpr ⟨harrival, Nat.lt_of_not_le hearly⟩))
          exact Or.inr (.arrival hopen harrival (Nat.lt_of_not_le hearly))
  · rintro (hover | hwaits)
    · cases p with
      | ended | broken => rfl
      | reading | submitting | leaving => cases hover
    · cases hwaits with
      | arrival hopen harrival hearly =>
        rw [step, if_neg (fun h => hopen (Sight.closed_of_notices h)), harrival]
        exact if_neg (Nat.not_le_of_lt hearly)
      | place hadmission | leave hadmission => rw [step, hadmission]

end ReadPump

/-! ## The write pump -/

namespace WritePump

/-- What becomes of an attempt to write a frame. -/
inductive Attempt (t : Timing) (s : Sight) (f : Frame) (nextPing : Nat) :
    WritePump → List Act → Prop
  | done (hreply : s.offer f = .done) :
    Attempt t s f nextPing (idle nextPing) [.offer f .done]
  | pending (hreply : s.offer f = .pending) :
    Attempt t s f nextPing (writing f (s.now + t.writeWait) nextPing) [.offer f .pending]
  | failed {reason : String} (hreply : s.offer f = .failed reason) :
    Attempt t s f nextPing (leaving (some (.write reason))) [.offer f (.failed reason), .close]
  | breakdown (hreply : s.offer f = .breakdown) :
    Attempt t s f nextPing broken [.offer f .breakdown, .abandon]

/-- What becomes of an attempt to take leave of the peer. -/
inductive Farewell (t : Timing) (s : Sight) : WritePump → List Act → Prop
  | pending (hreply : s.offer (.close none) = .pending) :
    Farewell t s (closingFrame (s.now + t.writeWait)) [.offer (.close none) .pending]
  | breakdown (hreply : s.offer (.close none) = .breakdown) :
    Farewell t s broken [.offer (.close none) .breakdown, .abandon]
  | proceed (hpending : s.offer (.close none) ≠ .pending)
    (hbreakdown : s.offer (.close none) ≠ .breakdown) :
    Farewell t s (closingSink (s.now + t.writeWait))
      [.offer (.close none) (s.offer (.close none))]

/-- The ways in which a write pump takes a step. -/
inductive Step (t : Timing) (c : Client) (s : Sight) : WritePump → WritePump → List Act → Prop
  | start (hperiod : t.pingPeriod ≠ 0) :
    Step t c s starting (idle (s.now + t.pingPeriod)) []
  | never (hperiod : t.pingPeriod = 0) :
    Step t c s starting broken [.abandon]
  | notice {nextPing : Nat} {q : WritePump} {acts : List Act} (hclosed : s.closed)
    (hfarewell : Farewell t s q acts) :
    Step t c s (idle nextPing) q acts
  | take {nextPing : Nat} {payload : Payload} {q : WritePump} {acts : List Act}
    (hopen : ¬ s.closed) (hqueue : s.queue = .payload payload)
    (hattempt : Attempt t s payload.frame nextPing q acts) :
    Step t c s (idle nextPing) q (.take :: acts)
  | drained {nextPing : Nat} {q : WritePump} {acts : List Act} (hopen : ¬ s.closed)
    (hqueue : s.queue = .ended) (hfarewell : Farewell t s q acts) :
    Step t c s (idle nextPing) q acts
  | ping {nextPing : Nat} {q : WritePump} {acts : List Act} (hopen : ¬ s.closed)
    (hqueue : s.queue = .empty) (hdue : nextPing ≤ s.now)
    (hattempt : Attempt t s (.ping []) (pingAfter t s.now nextPing) q acts) :
    Step t c s (idle nextPing) q acts
  | retry {f : Frame} {deadline nextPing : Nat} {q : WritePump} {acts : List Act}
    (hreply : s.offer f ≠ .pending) (hattempt : Attempt t s f nextPing q acts) :
    Step t c s (writing f deadline nextPing) q acts
  | timeout {f : Frame} {deadline nextPing : Nat} (hreply : s.offer f = .pending)
    (hlate : deadline ≤ s.now) :
    Step t c s (writing f deadline nextPing)
      (leaving (some (.writeTimeout (nanoseconds t.writeWait)))) [.close]
  | retryFarewell {deadline : Nat} {q : WritePump} {acts : List Act}
    (hreply : s.offer (.close none) ≠ .pending) (hfarewell : Farewell t s q acts) :
    Step t c s (closingFrame deadline) q acts
  | farewellTimeout {deadline : Nat} (hreply : s.offer (.close none) = .pending)
    (hlate : deadline ≤ s.now) :
    Step t c s (closingFrame deadline) (closingSink (s.now + t.writeWait)) []
  | finishTimeout {deadline : Nat} (hreply : s.finish = .pending) (hlate : deadline ≤ s.now) :
    Step t c s (closingSink deadline) (leaving none) [.close]
  | finishBreakdown {deadline : Nat} (hreply : s.finish = .breakdown) :
    Step t c s (closingSink deadline) broken [.finish, .abandon]
  | finish {deadline : Nat} (hpending : s.finish ≠ .pending)
    (hbreakdown : s.finish ≠ .breakdown) :
    Step t c s (closingSink deadline) (leaving none) [.finish, .close]
  | depart {result : Option TransportFault} (hadmission : s.admission = .admitted) :
    Step t c s (leaving result) (ended result) [.submit (.unregister c), .abandon]
  | vanish {result : Option TransportFault} (hadmission : s.admission = .refused) :
    Step t c s (leaving result) (ended result) [.abandon]

variable {p q : WritePump} {t : Timing} {c : Client} {s : Sight} {acts : List Act} {f : Frame}
  {nextPing : Nat}

/-- The next ping after one that is begun now is due within a period. -/
theorem pingAfter_le {now due : Nat} (hdue : due ≤ now) :
    pingAfter t now due ≤ now + t.pingPeriod := by
  unfold pingAfter
  split <;> omega

theorem write_iff : write t s f nextPing = (q, acts) ↔ Attempt t s f nextPing q acts := by
  constructor
  · intro h
    rw [write] at h
    split at h
    · next hreply =>
      cases h
      exact .done hreply
    · next hreply =>
      cases h
      exact .pending hreply
    · next hreply =>
      cases h
      exact .failed hreply
    · next hreply =>
      cases h
      exact .breakdown hreply
  · intro h
    cases h with
    | done hreply | pending hreply | failed hreply | breakdown hreply => rw [write, hreply]

theorem beginClose_iff : beginClose t s = (q, acts) ↔ Farewell t s q acts := by
  rw [beginClose]
  constructor
  · intro h
    split at h
    · next hreply =>
      cases h
      exact .pending hreply
    · next hreply =>
      cases h
      exact .breakdown hreply
    · next hpending hbreakdown =>
      cases h
      exact .proceed hpending hbreakdown
  · intro h
    cases h with
    | pending hreply | breakdown hreply => rw [hreply]
    | proceed hpending hbreakdown =>
      split
      · next hreply => exact absurd hreply hpending
      · next hreply => exact absurd hreply hbreakdown
      · rfl

/-- **The steps of a write pump are these.** -/
theorem step_iff : p.step t c s = some (q, acts) ↔ Step t c s p q acts := by
  constructor
  · intro h
    cases p with
    | ended | broken => cases h
    | starting =>
      rw [step] at h
      split at h
      · next hperiod =>
        cases h
        exact .never hperiod
      · next hperiod =>
        cases h
        exact .start hperiod
    | idle nextPing =>
      rw [step] at h
      split at h
      · next hclosed => exact .notice hclosed (beginClose_iff.mp (Option.some.inj h))
      next hopen =>
      split at h
      · next hqueue =>
        cases h
        exact .take hopen hqueue (write_iff.mp rfl)
      · next hqueue => exact .drained hopen hqueue (beginClose_iff.mp (Option.some.inj h))
      · next hqueue =>
        split at h
        · next hdue => exact .ping hopen hqueue hdue (write_iff.mp (Option.some.inj h))
        · cases h
    | writing f deadline nextPing =>
      rw [step] at h
      split at h
      · next hreply =>
        split at h
        · next hlate =>
          cases h
          exact .timeout hreply hlate
        · cases h
      · next hreply => exact .retry hreply (write_iff.mp (Option.some.inj h))
    | closingFrame deadline =>
      rw [step] at h
      split at h
      · next hreply =>
        split at h
        · next hlate =>
          cases h
          exact .farewellTimeout hreply hlate
        · cases h
      · next hreply => exact .retryFarewell hreply (beginClose_iff.mp (Option.some.inj h))
    | closingSink deadline =>
      rw [step] at h
      split at h
      · next hreply =>
        split at h
        · next hlate =>
          cases h
          exact .finishTimeout hreply hlate
        · cases h
      · next hreply =>
        cases h
        exact .finishBreakdown hreply
      · next hpending hbreakdown =>
        cases h
        exact .finish hpending hbreakdown
    | leaving result =>
      rw [step] at h
      split at h
      · next hadmission =>
        cases h
        exact .depart hadmission
      · cases h
      · next hadmission =>
        cases h
        exact .vanish hadmission
  · intro h
    cases h with
    | start hperiod => exact if_neg hperiod
    | never hperiod => exact if_pos hperiod
    | notice hclosed hfarewell =>
      rw [step, if_pos hclosed, beginClose_iff.mpr hfarewell]
    | take hopen hqueue hattempt =>
      rw [step, if_neg hopen, hqueue]
      dsimp only
      rw [write_iff.mpr hattempt]
    | drained hopen hqueue hfarewell =>
      rw [step, if_neg hopen, hqueue, beginClose_iff.mpr hfarewell]
    | ping hopen hqueue hdue hattempt =>
      rw [step, if_neg hopen, hqueue]
      dsimp only
      rw [if_pos hdue, write_iff.mpr hattempt]
    | retry hreply hattempt =>
      rw [step]
      split
      · next hpending => exact absurd hpending hreply
      · rw [write_iff.mpr hattempt]
    | timeout hreply hlate | farewellTimeout hreply hlate | finishTimeout hreply hlate =>
      rw [step, hreply]
      exact if_pos hlate
    | retryFarewell hreply hfarewell =>
      rw [step]
      split
      · next hpending => exact absurd hpending hreply
      · rw [beginClose_iff.mpr hfarewell]
    | finishBreakdown hreply => rw [step, hreply]
    | finish hpending hbreakdown =>
      rw [step]
      split
      · next hreply => exact absurd hreply hpending
      · next hreply => exact absurd hreply hbreakdown
      · rfl
    | depart hadmission | vanish hadmission => rw [step, hadmission]

/-- What a write pump has to wait for. -/
inductive Waits (s : Sight) : WritePump → Prop
  | work {nextPing : Nat} (hopen : ¬ s.closed) (hqueue : s.queue = .empty)
    (hearly : s.now < nextPing) : Waits s (idle nextPing)
  | write {f : Frame} {deadline nextPing : Nat} (hreply : s.offer f = .pending)
    (hearly : s.now < deadline) : Waits s (writing f deadline nextPing)
  | farewell {deadline : Nat} (hreply : s.offer (.close none) = .pending)
    (hearly : s.now < deadline) : Waits s (closingFrame deadline)
  | finish {deadline : Nat} (hreply : s.finish = .pending) (hearly : s.now < deadline) :
    Waits s (closingSink deadline)
  | leave {result : Option TransportFault} (hadmission : s.admission = .wait) :
    Waits s (leaving result)

/-- **A write pump goes on** unless it is over or has to wait. -/
theorem step_eq_none_iff : p.step t c s = none ↔ p.isOver ∨ p.Waits s := by
  constructor
  · intro h
    cases p with
    | ended | broken => exact Or.inl rfl
    | starting =>
      rw [step] at h
      split at h <;> cases h
    | idle nextPing =>
      rw [step] at h
      split at h
      · cases h
      next hopen =>
      split at h
      · cases h
      · cases h
      · next hqueue =>
        split at h
        · cases h
        · next hearly => exact Or.inr (.work hopen hqueue (Nat.lt_of_not_le hearly))
    | writing f deadline nextPing =>
      rw [step] at h
      split at h
      · next hreply =>
        split at h
        · cases h
        · next hearly => exact Or.inr (.write hreply (Nat.lt_of_not_le hearly))
      · cases h
    | closingFrame deadline =>
      rw [step] at h
      split at h
      · next hreply =>
        split at h
        · cases h
        · next hearly => exact Or.inr (.farewell hreply (Nat.lt_of_not_le hearly))
      · cases h
    | closingSink deadline =>
      rw [step] at h
      split at h
      · next hreply =>
        split at h
        · cases h
        · next hearly => exact Or.inr (.finish hreply (Nat.lt_of_not_le hearly))
      · cases h
      · cases h
    | leaving result =>
      rw [step] at h
      split at h
      · cases h
      · next hadmission => exact Or.inr (.leave hadmission)
      · cases h
  · rintro (hover | hwaits)
    · cases p with
      | ended | broken => rfl
      | starting | idle | writing | closingFrame | closingSink | leaving => cases hover
    · cases hwaits with
      | work hopen hqueue hearly =>
        rw [step, if_neg hopen, hqueue]
        exact if_neg (Nat.not_le_of_lt hearly)
      | write hreply hearly | farewell hreply hearly | finish hreply hearly =>
        rw [step, hreply]
        exact if_neg (Nat.not_le_of_lt hearly)
      | leave hadmission => rw [step, hadmission]

end WritePump

/-! ## The bookkeeping of a session -/

namespace Session

/-- The ways in which the bookkeeping of a session takes a step. -/
inductive Step (t : Timing) (now : Nat) (admission : Admission) (s : Session) :
    Session → List Act → Prop
  | register (hstage : s.stage = .opening) (hadmission : admission = .admitted) :
    Step t now admission s
      { s with stage := .serving, reader := some (.start t now), writer := some .starting }
      [.submit (.register s.client)]
  | refuse (hstage : s.stage = .opening) (hadmission : admission = .refused) :
    Step t now admission s { s with stage := .refused } [.giveUp]
  | finish (hstage : s.stage = .serving) (hover : s.pumpsOver) :
    Step t now admission s { s with stage := .ended s.reason } [.finish s.reason]

variable {s s' : Session} {t : Timing} {now : Nat} {admission : Admission} {acts : List Act}

/-- **The steps in the bookkeeping of a session are these.** -/
theorem step_iff : s.step t now admission = some (s', acts) ↔ Step t now admission s s' acts := by
  constructor
  · intro h
    unfold step at h
    split at h
    · next hstage =>
      split at h
      · cases h
        exact .register hstage rfl
      · cases h
      · cases h
        exact .refuse hstage rfl
    · next hstage =>
      split at h
      · next hover =>
        cases h
        exact .finish hstage hover
      · cases h
    · cases h
  · intro h
    cases h with
    | register hstage hadmission | refuse hstage hadmission =>
      unfold step
      rw [hstage, hadmission]
    | finish hstage hover =>
      unfold step
      rw [hstage]
      exact if_pos hover

end Session

/-! ## Bridges -/

namespace Bridge

/-- The ways in which a bridge takes a step. -/
inductive Step (pause : Nat) (s : Sight) : Bridge → Bridge → List Act → Prop
  | cancel (hcancelled : s.cancelled) : Step pause s receiving (ended .cancelled) [.leave]
  | message {record : Bus.Record} {m : RoutedMessage} (hrunning : ¬ s.cancelled)
    (harrival : s.arrival = some (.ok record))
    (hdecode : RoutedMessage.ofRecord record.payload = .ok m) :
    Step pause s receiving (forwarding m) [.take, .record]
  | skip {record : Bus.Record} {e : CodecError} (hrunning : ¬ s.cancelled)
    (harrival : s.arrival = some (.ok record))
    (hdecode : RoutedMessage.ofRecord record.payload = .error e) :
    Step pause s receiving receiving [.take, .record, .skip e]
  | closed (hrunning : ¬ s.cancelled) (harrival : s.arrival = some (.error .closed)) :
    Step pause s receiving (ended .consumerClosed) [.take, .failure .closed, .leave]
  | fatal {reason : String} (hrunning : ¬ s.cancelled)
    (harrival : s.arrival = some (.error (.fatal reason))) :
    Step pause s receiving (ended (.consumerFailed reason)) [.take, .failure (.fatal reason), .leave]
  | transient {reason : String} (hrunning : ¬ s.cancelled)
    (harrival : s.arrival = some (.error (.transient reason))) :
    Step pause s receiving (pausing (s.now + pause)) [.take, .failure (.transient reason)]
  | submit {m : RoutedMessage} (hadmission : s.admission = .admitted) :
    Step pause s (forwarding m) receiving [.submit (.deliver m)]
  | refused {m : RoutedMessage} (hadmission : s.admission = .refused) :
    Step pause s (forwarding m) (ended .hubStopped) [.leave]
  | interrupt {wake : Nat} (hcancelled : s.cancelled) :
    Step pause s (pausing wake) (ended .cancelled) [.leave]
  | resume {wake : Nat} (hrunning : ¬ s.cancelled) (hwake : wake ≤ s.now) :
    Step pause s (pausing wake) receiving []

variable {b b' : Bridge} {s : Sight} {acts : List Act} {pause : Nat}

/-- **The steps of a bridge are these.** -/
theorem step_iff : b.step pause s = some (b', acts) ↔ Step pause s b b' acts := by
  constructor
  · intro h
    cases b with
    | ended => cases h
    | receiving =>
      rw [step] at h
      split at h
      · next hcancelled =>
        cases h
        exact .cancel hcancelled
      next hrunning =>
      split at h
      · next harrival =>
        simp only [handle] at h
        split at h
        · next hdecode =>
          cases h
          exact .message hrunning harrival hdecode
        · next hdecode =>
          cases h
          exact .skip hrunning harrival hdecode
      · next f harrival =>
        cases f with
        | closed =>
          cases h
          exact .closed hrunning harrival
        | fatal reason =>
          cases h
          exact .fatal hrunning harrival
        | transient reason =>
          cases h
          exact .transient hrunning harrival
      · cases h
    | forwarding m =>
      rw [step] at h
      split at h
      · next hadmission =>
        cases h
        exact .submit hadmission
      · cases h
      · next hadmission =>
        cases h
        exact .refused hadmission
    | pausing wake =>
      rw [step] at h
      split at h
      · next hcancelled =>
        cases h
        exact .interrupt hcancelled
      next hrunning =>
      split at h
      · next hwake =>
        cases h
        exact .resume hrunning hwake
      · cases h
  · intro h
    cases h with
    | cancel hcancelled | interrupt hcancelled => exact if_pos hcancelled
    | message hrunning harrival hdecode | skip hrunning harrival hdecode =>
      rw [step, if_neg hrunning, harrival]
      simp only [handle, hdecode]
    | closed hrunning harrival | fatal hrunning harrival | transient hrunning harrival =>
      rw [step, if_neg hrunning, harrival]
      rfl
    | submit hadmission | refused hadmission => rw [step, hadmission]
    | resume hrunning hwake =>
      rw [step, if_neg hrunning, if_pos hwake]

end Bridge
end Switchboard
