import Switchboard.Proofs.Pump.Readings

/-! # How pumps come to their end

When the connection is closed, a pump can take its next step as soon as the hub answers
and its own deadline has passed (`ReadPump.exists_step`, `WritePump.exists_step`): a
transport that takes nothing holds a write pump up only until its deadlines.

A write pump comes nearer to its end then by every step (`WritePump.left_lt_of_step`).  A
read pump does too, unless it takes something by it, for it may go on reading while there
is something to read (`ReadPump.left_lt_of_step`).  But once it looks to the connection
first, it takes nothing more (`ReadPump.taken_of_closed`).

A transport that takes the pump down with it is another matter (`Socket.Intact`). -/
namespace Switchboard

/-! ## Sockets that take nobody down -/

namespace Socket

variable {k : Socket}

/-- Writing to the socket does not take the writer down. -/
def Intact (k : Socket) : Prop :=
  match k.peer with
  | .locally p => p.mode ≠ .breaking
  | .remote _ => True

instance : (k : Socket) → Decidable k.Intact
  | ⟨_, .locally p⟩ => inferInstanceAs (Decidable (p.mode ≠ .breaking))
  | ⟨_, .remote _⟩ => inferInstanceAs (Decidable True)

theorem Intact.offer_ne (h : k.Intact) (f : Frame) : (k.offer f).1 ≠ .breakdown := by
  rcases k with ⟨arrivals, p | p⟩
  · have hmode : p.mode ≠ .breaking := h
    show (p.offer f).1 ≠ .breakdown
    unfold LocalPeer.offer
    cases hm : p.mode with
    | ready | stalled | failing => exact nofun
    | breaking => exact absurd hm hmode
  · show (p.offer f).1 ≠ .breakdown
    unfold RemotePeer.offer
    split <;> exact nofun

theorem Intact.finish_ne (h : k.Intact) : k.finish.1 ≠ .breakdown := by
  rcases k with ⟨arrivals, p | p⟩
  · have hmode : p.mode ≠ .breaking := h
    show p.finish.1 ≠ .breakdown
    unfold LocalPeer.finish
    cases hm : p.mode with
    | ready | stalled => exact nofun
    | failing => cases p.kept <;> exact nofun
    | breaking => exact absurd hm hmode
  · exact nofun

theorem Intact.take (h : k.Intact) : k.take.Intact := by
  rcases k with ⟨_ | ⟨i, rest⟩, p | p⟩
  · exact h
  · trivial
  · cases i <;> exact h
  · cases i <;> trivial

theorem Intact.offer (h : k.Intact) (f : Frame) : (k.offer f).2.Intact := by
  rcases k with ⟨arrivals, p | p⟩
  · have hmode : p.mode ≠ .breaking := h
    show (p.offer f).2.mode ≠ .breaking
    unfold LocalPeer.offer
    split
    · exact hmode
    · dsimp only
      split <;> exact hmode
  · trivial

theorem Intact.finish (h : k.Intact) : k.finish.2.Intact := by
  rcases k with ⟨arrivals, p | p⟩
  · have hmode : p.mode ≠ .breaking := h
    show p.finish.2.mode ≠ .breaking
    unfold LocalPeer.finish
    split <;> exact hmode
  · trivial

end Socket

/-! ## The read pump -/

namespace ReadPump

variable {p q : ReadPump} {t : Timing} {c : Client} {s : Sight} {acts : List Act}

/-- How many steps a read pump has left at most if it takes nothing more. -/
def left : ReadPump → Nat
  | submitting .. => 3
  | reading _ => 2
  | leaving _ => 1
  | ended _ | broken => 0

/-- **Every step of a read pump** brings it nearer to its end, or it takes something by it. -/
theorem left_lt_of_step (h : p.step t c s = some (q, acts)) :
    q.left < p.left + 2 * (p.taken s).length := by
  cases step_iff.mp h with
  | message hstays harrival | skip hstays harrival | pong hstays harrival | ping hstays harrival
  | farewell hstays harrival | fault hstays harrival | finished hstays harrival
  | breakdown hstays harrival =>
    rw [(takes _ hstays harrival).1]
    simp [left]
  | notice | timeout | submit | refused | depart | vanish =>
    exact Nat.lt_add_right _ (by simp [left])

/-- **A read pump whose connection is closed** can take its next step as soon as the hub
answers, wherever it looks first. -/
theorem exists_step (hclosed : s.closed) (hadmission : s.admission ≠ .wait) (hover : ¬ p.isOver) :
    ∃ q acts, p.step t c s = some (q, acts) := by
  cases hstep : p.step t c s with
  | some next => exact ⟨next.1, next.2, rfl⟩
  | none =>
    rcases step_eq_none_iff.mp hstep with h | hwaits
    · exact absurd h hover
    · cases hwaits with
      | arrival hopen => exact absurd hclosed hopen
      | place hwait | leave hwait => exact absurd hwait hadmission

/-- **A read pump that looks to its closed connection first** takes nothing more. -/
theorem taken_of_closed (hclosed : s.closed) (hfirst : ¬ s.transportFirst) : p.taken s = [] := by
  cases p with
  | reading deadline => exact if_pos (Sight.notices_of_not_transportFirst hclosed hfirst)
  | submitting | leaving | ended | broken => rfl

/-- A read pump that takes nothing is not taken down. -/
theorem ne_broken_of_step (htaken : p.taken s = []) (h : p.step t c s = some (q, acts)) :
    q ≠ .broken := by
  rintro rfl
  cases step_iff.mp h with
  | breakdown hstays harrival =>
    rw [(takes _ hstays harrival).1] at htaken
    cases htaken

theorem not_isOver_of_step (h : p.step t c s = some (q, acts)) : ¬ p.isOver := by
  cases p with
  | ended | broken => cases h
  | reading | submitting | leaving => exact nofun

theorem eq_ended_of_isOver (hover : p.isOver) (hsound : p ≠ .broken) :
    ∃ result, p = .ended result := by
  cases p with
  | ended result => exact ⟨result, rfl⟩
  | broken => exact absurd rfl hsound
  | reading | submitting | leaving => cases hover

end ReadPump

/-! ## The write pump -/

namespace WritePump

variable {p q : WritePump} {t : Timing} {c : Client} {s : Sight} {acts : List Act} {f : Frame}
  {nextPing : Nat}

/-- How many steps a write pump has left at most when the connection is closed. -/
def left : WritePump → Nat
  | starting | writing .. => 5
  | idle _ => 4
  | closingFrame _ => 3
  | closingSink _ => 2
  | leaving _ => 1
  | ended _ | broken => 0

/-- What the transport answers takes nobody down. -/
structure Sight.Intact (s : Sight) : Prop where
  offer : ∀ f, s.offer f ≠ .breakdown
  finish : s.finish ≠ .breakdown

theorem Attempt.left_lt (h : Attempt t s f nextPing q acts) (hreply : s.offer f ≠ .pending) :
    q.left < 5 := by
  cases h with
  | done | failed | breakdown => simp [left]
  | pending hpending => exact absurd hpending hreply

theorem Attempt.ne_broken (h : Attempt t s f nextPing q acts) (hs : s.Intact) : q ≠ .broken := by
  cases h with
  | done | failed | pending => exact nofun
  | breakdown hbreakdown => exact absurd hbreakdown (hs.offer f)

theorem Farewell.left_lt (h : Farewell t s q acts) :
    q.left < 4 ∧ (s.offer (.close none) ≠ .pending → q.left < 3) := by
  cases h with
  | pending hpending => exact ⟨by simp [left], fun h => absurd hpending h⟩
  | breakdown | proceed => exact ⟨by simp [left], fun _ => by simp [left]⟩

theorem Farewell.ne_broken (h : Farewell t s q acts) (hs : s.Intact) : q ≠ .broken := by
  cases h with
  | pending | proceed => exact nofun
  | breakdown hbreakdown => exact absurd hbreakdown (hs.offer _)

/-- **Every step of a write pump whose connection is closed** brings it nearer to its end. -/
theorem left_lt_of_step (hclosed : s.closed) (h : p.step t c s = some (q, acts)) :
    q.left < p.left := by
  cases step_iff.mp h with
  | start | never | timeout | farewellTimeout | finishTimeout | finishBreakdown | finish | depart
  | vanish => simp [left]
  | notice _ hfarewell => exact hfarewell.left_lt.1
  | take hopen | drained hopen | ping hopen => exact absurd hclosed hopen
  | retry hreply hattempt => exact hattempt.left_lt hreply
  | retryFarewell hreply hfarewell => exact hfarewell.left_lt.2 hreply

/-- A write pump is taken down by its transport only, if pings are ever due. -/
theorem ne_broken_of_step (hs : s.Intact) (hperiod : t.pingPeriod ≠ 0)
    (h : p.step t c s = some (q, acts)) : q ≠ .broken := by
  cases step_iff.mp h with
  | start | timeout | farewellTimeout | finishTimeout | finish | depart | vanish => exact nofun
  | never hzero => exact absurd hzero hperiod
  | notice _ hfarewell | drained _ _ hfarewell | retryFarewell _ hfarewell =>
    exact hfarewell.ne_broken hs
  | take _ _ hattempt | ping _ _ _ hattempt | retry _ hattempt => exact hattempt.ne_broken hs
  | finishBreakdown hbreakdown => exact absurd hbreakdown hs.finish

/-- **A write pump whose connection is closed** can take its next step as soon as the hub
answers and the deadline has passed, whatever the transport answers. -/
theorem exists_step (hclosed : s.closed) (hadmission : s.admission ≠ .wait)
    (hlate : ∀ deadline, p.wakeAt? = some deadline → deadline ≤ s.now) (hover : ¬ p.isOver) :
    ∃ q acts, p.step t c s = some (q, acts) := by
  cases hstep : p.step t c s with
  | some next => exact ⟨next.1, next.2, rfl⟩
  | none =>
    rcases step_eq_none_iff.mp hstep with h | hwaits
    · exact absurd h hover
    · cases hwaits with
      | work hopen => exact absurd hclosed hopen
      | write _ hearly | farewell _ hearly | finish _ hearly =>
        exact absurd (hlate _ rfl) (Nat.not_le_of_lt hearly)
      | leave hwait => exact absurd hwait hadmission

theorem not_isOver_of_step (h : p.step t c s = some (q, acts)) : ¬ p.isOver := by
  cases p with
  | ended | broken => cases h
  | starting | idle | writing | closingFrame | closingSink | leaving => exact nofun

theorem eq_ended_of_isOver (hover : p.isOver) (hsound : p ≠ .broken) :
    ∃ result, p = .ended result := by
  cases p with
  | ended result => exact ⟨result, rfl⟩
  | broken => exact absurd rfl hsound
  | starting | idle | writing | closingFrame | closingSink | leaving => cases hover

end WritePump
end Switchboard
