import Switchboard.Proofs.Pump.Endings
import Switchboard.Proofs.Relay.Ghosts

/-! # How sessions come to their end

When one pump of a session is over, the connection is closed, and then the other
pump needs nobody from outside to come to its end as well: it is enough that the
hub goes on, that time passes, and that the pump gets its turns (`Closing.ends`).
A submission waits only until the hub has taken up what waits before it
(`Closing.answered`), a peer that takes nothing is given up at a deadline, and a read
pump may look to its connection at any moment.  So with every step the pumps come
nearer to their ends (`ReadPump.left`, `WritePump.left`). -/
namespace Switchboard

namespace Socket

variable {k : Socket}

theorem Intact.reading (h : k.Intact) (acts : List ReadPump.Act) :
    (acts.foldl (fun k x => Relay.onReading x k) k).Intact :=
  Relay.keeps_reading (fun _ h => h.take) acts h

theorem Intact.writing (h : k.Intact) (acts : List WritePump.Act) :
    (acts.foldl (fun k x => Relay.onWriting x k) k).Intact :=
  Relay.keeps_writing (fun f _ h => h.offer f) (fun _ h => h.finish) acts h

end Socket

namespace Hub

variable {P : Population} {capacity : Nat} {h h' : Hub} {a : Act} {record : List (Hub × Act)}

theorem places_of_move (hm : Move P h a h') : h'.places = h.places := by
  cases a with
  | submit e =>
    obtain ⟨-, -, -, -, rfl⟩ := hm
    rfl
  | work => rcases step_eq_some hm with ⟨e, rest, -, -, rfl⟩ | ⟨-, rfl⟩ <;> rfl
  | askStop | abandon =>
    obtain rfl := hm
    rfl
  | use id u =>
    obtain ⟨-, rfl⟩ := hm
    rfl

/-- A mailbox has a place. -/
theorem places_pos (hr : Run (Move P) (.ofCapacity capacity) record h) : 0 < h.places :=
  hr.invariant (I := fun h => 0 < h.places) (fun _ _ _ hp hm => (places_of_move hm).symm ▸ hp)
    (Nat.lt_of_lt_of_le Nat.zero_lt_one (Nat.le_max_right _ _))

/-- **A hub for which one has to wait goes on**: it answers afterwards, or there is
less in its mailbox. -/
theorem exists_step_of_wait (hr : Run (Move P) (.ofCapacity capacity) record h)
    (hwait : h.admission = .wait) :
    ∃ h', h.step = some h' ∧
      (h'.admission ≠ .wait ∨ h'.mailbox.length < h.mailbox.length) := by
  have hrunning : ¬ h.stopped := by
    intro hstopped
    rw [admission, if_pos hstopped] at hwait
    cases hwait
  have hfull : ¬ h.mailbox.length < h.places := by
    intro hplace
    rw [admission, if_neg hrunning, if_pos hplace] at hwait
    cases hwait
  rw [step, if_neg hrunning]
  by_cases hasked : h.stopAsked
  · exact ⟨h.stop, if_pos hasked, Or.inl (by simp [stop, admission])⟩
  · rw [if_neg hasked]
    cases hmail : h.mailbox with
    | nil =>
      rw [hmail] at hfull
      exact absurd (places_pos hr) hfull
    | cons e rest => exact ⟨_, rfl, Or.inr (Nat.lt_succ_self _)⟩

end Hub

namespace Relay

variable {P : Population} {capacity : Nat} {r r' r'' : Relay} {a : Act} {n : Nat}
  {s s' : Session} {hubs : List (Hub × Hub.Act)} {record : List (Relay × Act)}
  {settings : Settings}

/-! ## Sessions that are left to themselves -/

/-- What happens when a session is left to itself: the hub and the session go on,
wherever its read pump looks first, and time passes. -/
def Act.OfSession (n : Nat) : Act → Prop
  | step .hub | wait _ | draw _ => True
  | step (.session m) | step (.reader m) | step (.writer m) => m = n
  | _ => False

/-- Whether it leads from a relay to a relay that a session is left to itself. -/
def Leads (P : Population) (n : Nat) (r r' : Relay) : Prop :=
  ∃ later, Run (Move P) r later r' ∧ ∀ m ∈ later, m.2.OfSession n

theorem Leads.rfl : Leads P n r r := ⟨[], .stay, fun _ hm => nomatch hm⟩

theorem Leads.trans : Leads P n r r' → Leads P n r' r'' → Leads P n r r'' := by
  rintro ⟨before, h, hbefore⟩ ⟨after, h', hafter⟩
  refine ⟨before ++ after, h.append h', fun m hm => ?_⟩
  rcases List.mem_append.mp hm with hm | hm
  · exact hbefore m hm
  · exact hafter m hm

theorem Leads.of_move (hm : Move P r a r') (ha : a.OfSession n) : Leads P n r r' :=
  ⟨[(r, a)], Run.stay.move hm, fun _ hm => List.mem_singleton.mp hm ▸ ha⟩

theorem settings_of_move (hm : Move P r a r') : r'.settings = r.settings := by
  cases a with
  | step t => exact (unchanged_of_step (move_step_iff.mp hm)).1
  | arm t =>
    obtain ⟨timers, rfl⟩ := arm_of_move hm
    rfl
  | wait | join | reject | useSocket | beginBridge | useInlet | ask | stopHub | shutDown | draw =>
    obtain ⟨-, rfl⟩ := hm
    rfl

theorem settings_of_run (hr : Run (Move P) (.start settings) record r) : r.settings = settings :=
  hr.invariant (I := fun r => r.settings = settings)
    (fun _ _ _ hs hm => (settings_of_move hm).trans hs) rfl

theorem timing_of_move (hm : Move P r a r') : r'.timing = r.timing := by
  rw [timing, settings_of_move hm]
  rfl

theorem pingPeriod_of_run (hr : Run (Move P) (.start settings) record r)
    (hperiod : settings.keepalive.pingPeriod ≠ 0) : r.timing.pingPeriod ≠ 0 := by
  show r.settings.keepalive.pingPeriod.toNat ≠ 0
  rw [settings_of_run hr]
  exact fun hzero => hperiod (UInt64.toNat_inj.mp hzero)

/-- The connection of a session that is closed stays so. -/
theorem Based.closed_of_move (hb : Based P r)
    (hr : Run (Hub.Move P) (.ofCapacity capacity) hubs r.hub) (hm : Move P r a r')
    (hs : r.sessions[n]? = some s) (hclosed : (r.connection s.client).closed) :
    (r'.connection s.client).closed := by
  refine (hb.keep (I := fun h => s.client.connection ∈ h.switch.connections ∧
    (h.switch.connection s.client.connection).closed) hr hm ?_ ⟨hb.opened n s hs, hclosed⟩).2
  rintro hubs h h' b hr hmove - ⟨ho, hclosed⟩
  exact ⟨Hub.grows_of_move hmove (Hub.mailed_of_run hr) _ ho,
    Hub.closed_of_move hr hmove (hb.known n s hs) ho hclosed⟩

/-! ## Sessions whose connection is closed -/

/-- A session of a relay has a closed connection, and its socket takes nobody down. -/
structure Closing (P : Population) (settings : Settings) (n : Nat) (r : Relay) (s : Session) :
    Prop where
  reached : ∃ record, Run (Move P) (.start settings) record r
  here : r.sessions[n]? = some s
  closed : (r.connection s.client).closed
  intact : s.socket.Intact

namespace Closing

theorem move (h : Closing P settings n r s) (hm : Move P r a r') (hs' : r'.sessions[n]? = some s')
    (hclient : s'.client = s.client) (hintact : s'.socket.Intact) :
    Closing P settings n r' s' := by
  obtain ⟨record, hr⟩ := h.reached
  obtain ⟨hhub, hb⟩ := run_hub hr
  refine ⟨⟨_, hr.move hm⟩, hs', ?_, hintact⟩
  rw [hclient]
  exact hb.closed_of_move hhub hm h.here h.closed

/-- **Whoever waits for the hub gets an answer**, at any time that may be wished for. -/
theorem answered (h : Closing P settings n r s) (time : Nat) :
    ∃ r', Leads P n r r' ∧ Closing P settings n r' s ∧ r'.hub.admission ≠ .wait ∧
      time ≤ r'.now := by
  -- time passes first: the deadline must stay behind while the hub is waited for
  suffices hall : ∀ (k : Nat) (r : Relay), Closing P settings n r s → time ≤ r.now →
      r.hub.mailbox.length = k → ∃ r', Leads P n r r' ∧ Closing P settings n r' s ∧
        r'.hub.admission ≠ .wait ∧ time ≤ r'.now by
    have hlater : Move P r (.wait time) { r with now := r.now + time } := ⟨trivial, rfl⟩
    obtain ⟨r', hleads, hanswered⟩ := hall _ _ (h.move hlater h.here rfl h.intact)
      (Nat.le_add_left time r.now) rfl
    exact ⟨r', (Leads.of_move hlater trivial).trans hleads, hanswered⟩
  -- what waits in the mailbox is taken up, event by event
  intro k
  induction k using Nat.strongRecOn with
  | ind k ih =>
    intro r h htime hk
    by_cases hwait : r.hub.admission = .wait
    swap
    · exact ⟨r, .rfl, h, hwait, htime⟩
    obtain ⟨record, hr⟩ := h.reached
    obtain ⟨hub, hstep, hnext⟩ := Hub.exists_step_of_wait (run_hub hr).1 hwait
    have hm : Move P r (.step .hub) { r with hub := hub } :=
      move_step_iff.mpr (by simp [step, stepHub, hstep])
    have h' := h.move hm h.here rfl h.intact
    rcases hnext with hanswered | hless
    · exact ⟨_, .of_move hm trivial, h', hanswered, htime⟩
    · obtain ⟨r', hleads, hrest⟩ := ih _ (hk ▸ hless) _ h' htime rfl
      exact ⟨r', (Leads.of_move hm trivial).trans hleads, hrest⟩

/-- **The read pump comes nearer to its end.** -/
theorem read {p : ReadPump} (h : Closing P settings n r s) (hp : s.reader = some p)
    (hover : ¬ p.isOver) :
    ∃ r' s' q, Leads P n r r' ∧ Closing P settings n r' s' ∧ s'.reader = some q ∧
      s'.writer = s.writer ∧ q.left < p.left ∧ q ≠ .broken := by
  obtain ⟨r₁, hleads, h₁, hanswered, -⟩ := h.answered 0
  -- the pump looks to the connection first from now on
  have hdraw : Move P r₁ (.draw false) { r₁ with transportFirst := false } := ⟨trivial, rfl⟩
  generalize hr₂ : { r₁ with transportFirst := false } = r₂ at hdraw
  have h₂ : Closing P settings n r₂ s := h₁.move hdraw (hr₂ ▸ h₁.here) rfl h₁.intact
  have hadmission : (r₂.readSight s).admission ≠ .wait := by
    rw [← hr₂]
    exact hanswered
  have hfirst : ¬ (r₂.readSight s).transportFirst := by
    rw [← hr₂]
    exact Bool.false_ne_true
  obtain ⟨q, acts, hdo⟩ := ReadPump.exists_step (p := p) (t := r₂.timing) (c := s.client)
    h₂.closed hadmission hover
  have htaken := ReadPump.taken_of_closed (p := p) h₂.closed hfirst
  have hleft := ReadPump.left_lt_of_step hdo
  rw [htaken] at hleft
  have hm : Move P r₂ (.step (.reader n)) ((Act.step (.reader n)).next r₂) :=
    move_step (by simp [step, stepReader, h₂.here, hp, hdo])
  obtain ⟨record, hr⟩ := h₂.reached
  obtain ⟨s', hs', hturn⟩ := turn_of_move (run_hub hr).2.joined hm h₂.here
  cases hturn with
  | still ha => exact absurd rfl ha
  | read hp' hdo' =>
    obtain rfl := Option.some.inj (hp.symm.trans hp')
    obtain ⟨rfl, rfl⟩ := Prod.mk.inj (Option.some.inj (hdo.symm.trans hdo'))
    exact ⟨_, _, q, (hleads.trans (.of_move hdraw trivial)).trans (.of_move hm rfl),
      h₂.move hm hs' rfl (h.intact.reading acts), rfl, rfl, hleft,
      ReadPump.ne_broken_of_step htaken hdo⟩

/-- **The write pump comes nearer to its end.** -/
theorem write {p : WritePump} (h : Closing P settings n r s) (hp : s.writer = some p)
    (hperiod : settings.keepalive.pingPeriod ≠ 0) (hover : ¬ p.isOver) :
    ∃ r' s' q, Leads P n r r' ∧ Closing P settings n r' s' ∧ s'.writer = some q ∧
      s'.reader = s.reader ∧ q.left < p.left ∧ q ≠ .broken := by
  obtain ⟨r₁, hleads, h₁, hanswered, hlate⟩ := h.answered (p.wakeAt?.getD 0)
  obtain ⟨record, hr⟩ := h₁.reached
  obtain ⟨q, acts, hdo⟩ := WritePump.exists_step (p := p) (t := r₁.timing)
    (c := s.client) (s := r₁.writeSight s) h₁.closed hanswered
    (fun deadline hwake => by rw [hwake] at hlate; exact hlate) hover
  have hleft := WritePump.left_lt_of_step h₁.closed hdo
  have hsound := WritePump.ne_broken_of_step ⟨h.intact.offer_ne, h.intact.finish_ne⟩
    (pingPeriod_of_run hr hperiod) hdo
  have hm : Move P r₁ (.step (.writer n)) ((Act.step (.writer n)).next r₁) :=
    move_step (by simp [step, stepWriter, h₁.here, hp, hdo])
  obtain ⟨s', hs', hturn⟩ := turn_of_move (run_hub hr).2.joined hm h₁.here
  cases hturn with
  | still ha => exact absurd rfl ha
  | write hp' hdo' =>
    obtain rfl := Option.some.inj (hp.symm.trans hp')
    obtain ⟨rfl, rfl⟩ := Prod.mk.inj (Option.some.inj (hdo.symm.trans hdo'))
    exact ⟨_, _, q, hleads.trans (.of_move hm rfl), h₁.move hm hs' rfl (h.intact.writing acts),
      rfl, rfl, hleft, hsound⟩

/-- **Both pumps come to their ends** when the connection is closed and none of them is
taken down. -/
theorem ends {p : ReadPump} {q : WritePump} (h : Closing P settings n r s)
    (hp : s.reader = some p) (hq : s.writer = some q) (hread : p ≠ .broken) (hwrite : q ≠ .broken)
    (hperiod : settings.keepalive.pingPeriod ≠ 0) :
    ∃ r' s' read write, Leads P n r r' ∧ Closing P settings n r' s' ∧
      s'.reader = some (.ended read) ∧ s'.writer = some (.ended write) := by
  -- a step of one pump leaves the other where it is, so the sum of what is left falls
  generalize hk : p.left + q.left = k
  induction k using Nat.strongRecOn generalizing r s p q with
  | ind k ih =>
    by_cases hover : p.isOver
    swap
    · obtain ⟨r₁, s₁, p₁, hleads, h₁, hp₁, hq₁, hleft, hread₁⟩ := h.read hp hover
      obtain ⟨r', s', read, write, hleads', hend⟩ :=
        ih _ (by omega) h₁ hp₁ (hq₁.trans hq) hread₁ hwrite rfl
      exact ⟨r', s', read, write, hleads.trans hleads', hend⟩
    by_cases hover' : q.isOver
    swap
    · obtain ⟨r₁, s₁, q₁, hleads, h₁, hq₁, hp₁, hleft, hwrite₁⟩ := h.write hq hperiod hover'
      obtain ⟨r', s', read, write, hleads', hend⟩ :=
        ih _ (by omega) h₁ (hp₁.trans hp) hq₁ hread hwrite₁ rfl
      exact ⟨r', s', read, write, hleads.trans hleads', hend⟩
    obtain ⟨read, rfl⟩ := ReadPump.eq_ended_of_isOver hover hread
    obtain ⟨write, rfl⟩ := WritePump.eq_ended_of_isOver hover' hwrite
    exact ⟨r, s, read, write, .rfl, h, hp, hq⟩

end Closing
end Relay
end Switchboard
