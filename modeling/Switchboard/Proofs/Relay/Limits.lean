import Switchboard.Proofs.Relay.Arrivals
import Switchboard.Proofs.Relay.Teardown

/-! # What a relay can be run with

Valid settings have at least one place in the mailbox and in every queue, and pings
that come, and come before the peer is given up.  With such settings a pump is taken
down by nothing but its transport, and what it waits for is never further away than the
settings say (`ReadPump.Timely.step`, `WritePump.Timely.step`), which is still on the
clock.

How many places there are at most is not validated.  A queue can be made with
`mostPlaces`, and settings that ask for more are as valid as others.  So a relay can be
run with valid settings exactly when both numbers stay within this
(`runnable_iff_of_validate`), while a file of settings can hold any number
(`valid_of_too_many_places`). -/
namespace Switchboard

/-! ## Pumps -/

namespace ReadPump

variable {p q : ReadPump} {t : Timing} {c : Client} {s : Sight} {acts : List Act}
  {now later due : Nat}

/-- The pump was not taken down, and waits no longer than it should. -/
def Timely (t : Timing) (now : Nat) : ReadPump → Prop
  | reading deadline | submitting _ deadline => deadline ≤ now + t.pongWait
  | leaving _ | ended _ => True
  | broken => False

theorem Timely.mono (h : p.Timely t now) (hlater : now ≤ later) : p.Timely t later := by
  cases p with
  | reading deadline | submitting _ deadline =>
    exact Nat.le_trans h (Nat.add_le_add_right hlater t.pongWait)
  | leaving | ended => trivial
  | broken => exact h

/-- **A read pump stays timely** unless the transport takes it down. -/
theorem Timely.step (h : p.Timely t s.now) (hstep : Step t c s p q acts)
    (hsound : s.arrival ≠ some .breakdown) : q.Timely t s.now := by
  cases hstep with
  | message | skip | ping | submit => exact h
  | pong => exact Nat.le_refl _
  | notice | farewell | fault | finished | timeout | refused | depart | vanish => trivial
  | breakdown _ harrival => exact absurd harrival hsound

theorem Timely.ne_broken (h : p.Timely t now) : p ≠ .broken := by
  rintro rfl
  exact h

theorem Timely.due_le (h : p.Timely t now) (hwake : p.wakeAt? = some due) :
    due ≤ now + t.pongWait := by
  cases p with
  | reading deadline =>
    cases hwake
    exact h
  | submitting | leaving | ended | broken => cases hwake

end ReadPump

namespace WritePump

variable {p q : WritePump} {t : Timing} {c : Client} {s : Sight} {acts : List Act} {f : Frame}
  {now later due nextPing : Nat}

/-- The pump was not taken down, and waits no longer than it should, neither for the
transport nor for the next ping. -/
def Timely (t : Timing) (now : Nat) : WritePump → Prop
  | idle nextPing => nextPing ≤ now + t.pingPeriod
  | writing _ deadline nextPing => deadline ≤ now + t.writeWait ∧ nextPing ≤ now + t.pingPeriod
  | closingFrame deadline | closingSink deadline => deadline ≤ now + t.writeWait
  | starting | leaving _ | ended _ => True
  | broken => False

theorem Timely.mono (h : p.Timely t now) (hlater : now ≤ later) : p.Timely t later := by
  have hwait := Nat.add_le_add_right hlater t.writeWait
  have hperiod := Nat.add_le_add_right hlater t.pingPeriod
  cases p with
  | idle nextPing => exact Nat.le_trans h hperiod
  | writing f deadline nextPing => exact ⟨Nat.le_trans h.1 hwait, Nat.le_trans h.2 hperiod⟩
  | closingFrame deadline | closingSink deadline => exact Nat.le_trans h hwait
  | starting | leaving | ended => trivial
  | broken => exact h

theorem Attempt.timely (h : Attempt t s f nextPing q acts) (hs : s.Intact)
    (hping : nextPing ≤ s.now + t.pingPeriod) : q.Timely t s.now := by
  cases h with
  | done => exact hping
  | pending => exact ⟨Nat.le_refl _, hping⟩
  | failed => trivial
  | breakdown hreply => exact absurd hreply (hs.offer f)

theorem Farewell.timely (h : Farewell t s q acts) (hs : s.Intact) : q.Timely t s.now := by
  cases h with
  | pending | proceed => exact Nat.le_refl _
  | breakdown hreply => exact absurd hreply (hs.offer _)

/-- **A write pump stays timely** unless the transport takes it down, as long as pings
have a period. -/
theorem Timely.step (h : p.Timely t s.now) (hstep : Step t c s p q acts) (hs : s.Intact)
    (hperiod : t.pingPeriod ≠ 0) : q.Timely t s.now := by
  cases hstep with
  | start => exact Nat.le_refl _
  | never hnone => exact absurd hnone hperiod
  | notice _ hfarewell | drained _ _ hfarewell | retryFarewell _ hfarewell =>
    exact hfarewell.timely hs
  | take _ _ hattempt => exact hattempt.timely hs h
  | ping _ _ hdue hattempt => exact hattempt.timely hs (pingAfter_le hdue)
  | retry _ hattempt => exact hattempt.timely hs h.2
  | farewellTimeout => exact Nat.le_refl _
  | timeout | finishTimeout | finish | depart | vanish => trivial
  | finishBreakdown hreply => exact absurd hreply hs.finish

theorem Timely.ne_broken (h : p.Timely t now) : p ≠ .broken := by
  rintro rfl
  exact h

theorem Timely.due_le (h : p.Timely t now) (hwake : p.wakeAt? = some due) :
    due ≤ now + max t.writeWait t.pingPeriod := by
  have hwait : now + t.writeWait ≤ now + max t.writeWait t.pingPeriod :=
    Nat.add_le_add_left (Nat.le_max_left _ _) now
  cases p with
  | idle nextPing =>
    cases hwake
    exact Nat.le_trans h (Nat.add_le_add_left (Nat.le_max_right _ _) now)
  | writing f deadline nextPing =>
    cases hwake
    exact Nat.le_trans h.1 hwait
  | closingFrame deadline | closingSink deadline =>
    cases hwake
    exact Nat.le_trans h hwait
  | starting | leaving | ended | broken => cases hwake

end WritePump

/-! ## Sockets -/

namespace Socket

variable {k : Socket}

/-- The peer takes no pump down. -/
structure Peaceful (k : Socket) : Prop where
  intact : k.Intact
  quiet : .breakdown ∉ k.arrivals

/-- What a peer does takes no pump down. -/
def Use.Peaceful : Use → Prop
  | arrive i => i ≠ .breakdown
  | setMode mode => mode ≠ .breaking

theorem Peaceful.take (h : k.Peaceful) : k.take.Peaceful where
  intact := h.intact.take
  quiet := by
    rw [arrivals_take]
    exact fun hin => h.quiet (List.mem_of_mem_tail hin)

theorem Peaceful.offer (h : k.Peaceful) (f : Frame) : (k.offer f).2.Peaceful where
  intact := h.intact.offer f
  quiet := by
    rcases k with ⟨arrivals, p | p⟩
    · exact h.quiet
    · -- a peer answers with frames
      have hanswers : .breakdown ∉ (p.offer f).2.2 := by
        unfold RemotePeer.offer
        split
        · exact List.not_mem_nil
        · cases f <;> simp [RemotePeer.answer]
      exact fun hin => (List.mem_append.mp hin).elim h.quiet hanswers

theorem Peaceful.finish (h : k.Peaceful) : k.finish.2.Peaceful where
  intact := h.intact.finish
  quiet := by
    rcases k with ⟨arrivals, p | p⟩ <;> exact h.quiet

theorem Peaceful.use (h : k.Peaceful) {u : Use} (hu : u.Peaceful) : (u.on k).Peaceful := by
  cases u with
  | arrive i =>
    refine ⟨?_, ?_⟩
    · rcases k with ⟨arrivals, p | p⟩ <;> exact h.intact
    · have hput : ∀ i', i' ≠ .breakdown → .breakdown ∉ k.arrivals ++ [i'] := by
        intro i' hne hin
        rcases List.mem_append.mp hin with hin | hin
        · exact h.quiet hin
        · exact hne (List.mem_singleton.mp hin).symm
      rcases k with ⟨arrivals, p | p⟩
      · cases i <;> exact hput _ hu
      · cases i with
        | fault | finished | breakdown => exact hput _ hu
        | frame f =>
          refine hput (p.arrival f) ?_
          unfold RemotePeer.arrival
          split
          · split <;> exact nofun
          · exact nofun
  | setMode mode =>
    rcases k with ⟨arrivals, p | p⟩
    · exact ⟨hu, h.quiet⟩
    · exact h

theorem Fresh.peaceful (h : k.Fresh) (hintact : k.Intact) : k.Peaceful := by
  cases h with
  | toLocal | toRemote => exact ⟨hintact, List.not_mem_nil⟩

end Socket

/-! ## Relays -/

namespace Relay

variable {P : Population} {r r' : Relay} {a : Act} {n : Nat} {s s' : Session}
  {record : List (Relay × Act)} {settings : Settings}

/-- No transport takes its pump down by an act. -/
def Act.Peaceful : Act → Prop
  | join _ socket => socket.Intact
  | useSocket _ u => u.Peaceful
  | _ => True

/-- Neither the peer nor anything else has taken a pump of a session down, and both
pumps are timely. -/
structure Steady (t : Timing) (now : Nat) (s : Session) : Prop where
  peaceful : s.socket.Peaceful
  reader : ∀ p, s.reader = some p → p.Timely t now
  writer : ∀ q, s.writer = some q → q.Timely t now

/-- The clock does not go back. -/
theorem now_le_of_move (hm : Move P r a r') : r.now ≤ r'.now := by
  cases a with
  | step t =>
    obtain ⟨-, hnow, -, -⟩ := unchanged_of_step (move_step_iff.mp hm)
    exact Nat.le_of_eq hnow.symm
  | arm t =>
    obtain ⟨timers, rfl⟩ := arm_of_move hm
    exact Nat.le_refl r.now
  | wait k =>
    obtain ⟨-, rfl⟩ := hm
    exact Nat.le_add_right r.now k
  | join | reject | useSocket | beginBridge | useInlet | ask | stopHub | shutDown | draw =>
    obtain ⟨-, rfl⟩ := hm
    exact Nat.le_refl _

theorem Steady.mono {t : Timing} {now later : Nat} (h : Steady t now s) (hlater : now ≤ later) :
    Steady t later s where
  peaceful := h.peaceful
  reader p hp := (h.reader p hp).mono hlater
  writer q hq := (h.writer q hq).mono hlater

/-- **Sessions stay steady**, whatever happens but a transport that takes a pump down. -/
theorem steady_of_move
    (hall : ∀ (n : Nat) (s : Session), r.sessions[n]? = some s → Steady r.timing r.now s)
    (hq : r.Joined) (hperiod : r.timing.pingPeriod ≠ 0) (hm : Move P r a r') (ha : a.Peaceful)
    (hs' : r'.sessions[n]? = some s') : Steady r'.timing r'.now s' := by
  rw [timing_of_move hm]
  suffices hnow : Steady r.timing r.now s' from hnow.mono (now_le_of_move hm)
  rcases session_of_move hq hm hs' with ⟨s, hs, ht⟩ | ⟨identity, socket, rfl, -, rfl⟩
  swap
  · exact ⟨hm.1.2.2.peaceful ha, nofun, nofun⟩
  have h := hall n s hs
  cases ht with
  | @read p q acts hp hstep =>
    have hsound : (r.readSight s).arrival ≠ some .breakdown :=
      fun harrival => h.peaceful.quiet (List.mem_of_mem_head? harrival)
    refine ⟨keeps_reading (fun _ hk => hk.take) acts h.peaceful, fun q' hq' => ?_, h.writer⟩
    obtain rfl : q = q' := Option.some.inj hq'
    exact ReadPump.Timely.step (s := r.readSight s) (h.reader p hp) (ReadPump.step_iff.mp hstep)
      hsound
  | @write p q acts hp hstep =>
    have hintact : (r.writeSight s).Intact :=
      ⟨h.peaceful.intact.offer_ne, h.peaceful.intact.finish_ne⟩
    refine ⟨keeps_writing (fun f _ hk => hk.offer f) (fun _ hk => hk.finish) acts h.peaceful,
      h.reader, fun q' hq' => ?_⟩
    obtain rfl : q = q' := Option.some.inj hq'
    exact WritePump.Timely.step (s := r.writeSight s) (h.writer p hp)
      (WritePump.step_iff.mp hstep) hintact hperiod
  | keep hstep =>
    cases Session.step_iff.mp hstep with
    | register =>
      refine ⟨h.peaceful, fun p hp => ?_, fun q hq => ?_⟩
      · obtain rfl : ReadPump.start r.timing r.now = p := Option.some.inj hp
        exact Nat.le_refl _
      · obtain rfl : WritePump.starting = q := Option.some.inj hq
        trivial
    | refuse | finish => exact ⟨h.peaceful, h.reader, h.writer⟩
  | peer u => exact ⟨h.peaceful.use ha, h.reader, h.writer⟩
  | still => exact h

theorem steady_of_run (hperiod : settings.keepalive.pingPeriod ≠ 0)
    (hr : Run (Move P) (.start settings) record r) (hpeaceful : ∀ m ∈ record, m.2.Peaceful)
    (hs : r.sessions[n]? = some s) : Steady r.timing r.now s := by
  induction hr generalizing n s with
  | stay => exact absurd hs not_session_start
  | @move record r r' a hbefore hm ih =>
    have hbefore' : ∀ m ∈ record, m.2.Peaceful :=
      fun m hin => hpeaceful m (List.mem_append_left _ hin)
    exact steady_of_move (fun n s hs => ih hbefore' hs) (run_hub hbefore).2.joined
      (pingPeriod_of_run hbefore hperiod) hm
      (hpeaceful (r, a) (List.mem_append_right _ (List.mem_singleton.mpr rfl))) hs

/-! ## Nothing panics -/

/-- The last moment in milliseconds that the clock can show; it holds the seconds in a
signed number of 64 bits. -/
def lastMoment : Nat := UInt64.size / 2 * 1000 - 1

/-- Nothing in a relay panics, when the clock showed `origin` at its start: a connection
can be opened for whoever comes, no pump was taken down, and the clock can show every
moment that pumps reckon with. -/
structure Unharmed (origin : Nat) (r : Relay) : Prop where
  opens : (Connection.ofCapacity? r.settings.hub.outboundQueueCapacity.toNat).isSome
  reader : ∀ (n : Nat) (s : Session), r.sessions[n]? = some s → s.reader ≠ some .broken
  writer : ∀ (n : Nat) (s : Session), r.sessions[n]? = some s → s.writer ≠ some .broken
  pong : origin + (r.now + r.timing.pongWait) ≤ lastMoment
  ping : origin + (r.now + r.timing.pingPeriod) ≤ lastMoment
  wakes : ∀ (n due : Nat), r.wakeAt? (.reader n) = some due ∨ r.wakeAt? (.writer n) = some due →
    origin + due ≤ lastMoment

/-- The waits of settings are numbers of 64 bits. -/
theorem timing_lt (r : Relay) : r.timing.writeWait < UInt64.size ∧
    r.timing.pongWait < UInt64.size ∧ r.timing.pingPeriod < UInt64.size :=
  ⟨UInt64.toNat_lt _, UInt64.toNat_lt _, UInt64.toNat_lt _⟩

/-- **Runs do no harm** with pings that have a period and queues that can be made. -/
theorem unharmed_of_run {origin : Nat} (hperiod : settings.keepalive.pingPeriod ≠ 0)
    (hopens : (Connection.ofCapacity? settings.hub.outboundQueueCapacity.toNat).isSome)
    (hr : Run (Move P) (.start settings) record r) (hpeaceful : ∀ m ∈ record, m.2.Peaceful)
    (hclock : origin + r.now + UInt64.size ≤ lastMoment) : r.Unharmed origin := by
  obtain ⟨hwrite, hpong, hping⟩ := timing_lt r
  have hsteady : ∀ (n : Nat) (s : Session), r.sessions[n]? = some s → Steady r.timing r.now s :=
    fun _ _ hs => steady_of_run hperiod hr hpeaceful hs
  refine ⟨?_, ?_, ?_, by omega, by omega, ?_⟩
  · rw [settings_of_run hr]
    exact hopens
  · intro n s hs hbroken
    exact ((hsteady n s hs).reader _ hbroken).ne_broken rfl
  · intro n s hs hbroken
    exact ((hsteady n s hs).writer _ hbroken).ne_broken rfl
  · rintro n due (hwake | hwake)
    · obtain ⟨s, hs, hwake⟩ := Option.bind_eq_some_iff.mp hwake
      obtain ⟨p, hp, hwake⟩ := Option.bind_eq_some_iff.mp hwake
      have hdue := ((hsteady n s hs).reader p hp).due_le hwake
      omega
    · obtain ⟨s, hs, hwake⟩ := Option.bind_eq_some_iff.mp hwake
      obtain ⟨q, hq, hwake⟩ := Option.bind_eq_some_iff.mp hwake
      have hdue := ((hsteady n s hs).writer q hq).due_le hwake
      omega

theorem start?_eq_some_iff : start? settings = some r ↔
    settings.hub.eventBuffer.toNat ≤ mostPlaces ∧ r = start settings := by
  have hone : 1 ≤ mostPlaces := by decide
  unfold start? Hub.ofCapacity?
  split
  · next hfits =>
    have hle : settings.hub.eventBuffer.toNat ≤ mostPlaces := by omega
    simp [hle, start, eq_comm]
  · next hlarge =>
    have hnle : ¬ settings.hub.eventBuffer.toNat ≤ mostPlaces := by omega
    simp [hnle]

end Relay

theorem Connection.isSome_ofCapacity?_iff {capacity : Nat} :
    (Connection.ofCapacity? capacity).isSome ↔ capacity ≤ mostPlaces := by
  have hone : 1 ≤ mostPlaces := by decide
  unfold Connection.ofCapacity?
  split <;> simp <;> omega

namespace Settings

variable {settings : Settings}

theorem validate_eq_ok_iff : settings.validate = .ok () ↔
    settings.hub.outboundQueueCapacity ≠ 0 ∧ settings.hub.eventBuffer ≠ 0 ∧
      settings.keepalive.writeWait ≠ 0 ∧ settings.keepalive.pingPeriod ≠ 0 ∧
      settings.keepalive.pingPeriod < settings.keepalive.pongWait ∧
      ¬ settings.bus.topics.any String.isEmpty := by
  unfold validate
  split
  · next hqueue => exact ⟨nofun, fun h => absurd hqueue h.1⟩
  next hqueue =>
  split
  · next hbuffer => exact ⟨nofun, fun h => absurd hbuffer h.2.1⟩
  next hbuffer =>
  split
  · next hwrite => exact ⟨nofun, fun h => absurd hwrite h.2.2.1⟩
  next hwrite =>
  split
  · next hping =>
    refine ⟨nofun, fun ⟨_, _, _, hperiod, hless, _⟩ => ?_⟩
    rcases hping with hzero | hle
    · exact absurd hzero hperiod
    · exact absurd hless (UInt64.not_lt.mpr hle)
  next hping =>
  obtain ⟨hperiod, hless⟩ := not_or.mp hping
  split
  · next htopics => exact ⟨nofun, fun h => absurd htopics h.2.2.2.2.2⟩
  · next htopics =>
    exact ⟨fun _ => ⟨hqueue, hbuffer, hwrite, hperiod, UInt64.not_le.mp hless, htopics⟩,
      fun _ => rfl⟩

/-- A relay can be run with settings, from any moment of the clock on: it can be started,
and nothing in it panics before the clock comes to its end, unless a transport takes its
pump down. -/
def Runnable (settings : Settings) : Prop :=
  ∃ r₀, Relay.start? settings = some r₀ ∧
    ∀ (P : Population) (origin : Nat) (record : List (Relay × Relay.Act)) (r : Relay),
      Run (Relay.Move P) r₀ record r → (∀ m ∈ record, m.2.Peaceful) →
      origin + r.now + UInt64.size ≤ Relay.lastMoment → r.Unharmed origin

/-- What can be run has no more places anywhere than a queue can be made with: otherwise
there is no relay to start, or it cannot serve anybody from the start. -/
theorem Runnable.places_le (h : settings.Runnable) :
    settings.hub.eventBuffer.toNat ≤ mostPlaces ∧
      settings.hub.outboundQueueCapacity.toNat ≤ mostPlaces := by
  obtain ⟨r₀, hstart, hruns⟩ := h
  obtain ⟨hfits, rfl⟩ := Relay.start?_eq_some_iff.mp hstart
  have hclock : 0 + 0 + UInt64.size ≤ Relay.lastMoment := by decide
  have hopens := (hruns (.ofIdentities fun _ => .ofParts "" "" []) 0 [] _ .stay
    (fun _ hin => nomatch hin) hclock).opens
  exact ⟨hfits, Connection.isSome_ofCapacity?_iff.mp hopens⟩

/-- **What valid settings can be run with.**  There is at least one place everywhere, and
pings come, and before the peer is given up.  Nothing panics then, exactly when the
mailbox and the queues are to have no more places than a queue can be made with. -/
theorem runnable_iff_of_validate (hvalid : settings.validate = .ok ()) :
    0 < settings.hub.eventBuffer ∧ 0 < settings.hub.outboundQueueCapacity ∧
      0 < settings.keepalive.pingPeriod ∧
      settings.keepalive.pingPeriod < settings.keepalive.pongWait ∧
      (settings.Runnable ↔ settings.hub.eventBuffer.toNat ≤ mostPlaces ∧
        settings.hub.outboundQueueCapacity.toNat ≤ mostPlaces) := by
  obtain ⟨hqueue, hbuffer, -, hperiod, hless, -⟩ := validate_eq_ok_iff.mp hvalid
  refine ⟨UInt64.pos_iff_ne_zero.mpr hbuffer, UInt64.pos_iff_ne_zero.mpr hqueue,
    UInt64.pos_iff_ne_zero.mpr hperiod, hless, Runnable.places_le, ?_⟩
  rintro ⟨hfits, hplaces⟩
  refine ⟨_, Relay.start?_eq_some_iff.mpr ⟨hfits, rfl⟩, ?_⟩
  intro P origin record r hr hpeaceful hclock
  exact Relay.unharmed_of_run hperiod (Connection.isSome_ofCapacity?_iff.mpr hplaces) hr
    hpeaceful hclock

/-- The default settings can be run. -/
theorem runnable_iff_of_validate_default :
    ({} : Settings).validate = .ok () ∧ ({} : Settings).Runnable := by
  have hvalid : ({} : Settings).validate = .ok () := by decide
  obtain ⟨-, -, -, -, hrunnable⟩ := runnable_iff_of_validate hvalid
  exact ⟨hvalid, hrunnable.mpr ⟨by decide, by decide⟩⟩

/-- Valid settings need not fit: with one place too many in the mailbox no relay can be
started, and with one too many in the queues nobody can be served. -/
theorem valid_of_too_many_places :
    let large : Settings := { hub := { eventBuffer := 2305843009213693952 } }
    let wide : Settings := { hub := { outboundQueueCapacity := 2305843009213693952 } }
    large.validate = .ok () ∧ Relay.start? large = none ∧ ¬ large.Runnable ∧
      wide.validate = .ok () ∧ Relay.start? wide = some (.start wide) ∧
      Connection.ofCapacity? wide.hub.outboundQueueCapacity.toNat = none ∧ ¬ wide.Runnable := by
  intro large wide
  have hlarge : ¬ large.Runnable := fun h => absurd h.places_le.1 (by decide)
  have hwide : ¬ wide.Runnable := fun h => absurd h.places_le.2 (by decide)
  exact ⟨by decide, rfl, hlarge, by decide, rfl, rfl, hwide⟩

end Settings
end Switchboard
