import Switchboard.Proofs.Pump.Steps

/-! # How long a peer waits for a ping

The write pump is watched over time (`Watch`).  At each moment it takes a step if it
can, by what it sees then, and else it waits for a millisecond; what it sees may be
anything, so a list of sights stands for any schedule of payloads and any conduct of
the transport.  What is remembered is when the last ping was begun and how many payloads
were begun since although a ping was due: the queue comes first, so a payload overtakes
a ping (`begins_ping_iff`).

Every such payload puts the ping off by at most the time that a frame may take to be
written, and nothing else does: while the pump writes or waits, the last ping was begun
no longer ago than the ping period, one such time and one more for every payload that
overtook the next ping (`now_le_of_inLoop`).  So pings keep their distance as long as no
payload overtakes them; under steady traffic there is no bound at all
(`exists_unpinged`). -/
namespace Switchboard
namespace WritePump

variable {t : Timing} {c : Client} {q : WritePump} {s : Sight} {acts : List Act} {nextPing : Nat}

/-! ## What a pump begins to write -/

/-- Whether a step begins to write a ping. -/
def beginsPing : WritePump → List Act → Bool
  | idle _, .offer (.ping _) _ :: _ => true
  | _, _ => false

/-- Whether a step begins to write a payload although a ping is due. -/
def overtakesPing (now : Nat) : WritePump → List Act → Bool
  | idle nextPing, .take :: _ => nextPing ≤ now
  | _, _ => false

theorem beginsPing_of_attempt {later : Nat} (hattempt : Attempt t s (.ping []) later q acts) :
    beginsPing (idle nextPing) acts = true := by
  cases hattempt <;> rfl

/-- **The queue comes before a ping**: on an open connection a ping is begun if it is due
and nothing is queued, and only then. -/
theorem begins_ping_iff (hopen : ¬ s.closed) :
    (∃ q acts, (idle nextPing).step t c s = some (q, acts) ∧
        beginsPing (idle nextPing) acts = true) ↔ s.queue = .empty ∧ nextPing ≤ s.now := by
  constructor
  · rintro ⟨q, acts, hstep, hbegins⟩
    cases step_iff.mp hstep with
    | notice hclosed => exact absurd hclosed hopen
    | take => cases hbegins
    | drained _ _ hfarewell => cases hfarewell <;> cases hbegins
    | ping _ hqueue hdue => exact ⟨hqueue, hdue⟩
  · rintro ⟨hqueue, hdue⟩
    have hattempt := write_iff.mp (Eq.refl (write t s (.ping []) (pingAfter t s.now nextPing)))
    exact ⟨_, _, step_iff.mpr (.ping hopen hqueue hdue hattempt), beginsPing_of_attempt hattempt⟩

/-! ## Over time -/

/-- Whether a pump is waiting for something to write, or writing it. -/
def InLoop : WritePump → Prop
  | idle _ | writing .. => True
  | _ => False

/-- A write pump over time. -/
structure Watch where
  now : Nat
  pump : WritePump
  /-- When the last ping was begun, or the pump if there was none. -/
  lastPing : Nat
  /-- How many payloads were begun since then although a ping was due. -/
  overtaking : Nat

namespace Watch

/-- A pump that begins. -/
def start (now : Nat) : Watch := ⟨now, .starting, now, 0⟩

/-- After a step. -/
def after (q : WritePump) (acts : List Act) (w : Watch) : Watch where
  now := w.now
  pump := q
  lastPing := if beginsPing w.pump acts then w.now else w.lastPing
  overtaking :=
    if beginsPing w.pump acts then 0
    else if overtakesPing w.now w.pump acts then w.overtaking + 1
    else w.overtaking

/-- What comes next: a step by what the pump sees now, or a millisecond later if it has to
wait. -/
def next (t : Timing) (c : Client) (w : Watch) (s : Sight) : Watch :=
  match w.pump.step t c { s with now := w.now } with
  | some (q, acts) => w.after q acts
  | none => { w with now := w.now + 1 }

/-- A pump from its begin on, with what it sees one time after the other. -/
def run (t : Timing) (c : Client) (now : Nat) (sights : List Sight) : Watch :=
  sights.foldl (next t c) (start now)

variable {w : Watch}

/-! ## The distance between pings -/

/-- How far a ping may be put off by so many payloads that overtake it. -/
def latest (t : Timing) (w : Watch) : Nat :=
  w.lastPing + t.pingPeriod + (w.overtaking + 1) * t.writeWait

/-- What is so at every moment: the next ping becomes due within a period after the last
one, and the pump is not busy for longer than the ping may be put off. -/
def InTime (t : Timing) (w : Watch) : Prop :=
  match w.pump with
  | .starting => w.now = w.lastPing
  | .idle nextPing => nextPing ≤ w.lastPing + t.pingPeriod ∧ w.now ≤ w.latest t
  | .writing _ deadline nextPing =>
    nextPing ≤ w.lastPing + t.pingPeriod ∧ w.now ≤ deadline ∧ deadline ≤ w.latest t
  | _ => True

theorem inTime_start (t : Timing) (now : Nat) : (start now).InTime t := rfl

/-- A pump that has to wait is in time a millisecond later: it would not wait if its
ping were due or its frame late. -/
theorem InTime.wait (h : w.InTime t) (hnow : s.now = w.now) (hstep : w.pump.step t c s = none) :
    InTime t { w with now := w.now + 1 } := by
  unfold InTime at h ⊢
  cases hpump : w.pump with
  | starting =>
    rw [hpump, step] at hstep
    split at hstep <;> cases hstep
  | idle nextPing =>
    rw [hpump] at h hstep
    have hearly : w.now < nextPing := by
      rw [step] at hstep
      split at hstep
      · cases hstep
      split at hstep
      · cases hstep
      · cases hstep
      · split at hstep
        · cases hstep
        · next hdue =>
          rw [hnow] at hdue
          exact Nat.lt_of_not_le hdue
    refine ⟨h.1, ?_⟩
    show w.now + 1 ≤ w.lastPing + t.pingPeriod + (w.overtaking + 1) * t.writeWait
    have hdue := h.1
    omega
  | writing f deadline nextPing =>
    rw [hpump] at h hstep
    have hearly : w.now < deadline := by
      rw [step] at hstep
      split at hstep
      · split at hstep
        · cases hstep
        · next hlate =>
          rw [hnow] at hlate
          exact Nat.lt_of_not_le hlate
      · cases hstep
    exact ⟨h.1, hearly, h.2.2⟩
  | closingFrame | closingSink | leaving | ended | broken => trivial

/-- A frame that is begun early enough is written, or given up, in time. -/
theorem inTime_of_attempt {f : Frame} (hpump : w.pump = q)
    (hnow : s.now = w.now) (hattempt : Attempt t s f nextPing q acts)
    (hping : nextPing ≤ w.lastPing + t.pingPeriod)
    (hlatest : w.now + t.writeWait ≤ w.latest t) : w.InTime t := by
  unfold InTime
  rw [hpump]
  cases hattempt with
  | done => exact ⟨hping, Nat.le_trans (Nat.le_add_right _ _) hlatest⟩
  | pending =>
    rw [hnow]
    exact ⟨hping, Nat.le_add_right _ _, hlatest⟩
  | failed | breakdown => trivial

theorem inTime_of_farewell (hpump : w.pump = q) (hfarewell : Farewell t s q acts) :
    w.InTime t := by
  unfold InTime
  rw [hpump]
  cases hfarewell <;> trivial

/-- What is remembered after a payload is begun. -/
theorem after_take (q : WritePump) (acts : List Act) (nextPing now lastPing overtaking : Nat) :
    after q (.take :: acts) ⟨now, idle nextPing, lastPing, overtaking⟩ =
      ⟨now, q, lastPing, if nextPing ≤ now then overtaking + 1 else overtaking⟩ := by
  simp [Watch.after, beginsPing, overtakesPing]

/-- What is remembered after a ping is begun. -/
theorem after_ping {later : Nat} (hattempt : Attempt t s (.ping []) later q acts)
    (now lastPing overtaking : Nat) :
    Watch.after q acts ⟨now, idle nextPing, lastPing, overtaking⟩ = ⟨now, q, now, 0⟩ := by
  have hbegins : beginsPing (idle nextPing) acts = true := beginsPing_of_attempt hattempt
  simp [Watch.after, hbegins]

/-- **Every step keeps the pump in time.** -/
theorem InTime.after (h : w.InTime t) (hnow : s.now = w.now) (hstep : Step t c s w.pump q acts) :
    (w.after q acts).InTime t := by
  obtain ⟨now, pump, lastPing, overtaking⟩ := w
  dsimp only at hnow hstep
  cases hstep with
  | start hperiod =>
    obtain rfl : now = lastPing := h
    refine ⟨?_, ?_⟩
    · rw [hnow]
      exact Nat.le_refl _
    · show now ≤ now + t.pingPeriod + (overtaking + 1) * t.writeWait
      omega
  | @take nextPing payload q acts hopen hqueue hattempt =>
    obtain ⟨hdue, hlatest⟩ := h
    dsimp only [latest] at hdue hlatest
    rw [after_take]
    refine inTime_of_attempt rfl hnow hattempt hdue ?_
    -- Before the ping is due the frame has its own time, and later it adds to the delay.
    dsimp only [latest]
    split
    · rw [Nat.add_mul (overtaking + 1), Nat.one_mul]
      omega
    · rw [Nat.add_mul, Nat.one_mul]
      omega
  | ping hopen hqueue hdue hattempt =>
    rw [after_ping hattempt]
    rw [hnow] at hdue hattempt
    refine inTime_of_attempt rfl hnow hattempt (pingAfter_le hdue) ?_
    show now + t.writeWait ≤ now + t.pingPeriod + (0 + 1) * t.writeWait
    omega
  | retry hreply hattempt =>
    -- The frame was begun before, and it is not late yet.
    obtain ⟨hdue, hbusy, hlatest⟩ := h
    cases hattempt with
    | pending hpending => exact absurd hpending hreply
    | done => exact ⟨hdue, Nat.le_trans hbusy hlatest⟩
    | failed | breakdown => trivial
  | notice _ hfarewell | drained _ _ hfarewell | retryFarewell _ hfarewell =>
    exact inTime_of_farewell rfl hfarewell
  | never | timeout | farewellTimeout | finishTimeout | finishBreakdown | finish | depart | vanish =>
    trivial

theorem InTime.next (h : w.InTime t) (s : Sight) : (w.next t c s).InTime t := by
  unfold Watch.next
  split
  · next q acts hstep => exact h.after rfl (step_iff.mp hstep)
  · next hstep => exact h.wait rfl hstep

theorem inTime_run (t : Timing) (c : Client) (now : Nat) (sights : List Sight) :
    (run t c now sights).InTime t := by
  unfold run
  have hstart := inTime_start t now
  generalize start now = w at hstart
  induction sights generalizing w with
  | nil => exact hstart
  | cons s sights ih => exact ih _ (hstart.next s)

/-- **The distance between pings.**  As long as a pump writes or waits for something to
write, its last ping was begun no longer ago than the ping period, the time that a frame
may take to be written, and such a time more for every payload that was begun since
although a ping was due.  So pings that no payload overtakes are at most the ping period
and one such time apart. -/
theorem now_le_of_inLoop {t : Timing} {c : Client} {now : Nat} {sights : List Sight}
    (hloop : (run t c now sights).pump.InLoop) :
    (run t c now sights).now ≤ (run t c now sights).lastPing + t.pingPeriod +
      ((run t c now sights).overtaking + 1) * t.writeWait := by
  have hinTime := inTime_run t c now sights
  generalize run t c now sights = w at hloop hinTime ⊢
  obtain ⟨now, pump, lastPing, overtaking⟩ := w
  cases pump with
  | idle nextPing => exact hinTime.2
  | writing f deadline nextPing => exact Nat.le_trans hinTime.2.1 hinTime.2.2
  | starting | closingFrame | closingSink | leaving | ended | broken => exact hloop.elim

/-- Two payloads that are written while a ping is due. -/
theorem now_le_of_inLoop_overtaken :
    let t : Timing := ⟨2, 10, 1⟩
    let anna : Client := ⟨⟨1⟩, .ofParts "anna" "acme" []⟩
    let busy : Sight := ⟨0, false, .payload ⟨[0x61]⟩, .admitted, fun _ => .pending, .done⟩
    let ready : Sight := { busy with offer := fun _ => .done }
    let w := run t anna 0 [busy, busy, busy, ready, busy, busy, ready, busy]
    w.pump.InLoop ∧ w.overtaking = 2 ∧ w.now ≤ w.lastPing + 1 + (2 + 1) * 2 := by
  intro t anna busy ready w
  have hloop : w.pump.InLoop := trivial
  have hovertaking : w.overtaking = 2 := rfl
  have hnow : w.now ≤ w.lastPing + t.pingPeriod + (w.overtaking + 1) * t.writeWait :=
    now_le_of_inLoop hloop
  rw [hovertaking] at hnow
  exact ⟨hloop, hovertaking, hnow⟩

/-- **A payload overtakes a ping that is due.**  The connection is open and every frame
is written within two milliseconds, but when the ping has been due since the first
millisecond the pump still begins to write the next payload, and when the queue is empty
at last, the ping begins in the fourth: later than its period and the time for a frame
allow. -/
theorem payload_overtakes_ping :
    let t : Timing := ⟨2, 10, 1⟩
    let anna : Client := ⟨⟨1⟩, .ofParts "anna" "acme" []⟩
    let busy : Sight := ⟨0, false, .payload ⟨[0x61]⟩, .admitted, fun _ => .pending, .done⟩
    let ready : Sight := { busy with offer := fun _ => .done }
    let quiet : Sight := { ready with queue := .empty }
    let first := [busy, busy, busy, ready]
    let later := first ++ [busy, busy, busy, ready, busy, busy, ready]
    ((run t anna 0 first).pump = .idle 1 ∧ (run t anna 0 first).now = 1 ∧
        (run t anna 0 (first ++ [busy])).pump = .writing (Payload.frame ⟨[0x61]⟩) 3 1) ∧
      (run t anna 0 later).lastPing = 0 ∧ (run t anna 0 (later ++ [quiet])).lastPing = 4 ∧
        0 + t.pingPeriod + t.writeWait < 4 := by
  intro t anna busy ready quiet first later
  exact ⟨⟨rfl, rfl, rfl⟩, rfl, rfl, by decide⟩

/-! ## Steady traffic -/

section Traffic

variable (payload : Payload)

/-- What the pump sees while there is something to write and the transport is not
ready, or is. -/
def traffic (reply : Reply) : Sight :=
  ⟨0, false, .payload payload, .admitted, fun _ => reply, .done⟩

/-- A payload that takes a millisecond to be written. -/
def delivery : List Sight :=
  [traffic payload .pending, traffic payload .pending, traffic payload .done]

/-- The pump writes the payload, though a ping may be due. -/
theorem foldl_delivery (hwait : 0 < t.writeWait) (hpump : w.pump = idle nextPing) :
    ∃ overtaking, (delivery payload).foldl (next t c) w =
      ⟨w.now + 1, idle nextPing, w.lastPing, overtaking⟩ := by
  obtain ⟨now, pump, lastPing, overtaking⟩ := w
  obtain rfl : pump = idle nextPing := hpump
  have hearly : ¬ now + t.writeWait ≤ now := by omega
  refine ⟨if nextPing ≤ now then overtaking + 1 else overtaking, ?_⟩
  simp [delivery, traffic, next, step, write, Watch.after, beginsPing, overtakesPing, hearly]

theorem foldl_deliveries (hwait : 0 < t.writeWait)
    (hpump : w.pump = idle nextPing) (n : Nat) :
    ∃ overtaking, (List.replicate n (delivery payload)).flatten.foldl (next t c) w =
      ⟨w.now + n, idle nextPing, w.lastPing, overtaking⟩ := by
  induction n generalizing w with
  | zero =>
    obtain ⟨now, pump, lastPing, overtaking⟩ := w
    obtain rfl : pump = idle nextPing := hpump
    exact ⟨overtaking, rfl⟩
  | succ n ih =>
    obtain ⟨overtaking, hfirst⟩ := foldl_delivery (c := c) payload hwait hpump
    rw [List.replicate_succ, List.flatten_cons, List.foldl_append, hfirst]
    obtain ⟨overtaking', hlater⟩ := ih (w := ⟨w.now + 1, idle nextPing, w.lastPing, overtaking⟩) rfl
    refine ⟨overtaking', hlater.trans ?_⟩
    rw [Nat.add_assoc, Nat.add_comm 1 n]

/-- **There is no bound to the distance between pings**: whatever the timing, and though
the connection stays open and every payload is written in a millisecond, the first ping
may be put off for as long as one likes. -/
theorem exists_unpinged (hwait : 0 < t.writeWait) (hperiod : 0 < t.pingPeriod) (c : Client)
    (n : Nat) :
    ∃ sights : List Sight, (∀ s ∈ sights, ¬ s.closed) ∧ (run t c 0 sights).now = n ∧
      (run t c 0 sights).pump = idle t.pingPeriod ∧ (run t c 0 sights).lastPing = 0 := by
  let payload : Payload := ⟨[]⟩
  let begun : Sight := traffic payload .pending
  have hstart : next t c (start 0) begun = ⟨0, idle t.pingPeriod, 0, 0⟩ := by
    have hne : t.pingPeriod ≠ 0 := Nat.ne_of_gt hperiod
    simp [next, start, step, Watch.after, beginsPing, overtakesPing, hne]
  obtain ⟨overtaking, hrun⟩ := foldl_deliveries (c := c) payload hwait
    (w := ⟨0, idle t.pingPeriod, 0, 0⟩) rfl n
  refine ⟨begun :: (List.replicate n (delivery payload)).flatten, ?_, ?_⟩
  · intro s hs
    have hopen : ∀ reply, ¬ (traffic payload reply).closed := fun _ => Bool.false_ne_true
    rcases List.mem_cons.mp hs with rfl | hs
    · exact hopen _
    · obtain ⟨sights, hsights, hs⟩ := List.mem_flatten.mp hs
      obtain rfl := List.eq_of_mem_replicate hsights
      simp only [delivery, List.mem_cons, List.not_mem_nil, or_false] at hs
      rcases hs with rfl | rfl | rfl <;> exact hopen _
  · rw [run, List.foldl_cons, hstart, hrun]
    exact ⟨Nat.zero_add n, rfl, rfl⟩

end Traffic

end Watch
end WritePump
end Switchboard
