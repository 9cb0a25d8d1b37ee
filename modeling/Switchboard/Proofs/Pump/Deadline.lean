import Switchboard.Proofs.Pump.Readings

/-! # How long a peer may go without a pong

The read pump is watched over time (`Watch`), on an open connection and at a hub that has
a place for every message as long as it has not stopped.  Each item comes at a time of its
own.  At each moment the pump takes a step if it can, and else it waits for a millisecond.

The deadline is that of the begin until a pong comes, and then that of the last pong
(`deadlineAfter`); nothing else moves it.  As long as every item comes by the deadline that
is current then, and none ends the pump, the peer keeps the pump (`Kept`).  The pump gives
the peer up for its silence if the peer keeps it up to a deadline by which nothing more
comes, and only then (`gives_up_iff`). -/
namespace Switchboard
namespace ReadPump

/-- The deadline after some items that came when they did. -/
def deadlineAfter (t : Timing) (deadline : Nat) (items : List (Nat × Incoming)) : Nat :=
  items.foldl (fun deadline x =>
    match x.2 with
    | .frame (.pong _) => x.1 + t.pongWait
    | _ => deadline) deadline

/-- Whether an item ends a read pump that takes it: by what it is, or because the hub has
stopped and refuses its message. -/
def Ends (stopped : Nat → Bool) (x : Nat × Incoming) : Prop :=
  ¬ x.2.GoesOn ∨ (x.2.message?.isSome ∧ stopped x.1)

/-- **A peer keeps a read pump** by items of which each comes by the deadline that is
current then, and none ends the pump. -/
inductive Kept (t : Timing) (stopped : Nat → Bool) (deadline : Nat) :
    List (Nat × Incoming) → Prop
  | begin : Kept t stopped deadline []
  | item {items : List (Nat × Incoming)} {x : Nat × Incoming} (h : Kept t stopped deadline items)
    (hx : x.1 ≤ deadlineAfter t deadline items) (hgoes : ¬ Ends stopped x) :
    Kept t stopped deadline (items ++ [x])

variable {t : Timing} {c : Client} {stopped : Nat → Bool} {begin deadline : Nat} {p q : ReadPump}
  {items before : List (Nat × Incoming)} {x : Nat × Incoming} {m : RoutedMessage}

theorem deadlineAfter_pong {data : Bytes} (hx : x.2 = .frame (.pong data)) :
    deadlineAfter t deadline (items ++ [x]) = x.1 + t.pongWait := by
  rw [deadlineAfter, List.foldl_append, List.foldl_cons, List.foldl_nil, hx]

/-- **Only a pong moves the deadline.** -/
theorem deadlineAfter_of_ne (hx : ∀ data, x.2 ≠ .frame (.pong data)) :
    deadlineAfter t deadline (items ++ [x]) = deadlineAfter t deadline items := by
  rw [deadlineAfter, List.foldl_append, List.foldl_cons, List.foldl_nil]
  split
  · next data he => exact absurd he (hx data)
  · rfl

/-! ## Over time -/

/-- A read pump over time. -/
structure Watch where
  now : Nat
  pump : ReadPump
  /-- What is still to come, and when. -/
  coming : List (Nat × Incoming)

namespace Watch

variable {w : Watch} {n : Nat}

/-- A pump that begins. -/
def start (t : Timing) (begin : Nat) (items : List (Nat × Incoming)) : Watch :=
  ⟨begin, .start t begin, items⟩

/-- What a pump sees. -/
def sight (stopped : Nat → Bool) (w : Watch) : Sight where
  now := w.now
  closed := false
  transportFirst := false
  arrival := w.coming.head?.bind fun x => if x.1 ≤ w.now then some x.2 else none
  admission := if stopped w.now then .refused else .admitted

/-- The connection is open. -/
theorem not_notices : ¬ (w.sight stopped).notices deadline := Bool.false_ne_true

/-- What comes next: a step by what the pump sees, or a millisecond later if it has to
wait. -/
def next (t : Timing) (c : Client) (stopped : Nat → Bool) (w : Watch) : Watch :=
  match w.pump.step t c (w.sight stopped) with
  | some (q, _) => ⟨w.now, q, w.coming.drop (w.pump.taken (w.sight stopped)).length⟩
  | none => { w with now := w.now + 1 }

/-- A pump after some of these. -/
def run (t : Timing) (c : Client) (stopped : Nat → Bool) : Nat → Watch → Watch
  | 0, w => w
  | n + 1, w => (run t c stopped n w).next t c stopped

theorem run_add (k n : Nat) (w : Watch) :
    run t c stopped (n + k) w = run t c stopped k (run t c stopped n w) := by
  induction k with
  | zero => rfl
  | succ k ih => exact congrArg (next t c stopped) ih

/-! ## What is so at every moment -/

/-- What has come has kept the pump, which knows the current deadline and is not past it,
and nothing else has come yet. -/
structure Heard (t : Timing) (stopped : Nat → Bool) (begin : Nat) (before : List (Nat × Incoming))
    (deadline now : Nat) (coming : List (Nat × Incoming)) : Prop where
  kept : Kept t stopped (begin + t.pongWait) before
  deadline_eq : deadline = deadlineAfter t (begin + t.pongWait) before
  inTime : now ≤ deadline
  later : ∀ x ∈ coming, now ≤ x.1

/-- **How a pump stands to what comes to it.** -/
def Follows (t : Timing) (stopped : Nat → Bool) (begin : Nat) (items : List (Nat × Incoming))
    (now : Nat) (coming : List (Nat × Incoming)) : ReadPump → Prop
  | reading deadline =>
    ∃ before, items = before ++ coming ∧ Heard t stopped begin before deadline now coming
  | submitting m deadline =>
    ∃ before x, items = (before ++ [x]) ++ coming ∧
      Heard t stopped begin before deadline now coming ∧
      x.1 = now ∧ x.2.GoesOn ∧ x.2.message? = some m
  -- the peer is given up for its silence
  | leaving (some (.readTimeout _)) =>
    ∃ before, items = before ++ coming ∧ Heard t stopped begin before now now coming ∧
      ∀ x ∈ coming.head?, now < x.1
  | _ => True

theorem follows_start (hbegin : ∀ x ∈ items, begin ≤ x.1) :
    Follows t stopped begin items begin items (.start t begin) :=
  ⟨[], rfl, .begin, rfl, Nat.le_add_right _ _, hbegin⟩

variable {now : Nat} {coming rest : List (Nat × Incoming)} {i : Incoming} {acts : List Act}

/-- What a pump sees has come by now. -/
theorem arrival_eq_some (h : (sight stopped ⟨now, p, coming⟩).arrival = some i) :
    ∃ time rest, coming = (time, i) :: rest ∧ time ≤ now := by
  cases coming with
  | nil => cases h
  | cons x rest =>
    obtain ⟨time, j⟩ := x
    by_cases htime : time ≤ now
    · have hj : some j = some i := (if_pos htime).symm.trans h
      obtain rfl := Option.some.inj hj
      exact ⟨time, rest, rfl, htime⟩
    · have hnone : none = some i := (if_neg htime).symm.trans h
      cases hnone

/-- What a pump takes has come just now. -/
theorem Heard.takes (h : Heard t stopped begin before deadline now coming)
    (harrival : (sight stopped ⟨now, reading deadline, coming⟩).arrival = some i) :
    ∃ rest, coming = (now, i) :: rest ∧
      coming.drop ((reading deadline).taken (sight stopped ⟨now, reading deadline, coming⟩)).length =
        rest := by
  obtain ⟨time, rest, rfl, htime⟩ := arrival_eq_some harrival
  obtain rfl : time = now := Nat.le_antisymm htime (h.later _ List.mem_cons_self)
  refine ⟨rest, rfl, ?_⟩
  rw [(ReadPump.takes deadline not_notices harrival).1]
  rfl

/-- If a pump sees nothing, what comes next comes later. -/
theorem lt_of_arrival_eq_none (h : (sight stopped ⟨now, p, coming⟩).arrival = none) :
    ∀ x ∈ coming.head?, now < x.1 := by
  intro x hx
  obtain ⟨rest, rfl⟩ := List.head?_eq_some_iff.mp hx
  refine Nat.lt_of_not_le fun htime => ?_
  have hsome : none = some x.2 := h.symm.trans (if_pos htime)
  cases hsome

/-- An item that comes now and ends nothing keeps the pump. -/
theorem Heard.item (h : Heard t stopped begin before deadline now (x :: rest)) (hx : x.1 = now)
    (hgoes : ¬ Ends stopped x) {later : Nat}
    (hlater : later = deadlineAfter t (begin + t.pongWait) (before ++ [x])) (hle : now ≤ later) :
    Heard t stopped begin (before ++ [x]) later now rest where
  kept := h.kept.item (by rw [hx, ← h.deadline_eq]; exact h.inTime) hgoes
  deadline_eq := hlater
  inTime := hle
  later y hy := h.later y (List.mem_cons_of_mem x hy)

/-- An item without a message after which a pump goes on does not end it. -/
theorem not_ends (hgoes : i.GoesOn) (hm : i.message? = none) : ¬ Ends stopped (now, i) := by
  rintro (hends | ⟨hsome, -⟩)
  · exact hends hgoes
  · rw [show (now, i).2.message? = none from hm] at hsome
    cases hsome

/-- A message does not end a pump as long as the hub has not stopped. -/
theorem not_ends_of_running (hgoes : x.2.GoesOn) (hrunning : ¬ stopped x.1) :
    ¬ Ends stopped x := by
  rintro (hends | ⟨-, hstopped⟩)
  · exact hends hgoes
  · exact hrunning hstopped

/-- An item without a message after which a pump goes on leaves the pump waiting for the
next one, by the deadline that is current then. -/
theorem Follows.passes {later : Nat} (h : Follows t stopped begin items now coming (.reading deadline))
    (harrival : (sight stopped ⟨now, reading deadline, coming⟩).arrival = some i)
    (hgoes : i.GoesOn) (hm : i.message? = none) (hle : now ≤ deadline → now ≤ later)
    (hlater : ∀ before, deadline = deadlineAfter t (begin + t.pongWait) before →
      later = deadlineAfter t (begin + t.pongWait) (before ++ [(now, i)])) :
    Follows t stopped begin items now
      (coming.drop ((reading deadline).taken (sight stopped ⟨now, reading deadline, coming⟩)).length)
      (.reading later) := by
  obtain ⟨before, hitems, hheard⟩ := h
  obtain ⟨rest, rfl, hrest⟩ := hheard.takes harrival
  rw [hrest]
  exact ⟨before ++ [(now, i)], hitems.trans (List.append_cons ..),
    hheard.item rfl (not_ends hgoes hm) (hlater before hheard.deadline_eq) (hle hheard.inTime)⟩

/-- **A step** leads from a moment to one like it. -/
theorem Follows.after (h : Follows t stopped begin items now coming p)
    (hstep : Step t c (sight stopped ⟨now, p, coming⟩) p q acts) :
    Follows t stopped begin items now
      (coming.drop (p.taken (sight stopped ⟨now, p, coming⟩)).length) q := by
  cases hstep with
  | notice hnotices => cases hnotices
  | farewell | fault | finished | breakdown | refused | depart | vanish => trivial
  | @message deadline f bytes m hstays harrival hdata hparse =>
    obtain ⟨before, hitems, hheard⟩ := h
    obtain ⟨rest, rfl, hrest⟩ := hheard.takes harrival
    rw [hrest]
    exact ⟨before, _, hitems.trans (List.append_cons ..), ⟨hheard.kept, hheard.deadline_eq,
      hheard.inTime, fun x hx => hheard.later x (List.mem_cons_of_mem _ hx)⟩, rfl,
      Incoming.goesOn_of_data hdata, Frame.message?_eq_some hdata hparse⟩
  | @skip deadline f bytes e hstays harrival hdata hparse =>
    refine h.passes harrival (Incoming.goesOn_of_data hdata) (Frame.message?_eq_none hdata hparse)
      id fun before hbefore => ?_
    rw [deadlineAfter_of_ne, hbefore]
    rintro data he
    cases he
    cases hdata
  | @pong deadline data hstays harrival =>
    exact h.passes harrival (Incoming.goesOn_pong data) rfl (fun _ => Nat.le_add_right _ _)
      fun _ _ => (deadlineAfter_pong (x := (now, .frame (.pong data))) rfl).symm
  | @ping deadline data hstays harrival =>
    refine h.passes harrival (Incoming.goesOn_ping data) rfl id fun before hbefore => ?_
    rw [deadlineAfter_of_ne, hbefore]
    intro data he
    cases he
  | @timeout deadline hstays harrival hlate =>
    obtain ⟨before, hitems, hheard⟩ := h
    obtain rfl : now = deadline := Nat.le_antisymm hheard.inTime hlate
    rw [takes_nothing now hstays harrival]
    exact ⟨before, hitems, hheard, lt_of_arrival_eq_none harrival⟩
  | @submit deadline m hadmission =>
    obtain ⟨before, x, hitems, hheard, hx, hgoes, hm⟩ := h
    have hrunning : ¬ stopped x.1 := by
      intro hstopped
      rw [hx] at hstopped
      have hrefused : Admission.refused = .admitted := (if_pos hstopped).symm.trans hadmission
      cases hrefused
    refine ⟨before ++ [x], hitems, ⟨hheard.kept.item ?_ (not_ends_of_running hgoes hrunning), ?_,
      hheard.inTime, hheard.later⟩⟩
    · rw [hx, ← hheard.deadline_eq]
      exact hheard.inTime
    · rw [deadlineAfter_of_ne, hheard.deadline_eq]
      intro data he
      rw [he] at hm
      cases hm

/-- **A millisecond** leads from a moment to one like it, if a pump has to wait. -/
theorem Follows.wait (h : Follows t stopped begin items now coming p)
    (hsorted : items.Pairwise fun x y => x.1 ≤ y.1)
    (hstep : p.step t c (sight stopped ⟨now, p, coming⟩) = none) :
    Follows t stopped begin items (now + 1) coming p := by
  have hadmission : (sight stopped ⟨now, p, coming⟩).admission ≠ .wait := by
    show (if stopped now then Admission.refused else .admitted) ≠ .wait
    split <;> exact nofun
  rcases step_eq_none_iff.mp hstep with hover | hwaits
  · cases p with
    | ended | broken => trivial
    | reading | submitting | leaving => cases hover
  cases hwaits with
  | place hwait | leave hwait => exact absurd hwait hadmission
  | arrival hopen harrival hearly =>
    obtain ⟨before, hitems, hheard⟩ := h
    refine ⟨before, hitems, hheard.kept, hheard.deadline_eq, hearly, ?_⟩
    have hnext := lt_of_arrival_eq_none harrival
    have hrest : coming.Pairwise fun x y => x.1 ≤ y.1 :=
      (List.pairwise_append.mp (hitems ▸ hsorted)).2.1
    intro x hx
    cases coming with
    | nil => cases hx
    | cons y rest =>
      have hy : now < y.1 := hnext y rfl
      rcases List.mem_cons.mp hx with rfl | hx
      · exact hy
      · exact Nat.lt_of_lt_of_le hy ((List.pairwise_cons.mp hrest).1 x hx)

/-- **How a pump stands at every moment.** -/
theorem follows_run (hbegin : ∀ x ∈ items, begin ≤ x.1)
    (hsorted : items.Pairwise fun x y => x.1 ≤ y.1)
    (hw : run t c stopped n (start t begin items) = w) :
    Follows t stopped begin items w.now w.coming w.pump := by
  induction n generalizing w with
  | zero =>
    obtain rfl := hw
    exact follows_start hbegin
  | succ n ih =>
    obtain rfl := hw
    rw [run]
    unfold next
    split
    · next q acts hstep => exact Follows.after (ih rfl) (step_iff.mp hstep)
    · next hstep => exact Follows.wait (ih rfl) hsorted hstep

/-! ## Where it leads -/

theorem next_of_step (hstep : Step t c (sight stopped ⟨now, p, coming⟩) p q acts) :
    next t c stopped ⟨now, p, coming⟩ =
      ⟨now, q, coming.drop (p.taken (sight stopped ⟨now, p, coming⟩)).length⟩ := by
  have hdo : (⟨now, p, coming⟩ : Watch).pump.step t c (sight stopped ⟨now, p, coming⟩) =
      some (q, acts) := step_iff.mpr hstep
  rw [next, hdo]

theorem arrival_eq_none (h : ∀ x ∈ coming.head?, now < x.1) :
    (sight stopped ⟨now, p, coming⟩).arrival = none := by
  cases coming with
  | nil => rfl
  | cons x rest => exact if_neg (Nat.not_le_of_lt (h x rfl))

theorem sight_arrival (now : Nat) (p : ReadPump) (i : Incoming) (rest : List (Nat × Incoming)) :
    (sight stopped ⟨now, p, (now, i) :: rest⟩).arrival = some i := if_pos (Nat.le_refl now)

/-- A pump waits up to its deadline as long as nothing comes. -/
theorem run_wait (k : Nat) (hinTime : now + k ≤ deadline)
    (hcoming : ∀ x ∈ coming.head?, now + k ≤ x.1) :
    run t c stopped k ⟨now, reading deadline, coming⟩ = ⟨now + k, reading deadline, coming⟩ := by
  induction k with
  | zero => rfl
  | succ k ih =>
    rw [run, ih (by omega) fun x hx => Nat.le_of_succ_le (hcoming x hx), next]
    have hnone : (sight stopped ⟨now + k, reading deadline, coming⟩).arrival = none :=
      arrival_eq_none hcoming
    have hwait : (⟨now + k, reading deadline, coming⟩ : Watch).pump.step t c
        (sight stopped ⟨now + k, reading deadline, coming⟩) = none :=
      step_eq_none_iff.mpr (Or.inr (.arrival Bool.false_ne_true hnone hinTime))
    rw [hwait]
    rfl

/-- At its deadline a pump gives the peer up if nothing has come. -/
theorem next_of_silence (h : ∀ x ∈ coming.head?, now < x.1) :
    next t c stopped ⟨now, reading now, coming⟩ =
      ⟨now, leaving (some (.readTimeout (nanoseconds t.pongWait))), coming⟩ := by
  have hnone : (sight stopped ⟨now, reading now, coming⟩).arrival = none := arrival_eq_none h
  have hlate : Step t c (sight stopped ⟨now, reading now, coming⟩) (reading now) _ _ :=
    .timeout not_notices hnone (Nat.le_refl now)
  rw [next_of_step hlate, takes_nothing now not_notices hnone]
  rfl

/-- A step by what has come just now takes it. -/
theorem next_of_take {later : ReadPump}
    (hstep : Step t c (sight stopped ⟨now, reading deadline, (now, i) :: rest⟩) (reading deadline)
      later acts) :
    next t c stopped ⟨now, reading deadline, (now, i) :: rest⟩ = ⟨now, later, rest⟩ := by
  rw [next_of_step hstep,
    (ReadPump.takes deadline not_notices (sight_arrival now _ i rest)).1]
  rfl

/-- A frame with data that ends nothing is dealt with at once. -/
theorem run_data {f : Frame} {bytes : Bytes} (hgoes : ¬ Ends stopped (now, .frame f))
    (hdata : f.data? = some bytes) (deadline : Nat) (rest : List (Nat × Incoming)) :
    ∃ n, run t c stopped n ⟨now, reading deadline, (now, .frame f) :: rest⟩ =
      ⟨now, reading deadline, rest⟩ := by
  have harrival : (sight stopped ⟨now, reading deadline, (now, .frame f) :: rest⟩).arrival =
      some (.frame f) := sight_arrival now _ _ rest
  cases hparse : ClientMessage.parse bytes with
  | error e => exact ⟨1, next_of_take (.skip not_notices harrival hdata hparse)⟩
  | ok m =>
    have hrunning : ¬ stopped now := by
      intro hstopped
      have hm : f.message? = some m.routed := Frame.message?_eq_some hdata hparse
      exact hgoes (Or.inr ⟨Option.isSome_iff_exists.mpr ⟨_, hm⟩, hstopped⟩)
    have hadmission : (sight stopped ⟨now, submitting m.routed deadline, rest⟩).admission =
        .admitted := if_neg hrunning
    refine ⟨2, ?_⟩
    rw [run, run, run, next_of_take (.message not_notices harrival hdata hparse),
      next_of_step (.submit hadmission)]
    rfl

/-- **An item that ends nothing** is dealt with at once. -/
theorem run_item (hgoes : ¬ Ends stopped (now, i)) (deadline : Nat)
    (rest : List (Nat × Incoming)) :
    ∃ n, run t c stopped n ⟨now, reading deadline, (now, i) :: rest⟩ =
      ⟨now, reading (deadlineAfter t deadline [(now, i)]), rest⟩ := by
  have harrival : (sight stopped ⟨now, reading deadline, (now, i) :: rest⟩).arrival = some i :=
    sight_arrival now _ i rest
  have hgoesOn : i.GoesOn := by
    by_contra hends
    exact hgoes (Or.inl hends)
  cases i with
  | fault | finished => cases hgoesOn.1
  | breakdown => exact absurd rfl hgoesOn.2
  | frame f =>
    cases f with
    | close => cases hgoesOn.1
    | ping => exact ⟨1, next_of_take (.ping not_notices harrival)⟩
    | pong => exact ⟨1, next_of_take (.pong not_notices harrival)⟩
    | text | binary => exact run_data hgoes rfl deadline rest

/-- **As long as the peer keeps the pump**, the pump comes to wait for what comes next. -/
theorem exists_run_of_kept (hbegin : ∀ x ∈ items, begin ≤ x.1)
    (hsorted : items.Pairwise fun x y => x.1 ≤ y.1)
    (hkept : Kept t stopped (begin + t.pongWait) before) :
    ∀ after, items = before ++ after → ∃ n now, run t c stopped n (start t begin items) =
      ⟨now, reading (deadlineAfter t (begin + t.pongWait) before), after⟩ := by
  induction hkept with
  | begin => exact fun after hitems => ⟨0, begin, by rw [hitems]; rfl⟩
  | @item before x _ hx hgoes ih =>
    intro after hitems
    obtain ⟨n, now, hrun⟩ := ih (x :: after) (hitems.trans (List.append_cons ..).symm)
    obtain ⟨time, i⟩ := x
    -- the item has not come yet, and it comes by the deadline
    obtain ⟨_, -, hheard⟩ := follows_run hbegin hsorted hrun
    have hnow : now ≤ time := hheard.later _ List.mem_cons_self
    obtain ⟨k, rfl⟩ := Nat.exists_eq_add_of_le hnow
    obtain ⟨j, hitem⟩ := run_item (t := t) (c := c) hgoes
      (deadlineAfter t (begin + t.pongWait) before) after
    refine ⟨n + k + j, now + k, ?_⟩
    rw [run_add, run_add, hrun, run_wait k hx fun y hy => ?_, hitem, deadlineAfter, deadlineAfter,
      deadlineAfter, List.foldl_append]
    cases hy
    exact Nat.le_refl _

/-- **When a peer is given up for its silence.**  Items come to a pump in the order of their
times, over an open connection, and the hub has a place for every message as long as it has
not stopped.

* While the pump waits for an item, what has come has kept it, and it knows the deadline
  that is current then: that of the begin until a pong comes, and then that of the last pong.
* The pump leaves because no pong came in time if and only if the items up to some point
  have kept it and the next one, if there is one, comes after the deadline that is current
  then; and it leaves at that deadline.
* What a pump leaves with it ends with at once. -/
theorem gives_up_iff (hsorted : (begin :: items.map Prod.fst).Pairwise (· ≤ ·)) :
    (∀ n deadline, (run t c stopped n (start t begin items)).pump = .reading deadline →
      ∃ before, items = before ++ (run t c stopped n (start t begin items)).coming ∧
        Kept t stopped (begin + t.pongWait) before ∧
        deadline = deadlineAfter t (begin + t.pongWait) before ∧
        (run t c stopped n (start t begin items)).now ≤ deadline) ∧
    (∀ time, (∃ n, (run t c stopped n (start t begin items)).pump =
          .leaving (some (.readTimeout (nanoseconds t.pongWait))) ∧
        (run t c stopped n (start t begin items)).now = time) ↔
      ∃ before after, items = before ++ after ∧ Kept t stopped (begin + t.pongWait) before ∧
        time = deadlineAfter t (begin + t.pongWait) before ∧ ∀ x ∈ after.head?, time < x.1) ∧
    (∀ n result, (run t c stopped n (start t begin items)).pump = .leaving result →
      (run t c stopped (n + 1) (start t begin items)).pump = .ended result ∧
        (run t c stopped (n + 1) (start t begin items)).now =
          (run t c stopped n (start t begin items)).now) := by
  obtain ⟨hbegin, htimes⟩ := List.pairwise_cons.mp hsorted
  replace hbegin : ∀ x ∈ items, begin ≤ x.1 := fun x hx => hbegin _ (List.mem_map_of_mem hx)
  replace htimes : items.Pairwise fun x y => x.1 ≤ y.1 := List.pairwise_map.mp htimes
  refine ⟨fun n deadline hpump => ?_, fun time => ⟨?_, ?_⟩, fun n result hpump => ?_⟩
  · have hfollows := follows_run (c := c) hbegin htimes (Eq.refl (run t c stopped n _))
    rw [hpump] at hfollows
    obtain ⟨before, hitems, hheard⟩ := hfollows
    exact ⟨before, hitems, hheard.kept, hheard.deadline_eq, hheard.inTime⟩
  · rintro ⟨n, hpump, rfl⟩
    have hfollows := follows_run (c := c) hbegin htimes (Eq.refl (run t c stopped n _))
    rw [hpump] at hfollows
    obtain ⟨before, hitems, hheard, hnext⟩ := hfollows
    exact ⟨before, _, hitems, hheard.kept, hheard.deadline_eq, hnext⟩
  · rintro ⟨before, after, hitems, hkept, rfl, hnext⟩
    obtain ⟨n, now, hrun⟩ := exists_run_of_kept (c := c) hbegin htimes hkept after hitems
    obtain ⟨_, -, hheard⟩ := follows_run hbegin htimes hrun
    obtain ⟨k, hk⟩ := Nat.exists_eq_add_of_le hheard.inTime
    refine ⟨n + k + 1, ?_⟩
    rw [run, run_add, hrun, run_wait k (Nat.le_of_eq hk.symm) fun x hx => ?_]
    swap
    · rw [← hk]
      exact Nat.le_of_lt (hnext x hx)
    rw [← hk, next_of_silence hnext]
    exact ⟨rfl, rfl⟩
  · rw [run]
    generalize run t c stopped n (start t begin items) = w at hpump ⊢
    obtain ⟨now, p, coming⟩ := w
    obtain rfl : p = .leaving result := hpump
    by_cases hstopped : stopped now
    · rw [next_of_step (.vanish (if_pos hstopped))]
      exact ⟨rfl, rfl⟩
    · rw [next_of_step (.depart (if_neg hstopped))]
      exact ⟨rfl, rfl⟩

/-- A ping, a pong and a frame that cannot be decoded; then the peer is silent. -/
theorem gives_up_iff_silent :
    let t : Timing := ⟨2, 10, 5⟩
    let anna : Client := ⟨⟨1⟩, .ofParts "anna" "acme" []⟩
    let items : List (Nat × Incoming) :=
      [(1, .frame (.ping [])), (3, .frame (.pong [])), (5, .frame (.binary [0x61]))]
    (0 :: items.map Prod.fst).Pairwise (· ≤ ·) ∧
      ∃ n, (run t anna (fun _ => false) n (start t 0 items)).pump =
          .leaving (some (.readTimeout (nanoseconds 10))) ∧
        (run t anna (fun _ => false) n (start t 0 items)).now = 13 := by
  intro t anna items
  have hsorted : (0 :: items.map Prod.fst).Pairwise (· ≤ ·) := by decide
  have hkept : Kept t (fun _ => false) (0 + t.pongWait) items :=
    ((Kept.begin.item (x := (1, .frame (.ping []))) (by decide)
      (not_ends_of_running (Incoming.goesOn_ping _) Bool.false_ne_true)).item
      (x := (3, .frame (.pong []))) (by decide)
      (not_ends_of_running (Incoming.goesOn_pong _) Bool.false_ne_true)).item
      (x := (5, .frame (.binary [0x61]))) (by decide)
      (not_ends_of_running (Incoming.goesOn_of_data rfl) Bool.false_ne_true)
  obtain ⟨-, hgives, -⟩ := gives_up_iff (t := t) (c := anna) hsorted
  exact ⟨hsorted, (hgives 13).mpr ⟨items, [], (List.append_nil items).symm, hkept, rfl, nofun⟩⟩

end Watch
end ReadPump
end Switchboard
