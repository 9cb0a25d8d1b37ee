import Switchboard.Proofs.Relay.Acts

/-! # What happens to a session and to a bridge

An act of the relay changes one session or one bridge at most, and there are few
ways in which it does so.  What becomes of a session is a `Turn` (`session_of_move`),
and what becomes of a bridge with its channel is a `Pass` (`inlet_of_move`); the
others stay as they are.  Sessions and bridges keep their places, and new ones come
behind them. -/
namespace Switchboard
namespace Relay

variable {P : Population} {r r' : Relay} {a : Act} {t : Task} {n : Nat} {s s' : Session}
  {i i' : Inlet}

/-! ## Sessions -/

/-- What an act of a read pump is to the socket. -/
def onReading : ReadPump.Act → Socket → Socket
  | .take => Socket.take
  | _ => id

/-- What an act of a write pump is to the socket. -/
def onWriting : WritePump.Act → Socket → Socket
  | .offer f _ => fun k => (k.offer f).2
  | .finish => fun k => k.finish.2
  | _ => id

/-- What the taking of a frame keeps, all reading keeps. -/
theorem keeps_reading {I : Socket → Prop} (htake : ∀ k, I k → I k.take)
    (acts : List ReadPump.Act) {k : Socket} (h : I k) :
    I (acts.foldl (fun k x => onReading x k) k) := by
  induction acts generalizing k with
  | nil => exact h
  | cons x acts ih =>
    refine ih ?_
    cases x with
    | take => exact htake k h
    | skip | submit | close => exact h

/-- What the offer of a frame and the closing keep, all writing keeps. -/
theorem keeps_writing {I : Socket → Prop} (hoffer : ∀ f k, I k → I (k.offer f).2)
    (hfinish : ∀ k, I k → I k.finish.2) (acts : List WritePump.Act) {k : Socket} (h : I k) :
    I (acts.foldl (fun k x => onWriting x k) k) := by
  induction acts generalizing k with
  | nil => exact h
  | cons x acts ih =>
    refine ih ?_
    cases x with
    | offer f => exact hoffer f k h
    | finish => exact hfinish k h
    | take | submit | close | abandon => exact h

/-- Where every act of a task changes one socket, so do many. -/
theorem sessions_foldl {Deed : Type} {f : Relay → Deed → Relay} {g : Deed → Socket → Socket}
    (hf : ∀ r x, (f r x).sessions =
      r.sessions.modify n fun s => { s with socket := g x s.socket }) (xs : List Deed) (r : Relay) :
    (xs.foldl f r).sessions = r.sessions.modify n fun s =>
      { s with socket := xs.foldl (fun k x => g x k) s.socket } := by
  induction xs generalizing r with
  | nil => exact (List.modify_id n r.sessions).symm
  | cons x xs ih =>
    rw [List.foldl_cons, ih, hf, List.modify_modify_eq]
    rfl

/-- Reading changes one socket. -/
theorem sessions_stepReader (h : r.stepReader n = some r') :
    ∃ s p q acts, r.sessions[n]? = some s ∧ s.reader = some p ∧
      p.step r.timing s.client (r.readSight s) = some (q, acts) ∧
      r'.sessions = r.sessions.modify n fun s =>
        { s with reader := some q, socket := acts.foldl (fun k x => onReading x k) s.socket } := by
  obtain ⟨s, p, q, acts, hs, hp, hdo, rfl⟩ := stepReader_eq_some h
  refine ⟨s, p, q, acts, hs, hp, hdo, ?_⟩
  refine (sessions_foldl (g := onReading) (fun r x => ?_) acts _).trans (List.modify_modify_eq ..)
  cases x with
  | take => rfl
  | skip | submit | close => exact (List.modify_id n r.sessions).symm

/-- Writing changes one socket. -/
theorem sessions_stepWriter (hq : r.Joined) (h : r.stepWriter n = some r') :
    ∃ s p q acts, r.sessions[n]? = some s ∧ s.writer = some p ∧
      p.step r.timing s.client (r.writeSight s) = some (q, acts) ∧
      r'.sessions = r.sessions.modify n fun s =>
        { s with writer := some q, socket := acts.foldl (fun k x => onWriting x k) s.socket } := by
  obtain ⟨s, p, q, acts, hs, hp, hdo, rfl⟩ := stepWriter_eq_some h
  refine ⟨s, p, q, acts, hs, hp, hdo, ?_⟩
  refine (sessions_foldl (g := onWriting) (fun r x => ?_) acts _).trans (List.modify_modify_eq ..)
  rw [hq n s hs]
  cases x with
  | offer | finish => rfl
  | take | submit | close | abandon => exact (List.modify_id n r.sessions).symm

/-- Keeping the books of a session changes that session. -/
theorem sessions_stepSession (h : r.stepSession n = some r') :
    ∃ s s' acts, r.sessions[n]? = some s ∧
      s.step r.timing r.now r.hub.admission = some (s', acts) ∧
      r'.sessions = r.sessions.modify n fun _ => s' := by
  obtain ⟨s, s', acts, hs, hdo, rfl⟩ := stepSession_eq_some h
  exact ⟨s, s', acts, hs, hdo,
    foldl_eq (v := Relay.sessions) (fun _ x => by cases x <;> rfl) acts _⟩

/-- A bridge changes no session. -/
theorem sessions_stepBridge (h : r.stepBridge n = some r') : r'.sessions = r.sessions := by
  obtain ⟨i, b, acts, -, -, rfl⟩ := stepBridge_eq_some h
  exact foldl_eq (v := Relay.sessions) (fun _ x => by cases x <;> rfl) acts _

/-- The session that an act changes. -/
def Act.session? : Act → Option Nat
  | step (.reader n) | step (.writer n) | step (.session n) | useSocket n _ => some n
  | _ => none

/-- **What an act makes of the session with a number.** -/
inductive Turn (r : Relay) (n : Nat) (s : Session) : Act → Session → Prop
  | read {p q : ReadPump} {acts : List ReadPump.Act} (hp : s.reader = some p)
    (hstep : p.step r.timing s.client (r.readSight s) = some (q, acts)) :
    Turn r n s (.step (.reader n))
      { s with reader := some q, socket := acts.foldl (fun k x => onReading x k) s.socket }
  | write {p q : WritePump} {acts : List WritePump.Act} (hp : s.writer = some p)
    (hstep : p.step r.timing s.client (r.writeSight s) = some (q, acts)) :
    Turn r n s (.step (.writer n))
      { s with writer := some q, socket := acts.foldl (fun k x => onWriting x k) s.socket }
  | keep {s' : Session} {acts : List Session.Act}
    (hstep : s.step r.timing r.now r.hub.admission = some (s', acts)) :
    Turn r n s (.step (.session n)) s'
  | peer (u : Socket.Use) : Turn r n s (.useSocket n u) { s with socket := u.on s.socket }
  | still {a : Act} (ha : a.session? ≠ some n) : Turn r n s a s

/-- An act that changes one session leaves the others as they are. -/
theorem turn_of_modify {m : Nat} {f : Session → Session}
    (hsessions : r'.sessions = r.sessions.modify m f)
    (hturn : ∀ s, r.sessions[m]? = some s → Turn r m s a (f s)) (hother : a.session? = some m)
    (hs' : r'.sessions[n]? = some s') : ∃ s, r.sessions[n]? = some s ∧ Turn r n s a s' := by
  rw [hsessions, List.getElem?_modify] at hs'
  obtain ⟨s, hs, rfl⟩ := Option.map_eq_some_iff.mp hs'
  refine ⟨s, hs, ?_⟩
  split
  · next hmn =>
    obtain rfl := hmn
    exact hturn s hs
  · next hmn =>
    refine .still fun he => hmn ?_
    rw [hother] at he
    exact Option.some.inj he

/-- **What becomes of a session**: it was there before and takes its turn, or it
has just begun. -/
theorem session_of_move (hq : r.Joined) (hm : Move P r a r') (hs' : r'.sessions[n]? = some s') :
    (∃ s, r.sessions[n]? = some s ∧ Turn r n s a s') ∨
      ∃ identity socket, a = .join identity socket ∧ n = r.sessions.length ∧
        s' = .start (r.newcomer identity) socket := by
  have hstill : r'.sessions = r.sessions → a.session? = none →
      ∃ s, r.sessions[n]? = some s ∧ Turn r n s a s' := by
    intro hsessions ha
    refine ⟨s', hsessions ▸ hs', .still ?_⟩
    rw [ha]
    exact nofun
  cases a with
  | step t =>
    left
    have hstep := move_step_iff.mp hm
    cases t with
    | hub =>
      obtain ⟨hub, hs, rfl⟩ := stepHub_eq_some hstep
      exact hstill rfl rfl
    | bridge m => exact hstill (sessions_stepBridge hstep) rfl
    | reader m =>
      obtain ⟨s, p, q, acts, hs, hp, hdo, hsessions⟩ := sessions_stepReader hstep
      refine turn_of_modify hsessions (fun s₁ hs₁ => ?_) rfl hs'
      obtain rfl : s = s₁ := Option.some.inj (hs.symm.trans hs₁)
      exact .read hp hdo
    | writer m =>
      obtain ⟨s, p, q, acts, hs, hp, hdo, hsessions⟩ := sessions_stepWriter hq hstep
      refine turn_of_modify hsessions (fun s₁ hs₁ => ?_) rfl hs'
      obtain rfl : s = s₁ := Option.some.inj (hs.symm.trans hs₁)
      exact .write hp hdo
    | session m =>
      obtain ⟨s, s₁, acts, hs, hdo, hsessions⟩ := sessions_stepSession hstep
      refine turn_of_modify hsessions (fun s₂ hs₂ => ?_) rfl hs'
      obtain rfl : s = s₂ := Option.some.inj (hs.symm.trans hs₂)
      exact .keep hdo
  | useSocket m u =>
    obtain ⟨-, rfl⟩ := hm
    exact Or.inl (turn_of_modify rfl (fun s _ => .peer u) rfl hs')
  | join identity socket =>
    obtain ⟨-, rfl⟩ := hm
    have hall : (r.sessions ++ [.start (r.newcomer identity) socket])[n]? = some s' := hs'
    rcases Nat.lt_or_ge n r.sessions.length with hn | hn
    · rw [List.getElem?_append_left hn] at hall
      exact Or.inl ⟨s', hall, .still nofun⟩
    · rw [List.getElem?_append_right hn, List.getElem?_singleton] at hall
      split at hall
      · next hzero =>
        cases hall
        exact Or.inr ⟨identity, socket, rfl, by omega, rfl⟩
      · cases hall
  | arm t =>
    obtain ⟨timers, rfl⟩ := arm_of_move hm
    exact Or.inl (hstill rfl rfl)
  | wait | reject | beginBridge | useInlet | ask | stopHub | shutDown | draw =>
    obtain ⟨-, rfl⟩ := hm
    exact Or.inl (hstill rfl rfl)

theorem length_sessions_of_move (hq : r.Joined) (hm : Move P r a r') :
    r.sessions.length ≤ r'.sessions.length := by
  have hmodify : ∀ m f, r'.sessions = r.sessions.modify m f →
      r.sessions.length ≤ r'.sessions.length := by
    intro m f he
    exact Nat.le_of_eq (by rw [he, List.length_modify])
  cases a with
  | step t =>
    have hstep := move_step_iff.mp hm
    cases t with
    | hub =>
      obtain ⟨hub, -, rfl⟩ := stepHub_eq_some hstep
      exact Nat.le_refl _
    | bridge m => exact Nat.le_of_eq (congrArg List.length (sessions_stepBridge hstep).symm)
    | reader m =>
      obtain ⟨s, p, q, acts, -, -, -, hsessions⟩ := sessions_stepReader hstep
      exact hmodify m _ hsessions
    | writer m =>
      obtain ⟨s, p, q, acts, -, -, -, hsessions⟩ := sessions_stepWriter hq hstep
      exact hmodify m _ hsessions
    | session m =>
      obtain ⟨s, s', acts, -, -, hsessions⟩ := sessions_stepSession hstep
      exact hmodify m _ hsessions
  | useSocket m u =>
    obtain ⟨-, rfl⟩ := hm
    exact hmodify m _ rfl
  | join identity socket =>
    obtain ⟨-, rfl⟩ := hm
    exact (List.prefix_append _ _).length_le
  | arm t =>
    obtain ⟨timers, rfl⟩ := arm_of_move hm
    exact Nat.le_refl _
  | wait | reject | beginBridge | useInlet | ask | stopHub | shutDown | draw =>
    obtain ⟨-, rfl⟩ := hm
    exact Nat.le_refl _

/-- **A session does not go away.** -/
theorem turn_of_move (hq : r.Joined) (hm : Move P r a r') (hs : r.sessions[n]? = some s) :
    ∃ s', r'.sessions[n]? = some s' ∧ Turn r n s a s' := by
  have hn : n < r.sessions.length := (List.getElem?_eq_some_iff.mp hs).1
  have hs' := List.getElem?_eq_getElem (Nat.lt_of_lt_of_le hn (length_sessions_of_move hq hm))
  refine ⟨_, hs', ?_⟩
  rcases session_of_move hq hm hs' with ⟨s₁, hs₁, ht⟩ | ⟨-, -, -, hlen, -⟩
  · obtain rfl : s = s₁ := Option.some.inj (hs.symm.trans hs₁)
    exact ht
  · omega

theorem Turn.client_eq (ht : Turn r n s a s') : s'.client = s.client := by
  cases ht with
  | read | write | peer | still => rfl
  | keep hstep =>
    cases Session.step_iff.mp hstep with
    | register | refuse | finish => rfl

theorem Turn.queue_eq (ht : Turn r n s a s') : s'.queue = s.queue := by
  cases ht with
  | read | write | peer | still => rfl
  | keep hstep =>
    cases Session.step_iff.mp hstep with
    | register | refuse | finish => rfl

/-! ## Bridges -/

/-- What an act of a bridge is to its channel. -/
def onReceiving : Bridge.Act → Bus.Channel → Bus.Channel
  | .take => Bus.Channel.take
  | .leave => Bus.Channel.dropConsumer
  | _ => id

/-- A step of a bridge changes that bridge and its channel. -/
theorem inlets_stepBridge (h : r.stepBridge n = some r') :
    ∃ i b acts, r.inlets[n]? = some i ∧ i.bridge.step i.pause (r.bridgeSight i) = some (b, acts) ∧
      r'.inlets = r.inlets.modify n fun i =>
        { i with bridge := b, channel := acts.foldl (fun c x => onReceiving x c) i.channel } := by
  obtain ⟨i, b, acts, hi, hdo, rfl⟩ := stepBridge_eq_some h
  refine ⟨i, b, acts, hi, hdo, ?_⟩
  have hfold : ∀ (xs : List Bridge.Act) (r : Relay),
      (xs.foldl (doBridge n i.channel.topic) r).inlets = r.inlets.modify n fun i =>
        { i with channel := xs.foldl (fun c x => onReceiving x c) i.channel } := by
    intro xs
    induction xs with
    | nil => exact fun r => (List.modify_id n r.inlets).symm
    | cons x xs ih =>
      intro r
      have hone : (doBridge n i.channel.topic r x).inlets = r.inlets.modify n fun i =>
          { i with channel := onReceiving x i.channel } := by
        cases x with
        | take | leave => rfl
        | record | skip | failure | submit => exact (List.modify_id n r.inlets).symm
      rw [List.foldl_cons, ih, hone, List.modify_modify_eq]
      rfl
  exact (hfold acts _).trans (List.modify_modify_eq ..)

/-- The bridge that an act changes. -/
def Act.inlet? : Act → Option Nat
  | step (.bridge n) | useInlet n _ => some n
  | _ => none

/-- **What an act makes of the bridge with a number.** -/
inductive Pass (r : Relay) (n : Nat) (i : Inlet) : Act → Inlet → Prop
  | receive {b : Bridge} {acts : List Bridge.Act}
    (hstep : i.bridge.step i.pause (r.bridgeSight i) = some (b, acts)) :
    Pass r n i (.step (.bridge n))
      { i with bridge := b, channel := acts.foldl (fun c x => onReceiving x c) i.channel }
  | outside (u : Inlet.Use) : Pass r n i (.useInlet n u) (u.on i)
  | still {a : Act} (ha : a.inlet? ≠ some n) : Pass r n i a i

/-- An act that changes one bridge leaves the others as they are. -/
theorem pass_of_modify {m : Nat} {f : Inlet → Inlet} (hinlets : r'.inlets = r.inlets.modify m f)
    (hpass : ∀ i, r.inlets[m]? = some i → Pass r m i a (f i)) (hother : a.inlet? = some m)
    (hi' : r'.inlets[n]? = some i') : ∃ i, r.inlets[n]? = some i ∧ Pass r n i a i' := by
  rw [hinlets, List.getElem?_modify] at hi'
  obtain ⟨i, hi, rfl⟩ := Option.map_eq_some_iff.mp hi'
  refine ⟨i, hi, ?_⟩
  split
  · next hmn =>
    obtain rfl := hmn
    exact hpass i hi
  · next hmn =>
    refine .still fun he => hmn ?_
    rw [hother] at he
    exact Option.some.inj he

/-- **What becomes of a bridge**: it was there before and has its pass, or it has
just begun. -/
theorem inlet_of_move (hm : Move P r a r') (hi' : r'.inlets[n]? = some i') :
    (∃ i, r.inlets[n]? = some i ∧ Pass r n i a i') ∨
      ∃ topic capacity pause, a = .beginBridge topic capacity pause ∧ n = r.inlets.length ∧
        i' = ⟨.ofCapacity topic capacity, .receiving, pause, false⟩ := by
  have hstill : r'.inlets = r.inlets → a.inlet? = none →
      ∃ i, r.inlets[n]? = some i ∧ Pass r n i a i' := by
    intro hinlets ha
    refine ⟨i', hinlets ▸ hi', .still ?_⟩
    rw [ha]
    exact nofun
  cases a with
  | step t =>
    left
    have hstep := move_step_iff.mp hm
    cases t with
    | hub | reader | writer | session =>
      exact hstill (eq_of_step (v := inlets) (fun _ _ => rfl) (fun _ _ => rfl) (fun _ _ => rfl)
        hstep fun _ => nofun) rfl
    | bridge m =>
      obtain ⟨i, b, acts, hi, hdo, hinlets⟩ := inlets_stepBridge hstep
      refine pass_of_modify hinlets (fun i₁ hi₁ => ?_) rfl hi'
      obtain rfl : i = i₁ := Option.some.inj (hi.symm.trans hi₁)
      exact .receive hdo
  | useInlet m u =>
    obtain ⟨-, rfl⟩ := hm
    exact Or.inl (pass_of_modify rfl (fun i _ => .outside u) rfl hi')
  | beginBridge topic capacity pause =>
    obtain ⟨-, rfl⟩ := hm
    have hall : (r.inlets ++ [⟨.ofCapacity topic capacity, .receiving, pause, false⟩])[n]? =
        some i' := hi'
    rcases Nat.lt_or_ge n r.inlets.length with hn | hn
    · rw [List.getElem?_append_left hn] at hall
      exact Or.inl ⟨i', hall, .still nofun⟩
    · rw [List.getElem?_append_right hn, List.getElem?_singleton] at hall
      split at hall
      · next hzero =>
        cases hall
        exact Or.inr ⟨topic, capacity, pause, rfl, by omega, rfl⟩
      · cases hall
  | arm t =>
    obtain ⟨timers, rfl⟩ := arm_of_move hm
    exact Or.inl (hstill rfl rfl)
  | wait | join | reject | useSocket | ask | stopHub | shutDown | draw =>
    obtain ⟨-, rfl⟩ := hm
    exact Or.inl (hstill rfl rfl)

end Relay
end Switchboard
