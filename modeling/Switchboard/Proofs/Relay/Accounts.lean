import Switchboard.Proofs.Relay.LastSteps

/-! # The accounts of sessions

Sessions are counted when they begin, while they are under way and when they end,
by what ended them.  How far a session is shows in its stage, and what is counted
is how many sessions are in which stage (`Accounted`): so whatever happens in
whatever order, no session is forgotten and none is counted twice. -/
namespace Switchboard

/-! ## Sums over labels -/

namespace Metrics

variable {m : Metrics} {s : Series} {n : Nat} {name : String}

/-- The sum of the values of all series with a name, whatever their labels are. -/
def total (name : String) (m : Metrics) : Nat :=
  ((m.values.filter fun entry => entry.1.name = name).map Prod.snd).foldr (· + ·) 0

/-- No series is listed twice. -/
def Listed (m : Metrics) : Prop := (m.values.map Prod.fst).Nodup

theorem Listed.set (h : m.Listed) : (m.set s n).Listed := by
  refine List.nodup_cons.mpr ⟨fun hin => ?_, h.sublist (List.filter_sublist.map _)⟩
  obtain ⟨entry, hentry, rfl⟩ := List.mem_map.mp hin
  simp at hentry

theorem total_cons {values : List (Series × Nat)} :
    total name ⟨(s, n) :: values⟩ = (if s.name = name then n else 0) + total name ⟨values⟩ := by
  by_cases hname : s.name = name <;> simp [total, hname]

/-- The share of one series in the sum. -/
theorem total_eq_add (h : m.Listed) (s : Series) :
    m.total name = (if s.name = name then m.value s else 0) +
      total name ⟨m.values.filter fun entry => entry.1 != s⟩ := by
  obtain ⟨values⟩ := m
  induction values with
  | nil => simp [total, value]
  | cons entry values ih =>
    obtain ⟨t, k⟩ := entry
    obtain ⟨hnew, hrest⟩ := List.nodup_cons.mp h
    by_cases ht : t = s
    · subst ht
      have hsame : (values.filter fun entry => entry.1 != t) = values := by
        refine List.filter_eq_self.mpr fun entry hentry => bne_iff_ne.mpr fun he => hnew ?_
        exact List.mem_map.mpr ⟨entry, hentry, he⟩
      simp [total_cons, value, hsame]
    · have hvalue : value s ⟨(t, k) :: values⟩ = value s ⟨values⟩ := by
        rw [value, List.lookup_cons, beq_eq_false_iff_ne.mpr (Ne.symm ht)]
        rfl
      have hkeep : (((t, k) :: values).filter fun entry => entry.1 != s) =
          (t, k) :: values.filter fun entry => entry.1 != s :=
        List.filter_cons_of_pos (bne_iff_ne.mpr ht)
      have hih := ih hrest
      simp only [hvalue, hkeep, total_cons] at hih ⊢
      omega

theorem total_set (h : m.Listed) :
    (m.set s n).total name + (if s.name = name then m.value s else 0) =
      m.total name + if s.name = name then n else 0 := by
  rw [total_eq_add h s, set, total_cons]
  omega

theorem total_set_of_ne (h : m.Listed) (hname : s.name ≠ name) :
    (m.set s n).total name = m.total name := by
  have hset : (m.set s n).total name + _ = _ := total_set h
  rwa [if_neg hname, if_neg hname] at hset

theorem total_add (h : m.Listed) :
    (m.add s n).total name = m.total name + if s.name = name then n else 0 := by
  have hset : (m.add s n).total name + _ = _ := total_set h
  by_cases hname : s.name = name
  · simp only [hname, if_true] at hset ⊢
    omega
  · simpa only [hname, if_false, Nat.add_zero] using hset

end Metrics

/-! ## The stages of a session -/

namespace Stage

/-- Whether a session is under way. -/
def isUnderWay : Stage → Bool
  | opening | serving => true
  | none | refused | ended _ => false

def isEnded : Stage → Bool
  | ended _ => true
  | none | opening | refused | serving => false

end Stage

namespace Session

variable {s : Session}

/-- The pumps of a session are as far as its stage says. -/
def Staged (s : Session) : Prop :=
  match s.stage with
  | .none => False
  | .opening | .refused => s.reader = none ∧ s.writer = none
  | .serving => s.reader.isSome ∧ s.writer.isSome
  | .ended reason => (s.reader.isSome ∧ s.writer.isSome) ∧ s.pumpsOver ∧ reason = s.reason

/-- What a session ends with whose pumps ended with this. -/
def ending (read write : Option TransportFault) : String :=
  ((read.map TransportFault.label).or (write.map TransportFault.label)).getD "closed"

theorem reason_eq_ending {read write : Option TransportFault}
    (hread : s.reader = some (.ended read)) (hwrite : s.writer = some (.ended write)) :
    s.reason = ending read write := by
  rw [reason, hread, hwrite]
  cases read <;> cases write <;> rfl

theorem Staged.ne_none (h : s.Staged) : s.stage ≠ .none := by
  intro hstage
  rw [Staged, hstage] at h
  exact h

/-- A session with a pump has both, and it is served, or it is over. -/
theorem Staged.of_begun (h : s.Staged) (hbegun : s.reader.isSome ∨ s.writer.isSome) :
    (s.reader.isSome ∧ s.writer.isSome) ∧
      (s.stage = .serving ∨ s.stage = .ended s.reason) := by
  unfold Staged at h
  cases hstage : s.stage with
  | none =>
    rw [hstage] at h
    exact h.elim
  | opening | refused =>
    rw [hstage] at h
    rw [h.1, h.2] at hbegun
    exact absurd hbegun (by decide)
  | serving =>
    rw [hstage] at h
    exact ⟨h, Or.inl rfl⟩
  | ended reason =>
    rw [hstage] at h
    exact ⟨h.1, Or.inr (congrArg Stage.ended h.2.2)⟩

end Session

namespace Relay

variable {P : Population} {r r' : Relay} {a : Act} {n : Nat} {s s' : Session}
  {record : List (Relay × Act)} {settings : Settings}

/-- **The pumps of a session go with its stage.** -/
theorem staged_of_turn (ht : Turn r n s a s') (h : s.Staged) : s'.Staged := by
  cases ht with
  | peer | still => exact h
  | read hp hstep =>
    -- a pump that takes a step is there and not over, which rules out all stages but one
    have hrunning := ReadPump.not_isOver_of_step hstep
    unfold Session.Staged at h ⊢
    cases hstage : s.stage with
    | none =>
      rw [hstage] at h
      exact h
    | opening | refused =>
      rw [hstage] at h
      exact absurd (hp.symm.trans h.1) nofun
    | serving =>
      rw [hstage] at h
      exact ⟨rfl, h.2⟩
    | ended reason =>
      rw [hstage] at h
      refine absurd ?_ hrunning
      simpa [hp] using (Bool.and_eq_true_iff.mp h.2.1).1
  | write hp hstep =>
    have hrunning := WritePump.not_isOver_of_step hstep
    unfold Session.Staged at h ⊢
    cases hstage : s.stage with
    | none =>
      rw [hstage] at h
      exact h
    | opening | refused =>
      rw [hstage] at h
      exact absurd (hp.symm.trans h.2) nofun
    | serving =>
      rw [hstage] at h
      exact ⟨h.1, rfl⟩
    | ended reason =>
      rw [hstage] at h
      refine absurd ?_ hrunning
      simpa [hp] using (Bool.and_eq_true_iff.mp h.2.1).2
  | keep hstep =>
    unfold Session.Staged at h
    cases Session.step_iff.mp hstep with
    | register => exact ⟨rfl, rfl⟩
    | refuse hstage =>
      rw [hstage] at h
      exact h
    | finish hstage hover =>
      rw [hstage] at h
      exact ⟨h, hover, rfl⟩

theorem staged_of_run (hr : Run (Move P) (.start settings) record r)
    (hs : r.sessions[n]? = some s) : s.Staged := by
  induction hr generalizing n s with
  | stay => exact absurd hs not_session_start
  | move hbefore hm ih =>
    rcases session_of_move (run_hub hbefore).2.joined hm hs with ⟨s₀, hs₀, ht⟩ | ⟨_, _, -, -, rfl⟩
    · exact staged_of_turn ht (ih hs₀)
    · exact ⟨rfl, rfl⟩

/-! ## Stages and counts -/

/-- The stages of all sessions. -/
def stages (r : Relay) : List Stage := r.sessions.map Session.stage

/-- Only its bookkeeping changes the stage of a session. -/
theorem Turn.stage_eq (ht : Turn r n s a s') (ha : a ≠ .step (.session n)) :
    s'.stage = s.stage := by
  cases ht with
  | read | write | peer | still => rfl
  | keep => exact absurd rfl ha

theorem stages_of_move (hq : r.Joined) (hm : Move P r a r') (ha : a.keeper? ≠ some .session) :
    r'.stages = r.stages := by
  have hnot : ∀ n, a ≠ .step (.session n) := by
    rintro n rfl
    exact ha rfl
  refine List.ext_getElem? fun n => ?_
  rw [stages, stages, List.getElem?_map, List.getElem?_map]
  cases hs' : r'.sessions[n]? with
  | some s' =>
    rcases session_of_move hq hm hs' with ⟨s, hs, ht⟩ | ⟨identity, socket, rfl, -, -⟩
    · rw [hs]
      exact congrArg some (ht.stage_eq (hnot n))
    · exact absurd rfl ha
  | none =>
    cases hs : r.sessions[n]? with
    | none => rfl
    | some s =>
      obtain ⟨s', hsome, -⟩ := turn_of_move hq hm hs
      rw [hs'] at hsome
      cases hsome

/-- What is counted of sessions is how many are in which stage. -/
structure Accounted (r : Relay) : Prop where
  listed : r.metrics.Listed
  begun : r.metrics.value .sessions = r.stages.length
  active : r.metrics.value .sessionsActive = r.stages.countP Stage.isUnderWay
  ended : ∀ reason, r.metrics.value (.sessionsEnded reason) = r.stages.countP (· = .ended reason)
  total : r.metrics.total "ws_disconnections_total" = r.stages.countP Stage.isEnded

theorem countP_set {p : Stage → Bool} {stages : List Stage} {x y : Stage}
    (hx : stages[n]? = some x) :
    (stages.set n y).countP p + (if p x then 1 else 0) =
      stages.countP p + if p y then 1 else 0 := by
  obtain ⟨hn, rfl⟩ := List.getElem?_eq_some_iff.mp hx
  have hpos : p stages[n] → 0 < stages.countP p :=
    fun h => List.countP_pos_iff.mpr ⟨_, List.getElem_mem hn, h⟩
  rw [List.countP_set hn]
  split
  · next h =>
    have := hpos h
    omega
  · rfl

theorem Accounted.start : Accounted (.start settings) where
  listed := List.nodup_nil
  begun := rfl
  active := rfl
  ended := fun _ => rfl
  total := rfl

/-- Who does not keep the books of sessions counts no ends of sessions. -/
theorem keeper_of_name {series : Series} (h : series.name = "ws_disconnections_total") :
    series.keeper = .session := by
  cases series with
  | sessionsEnded => rfl
  | hubClients | hubMessagesRouted | hubDeliveries | hubDrops | hubEvictions | hubSuperseded |
    sessions | sessionsActive | sessionDuration | sessionsRejected | decodeErrors | busRecords |
    busErrors => simp [Series.name] at h

theorem total_of_move (hm : Move P r a r') (ha : a.keeper? ≠ some .session)
    (hl : r.metrics.Listed) : r'.metrics.total "ws_disconnections_total" =
      r.metrics.total "ws_disconnections_total" := by
  refine (metrics_of_move (I := fun m => m.Listed ∧ m.total "ws_disconnections_total" =
    r.metrics.total "ws_disconnections_total") ?_ hm ⟨hl, rfl⟩).2
  rintro m series n hk ⟨hl, htotal⟩
  refine ⟨hl.set, (Metrics.total_set_of_ne hl fun hname => ?_).trans htotal⟩
  rw [keeper_of_name hname] at hk
  exact ha hk

theorem Accounted.join (h : Accounted r) (identity : Identity) (socket : Socket) :
    Accounted (r.join identity socket) := by
  have hstages : (r.join identity socket).stages = r.stages ++ [.opening] := List.map_append
  have hmetrics : (r.join identity socket).metrics =
      (r.metrics.add .sessions 1).add .sessionsActive 1 := rfl
  have hlisted : (r.metrics.add .sessions 1).Listed := h.listed.set
  refine ⟨hlisted.set, ?_, ?_, fun reason => ?_, ?_⟩
  · simp [hmetrics, hstages, Metrics.value_add, h.begun]
  · simp [hmetrics, hstages, Metrics.value_add, h.active, Stage.isUnderWay]
  · simp [hmetrics, hstages, Metrics.value_add, h.ended]
  · rw [hmetrics, hstages, Metrics.total_add hlisted, Metrics.total_add h.listed, h.total]
    simp [Series.name, Stage.isEnded]

/-- A step in the bookkeeping of a session changes one stage. -/
theorem stages_stepSession {acts : List Session.Act} (hs : r.sessions[n]? = some s) :
    (acts.foldl doSession (r.withSession n fun _ => s')).stages = r.stages.set n s'.stage := by
  refine (foldl_eq (v := stages) (fun _ x => by cases x <;> rfl) acts _).trans ?_
  show (r.sessions.modify n fun _ => s').map Session.stage = _
  rw [List.modify_eq_set_getElem?, hs]
  exact List.map_set

/-- **The accounts are kept by the bookkeeping of a session**: what it counts is how
the stage of the session changes. -/
theorem Accounted.keep {t : Timing} {now : Nat} {admission : Admission} {acts : List Session.Act}
    (h : Accounted r) (hs : r.sessions[n]? = some s)
    (hstep : Session.Step t now admission s s' acts)
    (hnext : r' = acts.foldl doSession (r.withSession n fun _ => s')) : Accounted r' := by
  have hstages : r'.stages = r.stages.set n s'.stage := hnext ▸ stages_stepSession hs
  have hstage : r.stages[n]? = some s.stage := by rw [stages, List.getElem?_map, hs]; rfl
  -- what one stage more and one less make of each count, before any counter is looked at
  have hbegun : r.metrics.value .sessions = r'.stages.length := by
    rw [hstages, List.length_set, h.begun]
  have hactive := countP_set (p := Stage.isUnderWay) (y := s'.stage) hstage
  have hended := fun reason => countP_set (p := (· = .ended reason)) (y := s'.stage) hstage
  have htotal := countP_set (p := Stage.isEnded) (y := s'.stage) hstage
  rw [← hstages, ← h.active] at hactive
  rw [← hstages, ← h.total] at htotal
  simp only [← hstages, ← h.ended] at hended
  cases hstep with
  | register hopening =>
    have hmetrics : r'.metrics = r.metrics := by rw [hnext]; rfl
    simp [hopening, Stage.isUnderWay, Stage.isEnded, ← hmetrics] at hactive hended htotal
    exact ⟨hmetrics ▸ h.listed, hmetrics ▸ hbegun, hactive.symm, fun reason => (hended reason).symm,
      htotal.symm⟩
  | refuse hopening =>
    have hmetrics : r'.metrics = r.metrics.lower .sessionsActive := by rw [hnext]; rfl
    simp [hopening, Stage.isUnderWay, Stage.isEnded] at hactive hended htotal
    refine ⟨hmetrics ▸ h.listed.set, ?_, ?_, fun reason => ?_, ?_⟩ <;> rw [hmetrics, Metrics.lower]
    · exact (Metrics.value_set ..).trans hbegun
    · exact (Metrics.value_set ..).trans (Nat.sub_eq_of_eq_add hactive.symm)
    · exact (Metrics.value_set ..).trans (hended reason).symm
    · exact (Metrics.total_set_of_ne h.listed (by decide)).trans htotal.symm
  | finish hserving =>
    have hmetrics : r'.metrics = ((r.metrics.lower .sessionsActive).add
      (.sessionsEnded s.reason) 1).add .sessionDuration 1 := by rw [hnext]; rfl
    have hlower : (r.metrics.lower .sessionsActive).Listed := h.listed.set
    have hadd : ((r.metrics.lower .sessionsActive).add (.sessionsEnded s.reason) 1).Listed :=
      hlower.set
    simp [hserving, Stage.isUnderWay, Stage.isEnded] at hactive hended htotal
    refine ⟨hmetrics ▸ hadd.set, ?_, ?_, fun reason => ?_, ?_⟩ <;> rw [hmetrics]
    · simp [Metrics.value_add, Metrics.lower, Metrics.value_set, hbegun]
    · simp [Metrics.value_add, Metrics.lower, Metrics.value_set]
      omega
    · rw [hended reason]
      simp [Metrics.value_add, Metrics.lower, Metrics.value_set, eq_comm (a := reason)]
    · rw [Metrics.total_add hadd, Metrics.total_add hlower, Metrics.lower,
        Metrics.total_set_of_ne h.listed (by decide)]
      simp [Series.name, htotal]

/-- **The accounts of sessions are kept** by whatever happens. -/
theorem Accounted.move (h : Accounted r) (hq : r.Joined) (hm : Move P r a r') : Accounted r' := by
  by_cases ha : a.keeper? ≠ some .session
  · have hstages := stages_of_move hq hm ha
    have hvalue : ∀ series : Series, series.keeper = .session →
        r'.metrics.value series = r.metrics.value series :=
      fun series hk => value_of_move hm (hk ▸ ha)
    exact ⟨metrics_of_move (fun _ _ _ _ h => h.set) hm h.listed,
      by rw [hvalue _ rfl, hstages, h.begun], by rw [hvalue _ rfl, hstages, h.active],
      fun reason => by rw [hvalue _ rfl, hstages, h.ended],
      by rw [total_of_move hm ha h.listed, hstages, h.total]⟩
  · unfold Act.keeper? at ha
    split at ha
    · exact absurd nofun ha
    · next n =>
      obtain ⟨s, s', acts, hs, hdo, hnext⟩ := stepSession_eq_some (move_step_iff.mp hm)
      exact h.keep hs (Session.step_iff.mp hdo) hnext
    · next identity socket =>
      obtain ⟨-, rfl⟩ := hm
      exact h.join identity socket
    · exact absurd nofun ha
    · exact absurd nofun ha
    · exact absurd nofun ha

theorem accounted_of_run (hr : Run (Move P) (.start settings) record r) : Accounted r := by
  induction hr with
  | stay => exact .start
  | move hbefore hm ih => exact ih.move (run_hub hbefore).2.joined hm

/-- Every session is under way, over or refused. -/
theorem length_stages {stages : List Stage} (h : ∀ stage ∈ stages, stage ≠ .none) :
    stages.length = stages.countP Stage.isUnderWay + stages.countP Stage.isEnded +
      stages.countP (· = .refused) := by
  induction stages with
  | nil => rfl
  | cons stage stages ih =>
    have hrest := ih fun stage hin => h stage (List.mem_cons_of_mem _ hin)
    simp only [List.length_cons, List.countP_cons, hrest]
    cases hstage : stage with
    | none => exact absurd hstage (h stage List.mem_cons_self)
    | opening | refused | serving | ended =>
      simp [Stage.isUnderWay, Stage.isEnded]
      omega

theorem Turn.ended {reason : String} (ht : Turn r n s a s') (h : s.stage = .ended reason) :
    s'.stage = .ended reason := by
  cases ht with
  | read | write | peer | still => exact h
  | keep hstep =>
    cases Session.step_iff.mp hstep with
    | register hstage | refuse hstage | finish hstage =>
      rw [h] at hstage
      cases hstage

/-- **What ended a session is settled.** -/
theorem stage_of_run {later : List (Relay × Act)} {reason : String}
    (hr : Run (Move P) (.start settings) record r) (hs : r.sessions[n]? = some s)
    (h : s.stage = .ended reason) (hlater : Run (Move P) r later r') :
    ∃ s', r'.sessions[n]? = some s' ∧ s'.stage = .ended reason := by
  induction hlater with
  | stay => exact ⟨s, hs, h⟩
  | move hbefore hm ih =>
    obtain ⟨s₁, hs₁, h₁⟩ := ih
    obtain ⟨s', hs', ht⟩ := turn_of_move (run_hub (hr.append hbefore)).2.joined hm hs₁
    exact ⟨s', hs', ht.ended h₁⟩

/-- A session is refused only when the hub has stopped. -/
theorem stopped_of_refused (hr : Run (Move P) (.start settings) record r)
    (hs : r.sessions[n]? = some s) (h : s.stage = .refused) : r.hub.stopped := by
  induction hr generalizing n s with
  | stay => exact absurd hs not_session_start
  | move hbefore hm ih =>
    have hlasts := hubStopped_of_move hbefore hm
    rcases session_of_move (run_hub hbefore).2.joined hm hs with ⟨s₀, hs₀, ht⟩ | ⟨_, _, -, -, rfl⟩
    · cases ht with
      | read | write | peer | still => exact hlasts (ih hs₀ h)
      | keep hstep =>
        cases Session.step_iff.mp hstep with
        | register | finish => cases h
        | refuse _ hadmission => exact hlasts (Hub.stopped_of_refused hadmission)
    · cases h

/-- When both pumps of a session are over, its books can be closed. -/
theorem exists_finish (hr : Run (Move P) (.start settings) record r)
    (hs : r.sessions[n]? = some s) (hserving : s.stage = .serving) (hover : s.pumpsOver) :
    ∃ r', Move P r (.step (.session n)) r' ∧
      r'.sessions[n]? = some { s with stage := .ended s.reason } ∧
      r'.metrics.value (.sessionsEnded s.reason) =
        r.metrics.value (.sessionsEnded s.reason) + 1 := by
  have hdo : s.step r.timing r.now r.hub.admission =
      some ({ s with stage := .ended s.reason }, [.finish s.reason]) :=
    Session.step_iff.mpr (.finish hserving hover)
  have hstep : r.step (.session n) = some ([Session.Act.finish s.reason].foldl doSession
      (r.withSession n fun _ => { s with stage := .ended s.reason })) := by
    simp [step, stepSession, hs, hdo]
  have hm := move_step_iff (P := P).mpr hstep
  obtain ⟨s', hs', hturn⟩ := turn_of_move (run_hub hr).2.joined hm hs
  cases hturn with
  | still ha => exact absurd rfl ha
  | keep hdo' =>
    obtain ⟨rfl, -⟩ := Prod.mk.inj (Option.some.inj (hdo.symm.trans hdo'))
    refine ⟨_, hm, hs', ?_⟩
    simp [doSession, count, withSession, Metrics.value_add, Metrics.lower, Metrics.value_set]

/-- **A session whose pumps are over has ended**, or does so by its next step. -/
theorem ended_or_finish {read write : Option TransportFault}
    (hr : Run (Move P) (.start settings) record r) (hs : r.sessions[n]? = some s)
    (hread : s.reader = some (.ended read)) (hwrite : s.writer = some (.ended write)) :
    s.stage = .ended (Session.ending read write) ∨
    s.stage = .serving ∧ ∃ r', Move P r (.step (.session n)) r' ∧
      r'.sessions[n]? = some { s with stage := .ended (Session.ending read write) } ∧
      r'.metrics.value (.sessionsEnded (Session.ending read write)) =
        r.metrics.value (.sessionsEnded (Session.ending read write)) + 1 := by
  rw [← Session.reason_eq_ending hread hwrite]
  have hbegun : s.reader.isSome := by rw [hread]; rfl
  rcases ((staged_of_run hr hs).of_begun (Or.inl hbegun)).2 with hserving | hended
  · have hover : s.pumpsOver := by simp [Session.pumpsOver, hread, hwrite, ReadPump.isOver,
      WritePump.isOver]
    exact Or.inr ⟨hserving, exists_finish hr hs hserving hover⟩
  · exact Or.inl hended

/-- **A session with a pump that is over comes to its end** when it is left to itself. -/
theorem exists_end (hr : Run (Move P) (.start settings) record r) (hs : r.sessions[n]? = some s)
    (hbegun : s.reader.isSome ∨ s.writer.isSome) (hclosed : (r.connection s.client).closed)
    (hread : s.reader ≠ some .broken) (hwrite : s.writer ≠ some .broken)
    (hintact : s.socket.Intact) (hperiod : settings.keepalive.pingPeriod ≠ 0) :
    ∃ r' s' read write, Leads P n r r' ∧ r'.sessions[n]? = some s' ∧
      s'.reader = some (.ended read) ∧ s'.writer = some (.ended write) ∧
      s'.stage = .ended (Session.ending read write) := by
  obtain ⟨⟨hreader, hwriter⟩, -⟩ := (staged_of_run hr hs).of_begun hbegun
  obtain ⟨p, hp⟩ := Option.isSome_iff_exists.mp hreader
  obtain ⟨q, hq⟩ := Option.isSome_iff_exists.mp hwriter
  have hclosing : Closing P settings n r s := ⟨⟨record, hr⟩, hs, hclosed, hintact⟩
  obtain ⟨r₁, s₁, read, write, hleads, h₁, hread₁, hwrite₁⟩ := hclosing.ends hp hq
    (fun he => hread (he ▸ hp)) (fun he => hwrite (he ▸ hq)) hperiod
  obtain ⟨record₁, hr₁⟩ := h₁.reached
  rcases ended_or_finish hr₁ h₁.here hread₁ hwrite₁ with hended | ⟨-, r', hm, hs', -⟩
  · exact ⟨r₁, s₁, read, write, hleads, h₁.here, hread₁, hwrite₁, hended⟩
  · exact ⟨r', _, read, write, hleads.trans (.of_move hm rfl), hs', hread₁, hwrite₁, rfl⟩

/-- From when its connection is closed on, the pumps of a session do not go on for long. -/
theorem stepsOf_le {later : List (Relay × Act)} {r' : Relay}
    (hr : Run (Move P) (.start settings) record r) (hs : r.sessions[n]? = some s)
    (hbegun : s.reader.isSome ∨ s.writer.isSome) (hclosed : (r.connection s.client).closed)
    (hlater : Run (Move P) r later r') :
    stepsOf (.writer n) later ≤ 5 ∧
      stepsOf (.reader n) later ≤ 3 + 2 * (readBy n later).length := by
  obtain ⟨⟨hreader, hwriter⟩, -⟩ := (staged_of_run hr hs).of_begun hbegun
  obtain ⟨p, hp⟩ := Option.isSome_iff_exists.mp hreader
  obtain ⟨q, hq⟩ := Option.isSome_iff_exists.mp hwriter
  obtain ⟨_, _, -, -, hreads⟩ := stepsOf_reader hr hlater hs hp
  obtain ⟨_, _, -, -, -, hwrites⟩ := stepsOf_writer hr hlater hs hq hclosed
  have hreader := p.left_le
  have hwriter := q.left_le
  omega

/-- **How sessions come to their end, and how they are counted**, whatever comes over
their sockets, whatever stands in their queues, wherever their read pumps look first, and
in whatever order all this happens.

* When one pump of a session is over, the connection is closed; and unless a pump is
  taken down, the session comes to its end when it is left to itself: the other pump
  as well, and then the books of the session are closed.  Whatever happens, the write pump
  takes five steps at most until then, and the read pump two for each item that it still
  takes and three more.
* When both pumps are over, the end of the session is counted, or it is counted by
  its next step, with the fault of the read pump, or else with that of the write pump,
  or else as an orderly close.  What ended a session is settled then.
* What is counted as active are the sessions that are not over.  Each session that is
  over is counted once, with what ended it.  And of all sessions that have begun, each
  is active, or counted among those that ended, or was refused, since the hub had
  stopped. -/
theorem ended_and_accounted (hr : Run (Move P) (.start settings) record r) :
    (∀ n s, r.sessions[n]? = some s →
      ((∃ result, s.reader = some (.ended result) ∨ s.writer = some (.ended result)) →
        (r.connection s.client).closed ∧
        (s.reader ≠ some .broken → s.writer ≠ some .broken → s.socket.Intact →
          settings.keepalive.pingPeriod ≠ 0 → ∃ r' s' read write, Leads P n r r' ∧
            r'.sessions[n]? = some s' ∧ s'.reader = some (.ended read) ∧
            s'.writer = some (.ended write) ∧ s'.stage = .ended (Session.ending read write)) ∧
        ∀ later r', Run (Move P) r later r' → stepsOf (.writer n) later ≤ 5 ∧
          stepsOf (.reader n) later ≤ 3 + 2 * (readBy n later).length) ∧
      (∀ read write, s.reader = some (.ended read) → s.writer = some (.ended write) →
        s.stage = .ended (Session.ending read write) ∨
        s.stage = .serving ∧ ∃ r', r.step (.session n) = some r' ∧
          r'.sessions[n]? = some { s with stage := .ended (Session.ending read write) } ∧
          r'.metrics.value (.sessionsEnded (Session.ending read write)) =
            r.metrics.value (.sessionsEnded (Session.ending read write)) + 1) ∧
      (∀ reason later r', s.stage = .ended reason → Run (Move P) r later r' →
        ∃ s', r'.sessions[n]? = some s' ∧ s'.stage = .ended reason) ∧
      (s.stage = .refused → r.hub.stopped)) ∧
    r.metrics.value .sessionsActive = r.sessions.countP (fun s => !s.isOver) ∧
    (∀ reason, r.metrics.value (.sessionsEnded reason) =
      r.sessions.countP fun s => s.stage = .ended reason) ∧
    r.metrics.value .sessions = r.metrics.value .sessionsActive +
      r.metrics.total "ws_disconnections_total" +
      r.sessions.countP fun s => s.stage = .refused := by
  have haccounts := accounted_of_run hr
  have hstaged : ∀ s ∈ r.sessions, s.Staged := by
    intro s hin
    obtain ⟨n, hs⟩ := List.getElem?_of_mem hin
    exact staged_of_run hr hs
  refine ⟨fun n s hs => ⟨?_, ?_, ?_, ?_⟩, ?_, fun reason => ?_, ?_⟩
  · rintro ⟨result, hended⟩
    have hgone : Pump.Phase.gone ∈ phases s := by
      rcases hended with hp | hp
      · simp [phases, hp, ReadPump.phase]
      · simp [phases, hp, WritePump.phase]
    have hclosed := ((sound_of_run hr hs).fits _ hgone).1
    have hbegun : s.reader.isSome ∨ s.writer.isSome := by
      rcases hended with hp | hp
      · exact Or.inl (by rw [hp]; rfl)
      · exact Or.inr (by rw [hp]; rfl)
    exact ⟨hclosed, exists_end hr hs hbegun hclosed,
      fun _ _ => stepsOf_le hr hs hbegun hclosed⟩
  · intro read write hread hwrite
    rcases ended_or_finish hr hs hread hwrite with hended | ⟨hserving, r', hm, hfinish⟩
    · exact Or.inl hended
    · exact Or.inr ⟨hserving, r', move_step_iff.mp hm, hfinish⟩
  · exact fun reason later r' hended hlater => stage_of_run hr hs hended hlater
  · exact stopped_of_refused hr hs
  · rw [haccounts.active, stages, List.countP_map]
    refine List.countP_congr fun s hin => ?_
    have hstage := (hstaged s hin).ne_none
    cases he : s.stage with
    | none => exact absurd he hstage
    | opening | refused | serving | ended => simp [Session.isOver, Stage.isUnderWay, he]
  · rw [haccounts.ended, stages, List.countP_map]
    rfl
  · have hnone : ∀ stage ∈ r.stages, stage ≠ .none := by
      intro stage hin
      obtain ⟨s, hs, rfl⟩ := List.mem_map.mp hin
      exact (hstaged s hs).ne_none
    have hrefused : r.stages.countP (· = .refused) =
        r.sessions.countP fun s => s.stage = .refused := List.countP_map
    rw [haccounts.begun, haccounts.active, haccounts.total, ← hrefused]
    exact length_stages hnone

/-- Anna comes, and the hub stops, so her connection is closed.  Only then is her peer gone
without a close frame, and her read pump turns to the transport first: it ends with that.
Now her session can come to its end.  It does so; she has come again before its books are
closed, and is refused. -/
theorem ended_and_accounted_gone :
    let anna : Identity := .ofParts "anna" "acme" []
    let P := Population.ofIdentities fun _ => anna
    let coming : Act := .join anna (.toLocal .ready false)
    let gone : Act := .useSocket 0 (.arrive .finished)
    let r₀ : Relay := .start {}
    let r₁ := coming.next r₀
    let r₂ := (Act.step (.session 0)).next r₁
    let r₃ := (Act.step .hub).next r₂
    let r₄ := Act.stopHub.next r₃
    let r₅ := (Act.step .hub).next r₄
    let r₆ := gone.next r₅
    let r₇ := (Act.draw true).next r₆
    let r₈ := (Act.step (.reader 0)).next r₇
    let r₉ := (Act.step (.reader 0)).next r₈
    let r₁₀ := (Act.step (.writer 0)).next r₉
    let r₁₁ := (Act.step (.writer 0)).next r₁₀
    let r₁₂ := (Act.step (.writer 0)).next r₁₁
    let r₁₃ := (Act.step (.writer 0)).next r₁₂
    let r₁₄ := coming.next r₁₃
    let r₁₅ := (Act.step (.session 1)).next r₁₄
    let r₁₆ := (Act.step (.session 0)).next r₁₅
    let record := [(r₀, coming), (r₁, .step (.session 0)), (r₂, .step .hub), (r₃, .stopHub),
      (r₄, .step .hub), (r₅, gone), (r₆, .draw true), (r₇, .step (.reader 0)),
      (r₈, .step (.reader 0))]
    let later := [(r₉, .step (.writer 0)), (r₁₀, .step (.writer 0)), (r₁₁, .step (.writer 0)),
      (r₁₂, .step (.writer 0)), (r₁₃, coming), (r₁₄, .step (.session 1)),
      (r₁₅, .step (.session 0))]
    Run (Move P) r₀ record r₉ ∧ Run (Move P) r₉ later r₁₆ ∧
      ((r₇.sessions[0]?).any fun s => (r₇.connection s.client).closed) ∧
      (∃ r' s', Leads P 0 r₉ r' ∧ r'.sessions[0]? = some s' ∧ s'.stage.isEnded) ∧
      stepsOf (.writer 0) later ≤ 5 ∧
      r₁₆.metrics.value (.sessionsEnded "unexpected_eof") = 1 ∧
      r₁₆.metrics.value .sessionsActive = 0 ∧
      r₁₆.metrics.value .sessions = 0 + r₁₆.metrics.total "ws_disconnections_total" + 1 := by
  intro anna P coming gone r₀ r₁ r₂ r₃ r₄ r₅ r₆ r₇ r₈ r₉ r₁₀ r₁₁ r₁₂ r₁₃ r₁₄ r₁₅ r₁₆ record later
  have hcome : Move P r₀ coming r₁ := ⟨⟨rfl, by decide +kernel, .toLocal _ _⟩, rfl⟩
  have hregister : Move P r₁ (.step (.session 0)) r₂ := move_step (by decide +kernel)
  have happly : Move P r₂ (.step .hub) r₃ := move_step (by decide +kernel)
  have hask : Move P r₃ .stopHub r₄ := ⟨trivial, rfl⟩
  have hstop : Move P r₄ (.step .hub) r₅ := move_step (by decide +kernel)
  have hgone : Move P r₅ gone r₆ := ⟨trivial, rfl⟩
  have hdraw : Move P r₆ (.draw true) r₇ := ⟨trivial, rfl⟩
  have htake : Move P r₇ (.step (.reader 0)) r₈ := move_step (by decide +kernel)
  have hleave : Move P r₈ (.step (.reader 0)) r₉ := move_step (by decide +kernel)
  have hbegin : Move P r₉ (.step (.writer 0)) r₁₀ := move_step (by decide +kernel)
  have hfarewell : Move P r₁₀ (.step (.writer 0)) r₁₁ := move_step (by decide +kernel)
  have hfinish : Move P r₁₁ (.step (.writer 0)) r₁₂ := move_step (by decide +kernel)
  have hleave' : Move P r₁₂ (.step (.writer 0)) r₁₃ := move_step (by decide +kernel)
  have hagain : Move P r₁₃ coming r₁₄ := ⟨⟨rfl, by decide +kernel, .toLocal _ _⟩, rfl⟩
  have hrefuse : Move P r₁₄ (.step (.session 1)) r₁₅ := move_step (by decide +kernel)
  have hbooks : Move P r₁₅ (.step (.session 0)) r₁₆ := move_step (by decide +kernel)
  have hr : Run (Move P) r₀ record r₉ :=
    ((((((((Run.stay.move hcome).move hregister).move happly).move hask).move hstop).move
      hgone).move hdraw).move htake).move hleave
  have hlater : Run (Move P) r₉ later r₁₆ :=
    ((((((Run.stay.move hbegin).move hfarewell).move hfinish).move hleave').move hagain).move
      hrefuse).move hbooks
  obtain ⟨hsessions, -⟩ := ended_and_accounted hr
  obtain ⟨-, hactive, hended, hbegun⟩ := ended_and_accounted (hr.append hlater)
  have hsound : (r₉.sessions[0]?).any fun s => s.reader.any (· matches .ended _) ∧
      s.writer ≠ some .broken ∧ s.socket.Intact := by decide +kernel
  obtain ⟨s, hs, hsound⟩ := (Option.any_eq_true _ _).mp hsound
  obtain ⟨hread, hwrite, hintact⟩ := of_decide_eq_true hsound
  obtain ⟨pump, hp, hread⟩ := (Option.any_eq_true _ _).mp hread
  have hactive : r₁₆.metrics.value .sessionsActive = 0 := hactive.trans (by decide +kernel)
  have hrefused : (r₁₆.sessions.countP fun s => s.stage = .refused) = 1 := by decide +kernel
  cases pump with
  | reading | submitting | leaving | broken => cases hread
  | ended result =>
    obtain ⟨-, hend, hsteps⟩ := (hsessions 0 s hs).1 ⟨result, Or.inl hp⟩
    have hunbroken : s.reader ≠ some .broken := by
      rw [hp]
      exact nofun
    obtain ⟨r', s', read, write, hleads, hs', -, -, hstage⟩ :=
      hend hunbroken hwrite hintact (by decide)
    refine ⟨hr, hlater, by decide +kernel, ⟨r', s', hleads, hs', by rw [hstage]; rfl⟩,
      (hsteps later r₁₆ hlater).1, (hended "unexpected_eof").trans (by decide +kernel), hactive, ?_⟩
    rw [hbegun, hactive, hrefused]

end Relay
end Switchboard
