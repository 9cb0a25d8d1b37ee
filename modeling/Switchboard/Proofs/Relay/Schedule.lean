import Switchboard.Proofs.Relay.Runs

/-! # What a schedule does

A schedule gives the tasks their turns and lets time pass; what comes from outside
is followed by turns until all tasks wait.  None of that is more than a row of
acts (`reaches_settle`, `reaches_advance`), so a relay that is executed makes a
run, and what is shown of all runs holds of it.

A run asks of whoever comes that the name of the connection is not taken.  Names
are given out by number, so this is so until the numbers are used up
(`newcomer_fresh`). -/
namespace Switchboard

namespace Relay

variable {P : Population} {r r' r'' : Relay} {a : Act} {record : List (Relay × Act)}
  {settings : Settings}

/-- Whether a run leads from a relay to a relay. -/
def Reaches (P : Population) (r r' : Relay) : Prop := ∃ record, Run (Move P) r record r'

theorem Reaches.rfl : Reaches P r r := ⟨[], .stay⟩

theorem Reaches.trans : Reaches P r r' → Reaches P r' r'' → Reaches P r r'' := by
  rintro ⟨before, h⟩ ⟨after, h'⟩
  exact ⟨before ++ after, h.append h'⟩

theorem Reaches.move (h : Reaches P r r') (hm : Move P r' a r'') : Reaches P r r'' := by
  obtain ⟨record, h⟩ := h
  exact ⟨_, h.move hm⟩

/-! ## Turns -/

theorem reaches_setTimer (t : Task) (r : Relay) : Reaches P r (r.setTimer t) :=
  Reaches.rfl.move (a := .arm t) ⟨trivial, rfl⟩

theorem reaches_goOn (t : Task) (fuel : Nat) (r : Relay) : Reaches P r (r.goOn t fuel) := by
  induction fuel generalizing r with
  | zero => exact .rfl
  | succ fuel ih =>
    rw [goOn]
    split
    · next next hstep => exact (Reaches.rfl.move (move_step_iff.mpr hstep)).trans (ih next)
    · exact .rfl

theorem reaches_turn (r : Relay) (t : Task) : Reaches P r (r.turn t) := by
  rw [turn]
  split
  · next next hstep =>
    have hstart : Reaches P r next := Reaches.rfl.move (move_step_iff.mpr hstep)
    exact (hstart.trans (reaches_goOn t _ next)).trans (reaches_setTimer t _)
  · exact reaches_setTimer t r

theorem reaches_turns (ts : List Task) (r : Relay) : Reaches P r (ts.foldl turn r) := by
  induction ts generalizing r with
  | nil => exact .rfl
  | cons t ts ih => exact (reaches_turn r t).trans (ih _)

theorem reaches_rounds (fuel : Nat) (r : Relay) : Reaches P r (rounds fuel r) := by
  induction fuel generalizing r with
  | zero => exact .rfl
  | succ fuel ih =>
    have hround := reaches_turns (P := P) r.tasks r
    rw [rounds]
    split
    · exact hround.trans (ih _)
    · exact hround

/-- **Letting the tasks go on until they wait is a run.** -/
theorem reaches_settle (r : Relay) : Reaches P r r.settle := reaches_rounds _ r

theorem reaches_tick (r : Relay) : Reaches P r r.tick := by
  have hlater : Reaches P r { r with now := r.now + 1 } :=
    Reaches.rfl.move (a := .wait 1) ⟨trivial, rfl⟩
  rw [tick]
  split
  · exact hlater
  · exact (hlater.trans (reaches_turns _ _)).trans (reaches_settle _)

/-- **Letting time pass is a run.** -/
theorem reaches_advance (n : Nat) (r : Relay) : Reaches P r (advance n r) := by
  induction n generalizing r with
  | zero => exact .rfl
  | succ n ih => exact (reaches_tick r).trans (ih _)

/-! ## The names of connections -/

/-- Only the opening of a connection adds one to those of the hub. -/
theorem mem_connections_of_part {capacity : Nat} {hubs : List (Hub × Hub.Act)} {h h' : Hub}
    {b : Hub.Act} {id : ConnectionId} (hr : Run (Hub.Move P) (.ofCapacity capacity) hubs h)
    (hm : Hub.Move P h b h') (hpart : Part r a b) (hid : id ∈ h'.switch.connections) :
    id ∈ h.switch.connections ∨
      ∃ identity socket, a = .join identity socket ∧ id = (r.newcomer identity).connection := by
  cases ho : b.onSwitch h with
  | none =>
    rw [Hub.switch_eq_of_move hm ho] at hid
    exact Or.inl hid
  | some d =>
    obtain ⟨ha, ht⟩ := Hub.switch_of_move hm (Hub.mailed_of_run hr) ho
    rw [ht] at hid
    rcases Switch.mem_connections_of_next (Hub.run_switch hr) ha hid with hbefore | ⟨places, rfl⟩
    · exact Or.inl hbefore
    · obtain rfl := Hub.eq_use_of_onSwitch ho
      cases hpart with
      | ofQueue _ hu => rcases hu with hu | hu <;> cases hu
      | connect identity socket => exact Or.inr ⟨identity, socket, rfl, rfl⟩

/-- No act takes a number back. -/
theorem opened_le_of_move (hm : Move P r a r') : r.opened ≤ r'.opened := by
  cases a with
  | step t =>
    obtain ⟨-, -, -, hopened⟩ := unchanged_of_step (move_step_iff.mp hm)
    exact Nat.le_of_eq hopened.symm
  | join identity socket =>
    obtain ⟨-, rfl⟩ := hm
    exact Nat.le_succ r.opened
  | arm t =>
    obtain ⟨timers, rfl⟩ := arm_of_move hm
    exact Nat.le_refl r.opened
  | wait | reject | useSocket | beginBridge | useInlet | ask | stopHub | shutDown | draw =>
    obtain ⟨-, rfl⟩ := hm
    exact Nat.le_refl r.opened

/-- **Every connection has one of the numbers that have been given out.** -/
theorem numbered_of_run (hr : Run (Move P) (.start settings) record r) {id : ConnectionId}
    (hid : id ∈ r.hub.switch.connections) :
    ∃ time k, k < r.opened ∧ id = .ofSerial time k := by
  induction hr with
  | stay => exact absurd hid Std.ExtTreeMap.not_mem_empty
  | @move record r r' a hbefore hm ih =>
    obtain ⟨hhub, hb⟩ := run_hub hbefore
    -- whatever an act does to the hub, it opens no connection but that of a newcomer
    have hknown : ∀ id ∈ r'.hub.switch.connections, id ∈ r.hub.switch.connections ∨
        ∃ identity socket, a = .join identity socket ∧
          id = (r.newcomer identity).connection := by
      refine hb.keep (I := fun h => ∀ id ∈ h.switch.connections, id ∈ r.hub.switch.connections ∨
        ∃ identity socket, a = .join identity socket ∧ id = (r.newcomer identity).connection)
        hhub hm ?_ fun id hid => Or.inl hid
      intro hubs h h' b hr hmove hpart hold id hid
      rcases mem_connections_of_part hr hmove hpart hid with hid | hnew
      · exact hold id hid
      · exact Or.inr hnew
    rcases hknown id hid with hold | ⟨identity, socket, rfl, rfl⟩
    · obtain ⟨time, k, hk, he⟩ := ih hold
      exact ⟨time, k, Nat.lt_of_lt_of_le hk (opened_le_of_move hm), he⟩
    · obtain ⟨-, rfl⟩ := hm
      exact ⟨r.now, r.opened, Nat.lt_succ_self _, rfl⟩

/-- **Whoever comes has a connection of its own**, until the numbers are used up. -/
theorem newcomer_fresh (hr : Run (Move P) (.start settings) record r) (hn : r.opened < 1 <<< 74)
    (identity : Identity) : (r.newcomer identity).connection ∉ r.hub.switch.connections := by
  intro hin
  obtain ⟨time, k, hk, he⟩ := numbered_of_run hr hin
  have hsame : r.opened = k := ConnectionId.eq_of_ofSerial_eq hn (Nat.lt_trans hk hn) he
  exact absurd hk (hsame ▸ Nat.lt_irrefl _)

/-! ## Requests -/

/-- **A session that begins and goes on until it waits is a run.** -/
theorem reaches_beginSession {identity : Identity} {socket : Socket}
    (hr : Run (Move P) (.start settings) record r) (hn : r.opened < 1 <<< 74)
    (hc : r.newcomer identity ∈ P) (hs : socket.Fresh) :
    Reaches P r (r.beginSession identity socket).2 := by
  have hjoin : Move P r (.join identity socket) (r.join identity socket) :=
    ⟨⟨hc, newcomer_fresh hr hn identity, hs⟩, rfl⟩
  exact (Reaches.rfl.move hjoin).trans (reaches_settle _)

/-- Telling the health of a relay whose mailbox is not full is a run. -/
theorem reaches_health (hfull : r.hub.admission ≠ .wait) : Reaches P r r.health.2 := by
  cases hadmission : r.hub.admission with
  | wait => exact absurd hadmission hfull
  | refused =>
    have hsame : r.health.2 = r := by
      rw [health, stats, submit, hadmission]
      rfl
    rw [hsame]
    exact .rfl
  | admitted =>
    have hasked : r.health.2 = (Act.ask.next r).settle := by
      rw [health, stats, submit, hadmission]
      rfl
    rw [hasked]
    exact (Reaches.rfl.move (a := .ask) ⟨hadmission, rfl⟩).trans (reaches_settle _)

/-- Whoever asks for a WebSocket is turned away or begins a session. -/
theorem reaches_connect {q : Request} (hr : Run (Move P) (.start settings) record r)
    (hn : r.opened < 1 <<< 74)
    (hc : ∀ identity, Identity.ofHeaders q.headers = .ok identity → r.newcomer identity ∈ P) :
    Reaches P r (r.connect q).2 := by
  rw [connect, acceptWebSocket]
  cases hidentity : Identity.ofHeaders q.headers with
  | error e => exact Reaches.rfl.move (a := .reject) ⟨trivial, rfl⟩
  | ok identity =>
    cases q.checkUpgrade with
    | error e => exact .rfl
    | ok => exact reaches_beginSession hr hn (hc identity hidentity) (.toRemote _)

/-- **Answering a request is a run**, whatever the request. -/
theorem reaches_respond {q : Request} (hr : Run (Move P) (.start settings) record r)
    (hn : r.opened < 1 <<< 74) (hfull : r.hub.admission ≠ .wait)
    (hc : ∀ identity, Identity.ofHeaders q.headers = .ok identity → r.newcomer identity ∈ P) :
    Reaches P r (r.respond q).2 := by
  rw [respond]
  cases Route.ofPath? q.path with
  | none => exact .rfl
  | some route =>
    dsimp only
    split
    · exact .rfl
    · cases route with
      | health => exact reaches_health hfull
      | metrics => exact .rfl
      | webSocket =>
        have hconnect := reaches_connect hr hn hc
        cases hanswer : r.connect q with
        | mk answer r₁ =>
          rw [hanswer] at hconnect
          cases answer with
          | ok => exact hconnect
          | error => exact hconnect

end Relay
end Switchboard
