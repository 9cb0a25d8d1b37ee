import Switchboard.Proofs.Relay.Turns

/-! # Runs of a relay are runs of its hub

Every act of the relay is to the hub a row of acts that can happen to it, since
every session serves a client of its own over a connection that was opened
(`Based`).  So a run of the relay is a run of its hub (`run_hub`), and what holds
along the runs of hubs holds along the runs of relays. -/
namespace Switchboard
namespace Relay

variable {P : Population} {r r' : Relay} {a : Act} {n : Nat} {s : Session}

/-- A run as its hub sees it. -/
def hubRecord (record : List (Relay × Act)) : List (Hub × Hub.Act) :=
  observe (fun r a => r.hub.trail (a.onHub r)) record

theorem hubRecord_snoc {record : List (Relay × Act)} :
    hubRecord (record ++ [(r, a)]) = hubRecord record ++ r.hub.trail (a.onHub r) :=
  observe_snoc _ record r a

/-- Every session serves a client of a population over a connection of its own,
which has been opened. -/
structure Based (P : Population) (r : Relay) : Prop where
  here : r.hub.abandoned = false
  joined : r.Joined
  known : ∀ (n : Nat) (s : Session), r.sessions[n]? = some s → s.client ∈ P
  opened : ∀ (n : Nat) (s : Session), r.sessions[n]? = some s →
    s.client.connection ∈ r.hub.switch.connections
  distinct : ∀ (m n : Nat) (s s' : Session), r.sessions[m]? = some s → r.sessions[n]? = some s' →
    s.client.connection = s'.client.connection → m = n

theorem not_session_start {settings : Settings} :
    (Relay.start settings).sessions[n]? ≠ some s := by
  simp [Relay.start]

theorem Based.start {settings : Settings} : Based P (.start settings) where
  here := rfl
  joined := fun _ _ hs => absurd hs not_session_start
  known := fun _ _ hs => absurd hs not_session_start
  opened := fun _ _ hs => absurd hs not_session_start
  distinct := fun _ _ _ _ hs => absurd hs not_session_start

/-- **What an act of the relay is to the hub can happen to it.** -/
theorem Based.allowed (hb : Based P r) (hm : Move P r a r') :
    Hub.Act.AllowedInRow P r.hub (a.onHub r) := by
  cases a with
  | step t =>
    have hstep := move_step_iff.mp hm
    show Hub.Act.AllowedInRow P r.hub (r.stepOnHub t)
    cases t with
    | hub =>
      obtain ⟨hub, hs, rfl⟩ := stepHub_eq_some hstep
      exact ⟨Option.isSome_iff_exists.mpr ⟨hub, hs⟩, trivial⟩
    | reader n =>
      obtain ⟨s, p, q, acts, hs, hp, hdo, rfl⟩ := stepReader_eq_some hstep
      rw [stepOnHub_reader hs hp hdo]
      exact (ReadPump.turn_of_step hdo).allowed (hb.known n s hs) (hb.opened n s hs) hb.here
    | writer n =>
      obtain ⟨s, p, q, acts, hs, hp, hdo, rfl⟩ := stepWriter_eq_some hstep
      rw [stepOnHub_writer hs hp hdo]
      exact (WritePump.turn_of_step hdo).allowed (hb.known n s hs) (hb.opened n s hs) hb.here
    | session n =>
      obtain ⟨s, s', acts, hs, hdo, rfl⟩ := stepSession_eq_some hstep
      rw [stepOnHub_session hs hdo]
      cases Session.step_iff.mp hdo with
      | register _ hadmitted =>
        exact ⟨⟨hadmitted, hb.here, hb.known n s hs, hb.opened n s hs⟩, trivial⟩
      | refuse | finish => trivial
    | bridge n =>
      obtain ⟨i, b, acts, hi, hdo, rfl⟩ := stepBridge_eq_some hstep
      rw [stepOnHub_bridge hi hdo]
      rcases Bridge.step_eq_some hdo with he | ⟨m, -, hadmitted, he⟩
      · rw [he]
        trivial
      · rw [he]
        exact ⟨⟨hadmitted, hb.here, trivial, trivial⟩, trivial⟩
  | join identity socket =>
    obtain ⟨⟨-, hfresh, -⟩, -⟩ := hm
    exact ⟨hfresh, trivial⟩
  | ask =>
    obtain ⟨hadmitted, -⟩ := hm
    exact ⟨⟨hadmitted, hb.here, trivial, trivial⟩, trivial⟩
  | stopHub | shutDown => exact ⟨trivial, trivial⟩
  | arm | wait | reject | useSocket | beginBridge | useInlet | draw => trivial

variable {capacity : Nat} {record : List (Relay × Act)} {hubs : List (Hub × Hub.Act)}

/-- What an act of the relay does to the hub makes a run of the hub longer. -/
theorem Based.run_onHub (hb : Based P r) (hr : Run (Hub.Move P) (.ofCapacity capacity) hubs r.hub)
    (hm : Move P r a r') :
    Run (Hub.Move P) (.ofCapacity capacity) (hubs ++ r.hub.trail (a.onHub r)) r'.hub := by
  rw [hub_of_move hb.joined hm]
  exact Hub.run_trail hr (hb.allowed hm)

/-- What each of the single acts on the hub keeps that an act consists of, the
act keeps. -/
theorem Based.keep {I : Hub → Prop} (hb : Based P r)
    (hr : Run (Hub.Move P) (.ofCapacity capacity) hubs r.hub) (hm : Move P r a r')
    (hstep : ∀ hubs h h' b, Run (Hub.Move P) (.ofCapacity capacity) hubs h → Hub.Move P h b h' →
      Part r a b → I h → I h') (hi : I r.hub) : I r'.hub := by
  rw [hub_of_move hb.joined hm]
  exact Hub.keep_in_row hr (hb.allowed hm)
    (fun hubs h h' b hr hmove hin => hstep hubs h h' b hr hmove (part_of_mem hm hin)) hi

theorem Based.grows (hb : Based P r) (hr : Run (Hub.Move P) (.ofCapacity capacity) hubs r.hub)
    (hm : Move P r a r') : Switch.Grows r.hub.switch r'.hub.switch :=
  hb.keep (I := fun h => Switch.Grows r.hub.switch h.switch) hr hm
    (fun _ _ _ _ hr hmove _ hg => hg.trans (Hub.grows_of_move hmove (Hub.mailed_of_run hr)))
    fun _ hid => hid

theorem Based.move (hb : Based P r) (hr : Run (Hub.Move P) (.ofCapacity capacity) hubs r.hub)
    (hm : Move P r a r') : Based P r' := by
  have hgrows := hb.grows hr hm
  have hbecome : ∀ (n : Nat) (s' : Session), r'.sessions[n]? = some s' →
      (∃ s, r.sessions[n]? = some s ∧ s'.client = s.client ∧ s'.queue = s.queue) ∨
      ∃ identity socket, a = .join identity socket ∧ n = r.sessions.length ∧
        s'.client = r.newcomer identity ∧ s'.queue = none := by
    intro n s' hs'
    rcases session_of_move hb.joined hm hs' with ⟨s, hs, ht⟩ | ⟨identity, socket, rfl, hn, rfl⟩
    · exact Or.inl ⟨s, hs, ht.client_eq, ht.queue_eq⟩
    · exact Or.inr ⟨identity, socket, rfl, hn, rfl, rfl⟩
  refine ⟨?_, ?_, ?_, ?_, ?_⟩
  · refine hb.keep (I := fun h => h.abandoned = false) hr hm ?_ hb.here
    intro _ h h' b _ hmove hpart hhere
    rw [Hub.abandoned_of_move hmove ?_, hhere]
    rintro rfl
    cases hpart
  · intro n s' hs'
    rcases hbecome n s' hs' with ⟨s, hs, -, hqueue⟩ | ⟨identity, socket, -, -, -, hqueue⟩
    · exact hqueue.trans (hb.joined n s hs)
    · exact hqueue
  · intro n s' hs'
    rcases hbecome n s' hs' with ⟨s, hs, hclient, -⟩ | ⟨identity, socket, rfl, -, hclient, -⟩
    · exact hclient ▸ hb.known n s hs
    · exact hclient ▸ hm.1.1
  · intro n s' hs'
    rcases hbecome n s' hs' with ⟨s, hs, hclient, -⟩ | ⟨identity, socket, rfl, -, hclient, -⟩
    · exact hclient ▸ hgrows _ (hb.opened n s hs)
    · obtain ⟨-, rfl⟩ := hm
      rw [hclient]
      exact Std.ExtTreeMap.mem_insert_self
  · intro m n s' d' hs' hd' he
    -- the connection of a newcomer is none of those that were opened before
    rcases hbecome m s' hs' with ⟨s, hs, hsc, -⟩ | ⟨identity, socket, rfl, hlen, hsc, -⟩ <;>
      rcases hbecome n d' hd' with ⟨d, hd, hdc, -⟩ | ⟨identity', socket', hjoin, hlen', hdc, -⟩
    · exact hb.distinct m n s d hs hd (by rw [← hsc, ← hdc, he])
    · subst hjoin
      rw [hsc, hdc] at he
      exact absurd (he ▸ hb.opened m s hs) hm.1.2.1
    · rw [hsc, hdc] at he
      exact absurd (he ▸ hb.opened n d hd) hm.1.2.1
    · exact hlen.trans hlen'.symm

/-- **A run of a relay is a run of its hub**, and every session serves a client
over a connection of its own. -/
theorem run_hub {settings : Settings} (hr : Run (Move P) (.start settings) record r) :
    Run (Hub.Move P) (.ofCapacity settings.hub.eventBuffer.toNat) (hubRecord record) r.hub ∧
      Based P r := by
  induction hr with
  | stay => exact ⟨.stay, .start⟩
  | move hbefore hm ih =>
    obtain ⟨hhub, hbased⟩ := ih
    rw [hubRecord_snoc]
    exact ⟨hbased.run_onHub hhub hm, hbased.move hhub hm⟩

end Relay
end Switchboard
