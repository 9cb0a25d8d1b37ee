import Switchboard.Proofs.Hub.Stopping
import Switchboard.Proofs.Relay.Runs

/-! # No ghosts

A session that is over leaves no trace in the registry.  The registration of the
client is submitted before the pumps begin, and it is never submitted again.
Each pump closes the connection before it submits that the client be taken out,
so this stands behind the registration in the mailbox, and nothing stands behind
it that would register the client once more (`Leaving`).  Whatever the hub does
in between, when it comes to that event the client is out for good.

The connections with which the same user has come back are not affected, since
the client is taken out over its own connection.

One of the two pumps is enough.  A pump that its transport takes down sees to
nothing; it is `broken` and not over, and the other pump of the session has to
see to it. -/
namespace Switchboard

namespace Hub

variable {P : Population} {capacity : Nat} {h h' : Hub} {b : Act} {c : Client} {e : Event}
  {hubs : List (Hub × Act)}

/-- A client is about to be out for good: the hub has stopped, or there is an
event in the mailbox that takes the client out and that no registration of the
client comes after, or neither the registry nor the mailbox knows the client. -/
def Leaving (c : Client) (h : Hub) : Prop :=
  h.stopped ∨
  (∃ earlier later, h.mailbox = earlier ++ .unregister c :: later ∧ .register c ∉ later) ∨
  .register c ∉ h.mailbox ∧ ¬ h.switch.registry.Registered c

/-- What follows an event in the mailbox goes on following it until the event is
applied. -/
theorem mailbox_of_move {earlier later : List Event} (hm : Move P h b h')
    (hmail : h.mailbox = earlier ++ e :: later) :
    (∃ rest more, h'.mailbox = rest ++ e :: (later ++ more) ∧ ∀ d ∈ more, b = .submit d) ∨
    (b = .work ∧ h.next? = some e ∧ h'.mailbox = later ∧ h'.switch = h.switch.apply e) ∨
    h'.stopped := by
  have hsame : h'.mailbox = h.mailbox →
      ∃ rest more, h'.mailbox = rest ++ e :: (later ++ more) ∧ ∀ d ∈ more, b = .submit d :=
    fun he => ⟨earlier, [], by rw [he, hmail, List.append_nil], fun _ hd => nomatch hd⟩
  cases b with
  | submit d =>
    obtain ⟨-, -, -, -, rfl⟩ := hm
    refine Or.inl ⟨earlier, [d], ?_, fun d' hd' => by rw [List.mem_singleton.mp hd']⟩
    rw [mailbox_submit, hmail]
    simp
  | work =>
    rcases step_eq_some hm with ⟨d, rest, hnext, hbox, rfl⟩ | ⟨-, rfl⟩
    · rw [hbox] at hmail
      cases earlier with
      | nil =>
        cases hmail
        exact Or.inr (Or.inl ⟨rfl, hnext, rfl, rfl⟩)
      | cons d' earlier =>
        cases hmail
        exact Or.inl ⟨earlier, [], by simp, fun _ hd => nomatch hd⟩
    · exact Or.inr (Or.inr rfl)
  | askStop | abandon =>
    obtain rfl := hm
    exact Or.inl (hsame rfl)
  | use id u =>
    obtain ⟨-, rfl⟩ := hm
    exact Or.inl (hsame rfl)

/-- **Who is about to be out stays so**, unless a registration of the client is
submitted. -/
theorem Leaving.move (hr : Run (Move P) (.ofCapacity capacity) hubs h) (hm : Move P h b h')
    (hb : b ≠ .submit (.register c)) (hc : c ∈ P) (hl : Leaving c h) : Leaving c h' := by
  rcases hl with hstopped | ⟨earlier, later, hmail, hlater⟩ | ⟨hmail, hreg⟩
  · exact Or.inl (stopped_next hm hstopped)
  · rcases mailbox_of_move hm hmail with ⟨rest, more, hmail', hmore⟩ | ⟨rfl, hnext, hrest, hs⟩ |
      hstopped
    · refine Or.inr (Or.inl ⟨rest, later ++ more, hmail', ?_⟩)
      rintro hin
      rcases List.mem_append.mp hin with hin | hin
      · exact hlater hin
      · exact hb (hmore _ hin)
    · -- the event is applied
      refine Or.inr (Or.inr ⟨by rwa [hrest], fun hreg => ?_⟩)
      have hcons := (Switch.reachable_of_run (run_switch hr) .empty).consistent
      rw [hs] at hreg
      have hreg : (h.switch.unregister c).registry.Registered c := hreg
      rw [Switch.registry_unregister] at hreg
      exact ((hcons.registered_unregister hc).mp hreg).2 rfl
    · exact Or.inl hstopped
  · refine Or.inr (Or.inr ⟨fun hin => ?_, fun hreg' => ?_⟩)
    · rcases mem_mailbox_of_move hm hin with hin | rfl
      · exact hmail hin
      · exact hb rfl
    · cases ho : b.onSwitch h with
      | none =>
        rw [switch_eq_of_move hm ho] at hreg'
        exact hreg hreg'
      | some d =>
        obtain ⟨ha, ht⟩ := switch_of_move hm (mailed_of_run hr) ho
        rw [ht] at hreg'
        have hreach := Switch.reachable_of_run (run_switch hr) .empty
        rcases Switch.registered_of_next hreach ha hreg' with hbefore | ⟨rfl, -⟩
        · exact hreg hbefore
        · obtain ⟨-, hnext⟩ := onSwitch_eq_apply_iff.mp ho
          exact hmail (mem_mailbox_of_next hnext)

/-- Who is about to be out is out when no event that takes the client out
waits. -/
theorem Leaving.not_registered (hr : Run (Move P) (.ofCapacity capacity) hubs h)
    (hl : Leaving c h) (hmail : .unregister c ∉ h.mailbox) :
    ¬ h.switch.registry.Registered c := by
  rcases hl with hstopped | ⟨earlier, later, he, -⟩ | ⟨-, hreg⟩
  · rw [(empty_of_stopped hr hstopped).1]
    exact Registry.not_registered_empty
  · exact absurd (he ▸ List.mem_append_right earlier List.mem_cons_self) hmail
  · exact hreg

/-- Uses of a connection touch nothing but the switch. -/
theorem after_uses (h : Hub) (id : ConnectionId) (us : List Switch.Use) :
    ∃ s, h.after (us.map (.use id)) = { h with switch := s } := by
  induction us generalizing h with
  | nil => exact ⟨h.switch, rfl⟩
  | cons u us ih => exact ih (h.withSwitch (u.next id))

end Hub

namespace Pump

variable {P : Population} {capacity : Nat} {h : Hub} {c : Client} {φ ψ : Phase}
  {acts : List Hub.Act} {hubs : List (Hub × Hub.Act)}

/-- What a pump of a client has seen to when it is in a phase. -/
def Phase.Fits (c : Client) (h : Hub) : Phase → Prop
  | working | broken => True
  | leaving => (h.switch.connection c.connection).closed
  | gone => (h.switch.connection c.connection).closed ∧ Hub.Leaving c h

/-- What a pump has seen to lasts, unless the client is registered once more. -/
theorem Phase.Fits.move {h' : Hub} {b : Hub.Act}
    (hr : Run (Hub.Move P) (.ofCapacity capacity) hubs h) (hm : Hub.Move P h b h')
    (hb : b ≠ .submit (.register c)) (hc : c ∈ P) (ho : c.connection ∈ h.switch.connections)
    (hf : φ.Fits c h) : φ.Fits c h' := by
  cases φ with
  | working | broken => trivial
  | leaving => exact Hub.closed_of_move hr hm hc ho hf
  | gone => exact ⟨Hub.closed_of_move hr hm hc ho hf.1, hf.2.move hr hm hb hc⟩

/-- **A pump has seen to it that it may be in its phase** after every turn. -/
theorem Turn.fits {held : List RoutedMessage} (ht : Turn c h.admission held φ ψ acts)
    (hr : Run (Hub.Move P) (.ofCapacity capacity) hubs h) (hc : c ∈ P)
    (ho : c.connection ∈ h.switch.connections) (ha : Hub.Act.AllowedInRow P h acts)
    (hf : φ.Fits c h) : ψ.Fits c (h.after acts) := by
  have hclosed : (h.switch.connection c.connection).closed →
      ((h.after acts).switch.connection c.connection).closed := by
    intro hclosed
    refine (Hub.keep_in_row (I := fun h => c.connection ∈ h.switch.connections ∧
      (h.switch.connection c.connection).closed) hr ha ?_ ⟨ho, hclosed⟩).2
    rintro hubs h h' b hr hm - ⟨ho, hclosed⟩
    exact ⟨Hub.grows_of_move hm (Hub.mailed_of_run hr) _ ho,
      Hub.closed_of_move hr hm hc ho hclosed⟩
  cases ht with
  | work | breakDown | hand => trivial
  | hangUp us hus =>
    show ((h.after (us.map (.use c.connection) ++ [.use c.connection .close])).switch.connection
      c.connection).closed
    rw [Hub.after, List.foldl_append]
    exact congrArg Connection.closed ((Switch.connection_close _).trans (if_pos rfl))
  | leave us hus hadmitted =>
    refine ⟨hclosed hf, Or.inr (Or.inl ⟨h.mailbox, [], ?_, List.not_mem_nil⟩)⟩
    obtain ⟨s, he⟩ := Hub.after_uses (h.submit (.unregister c)) c.connection us
    exact congrArg Hub.mailbox he
  | part us hus hrefused =>
    refine ⟨hclosed hf, Or.inl ?_⟩
    obtain ⟨s, he⟩ := Hub.after_uses h c.connection us
    rw [he]
    exact Hub.stopped_of_refused hrefused

end Pump

namespace Relay

variable {P : Population} {capacity : Nat} {r r' : Relay} {a : Act} {n : Nat} {s s' : Session}
  {hubs : List (Hub × Hub.Act)} {record : List (Relay × Act)} {settings : Settings}

/-- A hub that has stopped stays so. -/
theorem hubStopped_of_move (hr : Run (Move P) (.start settings) record r) (hm : Move P r a r')
    (hs : r.hub.stopped) : r'.hub.stopped := by
  obtain ⟨hhub, hbased⟩ := run_hub hr
  exact hbased.keep (I := fun h => h.stopped) hhub hm
    (fun _ _ _ _ _ hmove _ hs => Hub.stopped_next hmove hs) hs

/-- The phases of the pumps of a session that have begun. -/
def phases (s : Session) : List Pump.Phase :=
  (s.reader.map ReadPump.phase).toList ++ (s.writer.map WritePump.phase).toList

/-- No pump begins before the client is registered, and the pumps have seen to
what they must. -/
structure Sound (h : Hub) (s : Session) : Prop where
  opening : s.stage = .opening → phases s = []
  fits : ∀ φ ∈ phases s, φ.Fits s.client h

/-- Only the bookkeeping of a session that is about to begin submits that its
client be registered. -/
theorem Part.of_register {b : Hub.Act} {c : Client} (hpart : Part r a b)
    (hb : b = .submit (.register c)) :
    ∃ (m : Nat) (s : Session), r.sessions[m]? = some s ∧ s.stage = .opening ∧ s.client = c := by
  cases hpart with
  | register hs hstage =>
    cases hb
    exact ⟨_, _, hs, hstage, rfl⟩
  | work | unregister | deliver | close | ofQueue | connect | ask | askStop => cases hb

/-- What the pumps of a session have seen to outlasts every act of the relay. -/
theorem Sound.outlasts (hsound : Sound r.hub s) (hb : Based P r)
    (hr : Run (Hub.Move P) (.ofCapacity capacity) hubs r.hub) (hm : Move P r a r')
    (hs : r.sessions[n]? = some s) : ∀ φ ∈ phases s, φ.Fits s.client r'.hub := by
  intro φ hφ
  refine (hb.keep (I := fun h => s.client.connection ∈ h.switch.connections ∧ φ.Fits s.client h)
    hr hm ?_ ⟨hb.opened n s hs, hsound.fits φ hφ⟩).2
  rintro hubs h h' b hr hmove hpart ⟨ho, hf⟩
  refine ⟨Hub.grows_of_move hmove (Hub.mailed_of_run hr) _ ho,
    hf.move hr hmove ?_ (hb.known n s hs) ho⟩
  -- a session whose client is still to be registered has no pumps
  intro hregister
  obtain ⟨m, d, hd, hstage, hclient⟩ := hpart.of_register hregister
  obtain rfl := hb.distinct m n d s hd hs (congrArg Client.connection hclient)
  obtain rfl : s = d := Option.some.inj (hs.symm.trans hd)
  rw [hsound.opening hstage] at hφ
  cases hφ

/-- **Sessions stay sound.** -/
theorem sound_of_move (hall : ∀ (n : Nat) (s : Session), r.sessions[n]? = some s → Sound r.hub s)
    (hb : Based P r) (hr : Run (Hub.Move P) (.ofCapacity capacity) hubs r.hub)
    (hm : Move P r a r') (hs' : r'.sessions[n]? = some s') : Sound r'.hub s' := by
  rcases session_of_move hb.joined hm hs' with ⟨s, hs, ht⟩ | ⟨identity, socket, -, -, rfl⟩
  swap
  · exact ⟨fun _ => rfl, fun φ hφ => nomatch hφ⟩
  have hsound := hall n s hs
  have hlasts := hsound.outlasts hb hr hm hs
  -- a pump that takes a turn sees to what its next phase needs
  have hturn : ∀ held φ ψ acts, φ ∈ phases s → a.onHub r = acts →
      Pump.Turn s.client r.hub.admission held φ ψ acts → ψ.Fits s.client r'.hub := by
    rintro held φ ψ acts hφ rfl hturn
    rw [hub_of_move hb.joined hm]
    exact hturn.fits hr (hb.known n s hs) (hb.opened n s hs) (hb.allowed hm) (hsound.fits φ hφ)
  cases ht with
  | @read p q acts hp hstep =>
    have hin : p.phase ∈ phases s := by simp [phases, hp]
    refine ⟨fun hopening => ?_, fun φ hφ => ?_⟩
    · have hnone : phases s = [] := hsound.opening hopening
      rw [hnone] at hin
      cases hin
    · rcases List.mem_cons.mp hφ with rfl | hφ
      · exact hturn _ _ _ _ hin (stepOnHub_reader hs hp hstep) (ReadPump.turn_of_step hstep)
      · exact hlasts φ (List.mem_append_right _ hφ)
  | @write p q acts hp hstep =>
    have hin : p.phase ∈ phases s := by simp [phases, hp]
    refine ⟨fun hopening => ?_, fun φ hφ => ?_⟩
    · have hnone : phases s = [] := hsound.opening hopening
      rw [hnone] at hin
      cases hin
    · rcases List.mem_append.mp hφ with hφ | hφ
      · exact hlasts φ (List.mem_append_left _ hφ)
      · obtain rfl := List.mem_singleton.mp hφ
        exact hturn _ _ _ _ hin (stepOnHub_writer hs hp hstep) (WritePump.turn_of_step hstep)
  | keep hstep =>
    cases Session.step_iff.mp hstep with
    | register =>
      refine ⟨nofun, fun φ hφ => ?_⟩
      have hbegun : φ ∈ [Pump.Phase.working, .working] := hφ
      obtain rfl : φ = .working := by simpa using hbegun
      trivial
    | refuse | finish => exact ⟨nofun, hlasts⟩
  | peer | still => exact ⟨hsound.opening, hlasts⟩

/-- Sessions are sound at every moment. -/
theorem sound_of_run (hr : Run (Move P) (.start settings) record r)
    (hs : r.sessions[n]? = some s) : Sound r.hub s := by
  induction hr generalizing n s with
  | stay => exact absurd hs not_session_start
  | move hbefore hm ih =>
    obtain ⟨hhub, hb⟩ := run_hub hbefore
    exact sound_of_move (fun n s hs => ih hs) hb hhub hm hs

/-- **No ghosts.**  When a pump of a session is over and no event waits that takes
the client out, no index knows the client and its connection is closed.  And
whenever the hub applied an event that takes the client out, everybody else who
was registered stayed so. -/
theorem absent_of_pump_ended (hr : Run (Move P) (.start settings) record r)
    (hs : r.sessions[n]? = some s)
    (hover : ∃ result, s.reader = some (.ended result) ∨ s.writer = some (.ended result))
    (hmail : .unregister s.client ∉ r.hub.mailbox) :
    r.hub.switch.registry.Absent s.client ∧ (r.connection s.client).closed ∧
    ∀ u v, (u, Act.step .hub) ∈ record → u.hub.next? = some (.unregister s.client) →
      u.step .hub = some v → ∀ d, d ≠ s.client → u.hub.switch.registry.Registered d →
        v.hub.switch.registry.Registered d := by
  obtain ⟨hhub, hb⟩ := run_hub hr
  have hcons := (Switch.reachable_of_run (Hub.run_switch hhub) .empty).consistent
  have hc := hb.known n s hs
  have hin : Pump.Phase.gone ∈ phases s := by
    obtain ⟨result, hp | hp⟩ := hover
    · simp [phases, hp, ReadPump.phase]
    · simp [phases, hp, WritePump.phase]
  obtain ⟨hclosed, hleaving⟩ := (sound_of_run hr hs).fits _ hin
  refine ⟨hcons.absent hc (hleaving.not_registered hhub hmail), hclosed, ?_⟩
  intro u v hbefore hnext hstep d hne hreg
  obtain ⟨before, hr', -⟩ := hr.of_mem hbefore
  have hcons' := (Switch.reachable_of_run (Hub.run_switch (run_hub hr').1) .empty).consistent
  obtain ⟨hub, hdo, rfl⟩ := stepHub_eq_some hstep
  rcases Hub.step_eq_some hdo with ⟨e, rest, he, -, rfl⟩ | ⟨he, -⟩
  · obtain rfl : e = .unregister s.client := Option.some.inj (he.symm.trans hnext)
    show (u.hub.switch.unregister s.client).registry.Registered d
    rw [Switch.registry_unregister]
    exact (hcons'.registered_unregister hc).mpr ⟨hreg, hne⟩
  · rw [he] at hnext
    cases hnext

/-- Anna comes, and comes again over a second connection; then the peer of the
first is gone.  The event that takes her out over the first connection comes to
be applied when the second is registered already, and leaves it registered. -/
theorem absent_of_pump_ended_reconnect :
    let anna : Identity := .ofParts "anna" "acme" []
    let P := Population.ofIdentities fun _ => anna
    let coming : Act := .join anna (.toLocal .ready false)
    let r₀ : Relay := .start {}
    let r₁ := coming.next r₀
    let r₂ := (Act.step (.session 0)).next r₁
    let r₃ := (Act.step .hub).next r₂
    let r₄ := coming.next r₃
    let r₅ := (Act.step (.session 1)).next r₄
    let r₆ := (Act.useSocket 0 (.arrive .finished)).next r₅
    let r₇ := (Act.step (.reader 0)).next r₆
    let r₈ := (Act.step (.reader 0)).next r₇
    let r₉ := (Act.step .hub).next r₈
    let r₁₀ := (Act.step .hub).next r₉
    let record := [(r₀, coming), (r₁, .step (.session 0)), (r₂, .step .hub), (r₃, coming),
      (r₄, .step (.session 1)), (r₅, .useSocket 0 (.arrive .finished)), (r₆, .step (.reader 0)),
      (r₇, .step (.reader 0)), (r₈, .step .hub), (r₉, .step .hub)]
    Run (Move P) r₀ record r₁₀ ∧ ∃ first, r₁₀.sessions[0]? = some first ∧
      r₁₀.hub.switch.registry.Absent first.client ∧ (r₁₀.connection first.client).closed ∧
      r₁₀.hub.switch.registry.isRegistered (r₃.newcomer anna) := by
  intro anna P coming r₀ r₁ r₂ r₃ r₄ r₅ r₆ r₇ r₈ r₉ r₁₀ record
  have hcome : Move P r₀ coming r₁ := ⟨⟨rfl, by decide +kernel, .toLocal _ _⟩, rfl⟩
  have hregister : Move P r₁ (.step (.session 0)) r₂ := move_step (by decide +kernel)
  have happly : Move P r₂ (.step .hub) r₃ := move_step (by decide +kernel)
  have hagain : Move P r₃ coming r₄ := ⟨⟨rfl, by decide +kernel, .toLocal _ _⟩, rfl⟩
  have hregister' : Move P r₄ (.step (.session 1)) r₅ := move_step (by decide +kernel)
  have hgone : Move P r₅ (.useSocket 0 (.arrive .finished)) r₆ := ⟨trivial, rfl⟩
  have hclose : Move P r₆ (.step (.reader 0)) r₇ := move_step (by decide +kernel)
  have hleave : Move P r₇ (.step (.reader 0)) r₈ := move_step (by decide +kernel)
  have happly' : Move P r₈ (.step .hub) r₉ := move_step (by decide +kernel)
  have htakeOut : Move P r₉ (.step .hub) r₁₀ := move_step (by decide +kernel)
  have hr : Run (Move P) r₀ record r₁₀ :=
    (((((((((Run.stay.move hcome).move hregister).move happly).move hagain).move hregister').move
      hgone).move hclose).move hleave).move happly').move htakeOut
  have hended : (r₁₀.sessions[0]?).any fun s => s.reader.any (· matches .ended _) := by
    decide +kernel
  obtain ⟨first, hs, hended⟩ := (Option.any_eq_true _ _).mp hended
  obtain ⟨pump, hp, hended⟩ := (Option.any_eq_true _ _).mp hended
  have hempty : r₁₀.hub.mailbox.isEmpty := by decide +kernel
  have hmail : .unregister first.client ∉ r₁₀.hub.mailbox := by
    rw [List.isEmpty_iff.mp hempty]
    exact List.not_mem_nil
  refine ⟨hr, first, hs, ?_⟩
  cases pump with
  | reading | submitting | leaving | broken => cases hended
  | ended result =>
    obtain ⟨habsent, hclosed, -⟩ := absent_of_pump_ended hr hs ⟨result, Or.inl hp⟩ hmail
    exact ⟨habsent, hclosed, by decide +kernel⟩

end Relay
end Switchboard
