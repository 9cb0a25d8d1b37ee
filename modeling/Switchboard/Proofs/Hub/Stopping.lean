import Switchboard.Proofs.Hub.Orphans

/-! # What a stopping hub leaves open

When a hub stops it closes the connections of those who are registered.  A
client whose registration still waits in the mailbox is not registered yet, and
a hub that is asked to stop does not look into the mailbox again: the
registration is lost, although whoever submitted it was told that it was
admitted, and the connection stays open (`open_when_stopped`).

So a hub that has stopped has closed the connections of just those clients whose
registration it came to apply (`closed_iff_applied_of_stopped`).  Nothing is lost
when a hub stops because nobody is left who could submit anything, since it first
empties the mailbox. -/
namespace Switchboard
namespace Hub

variable {P : Population} {capacity : Nat} {h h' : Hub} {a : Act} {c : Client} {e : Event}
  {record : List (Hub × Act)}

/-- Along a run, somebody has submitted an event. -/
def Submitted (e : Event) (record : List (Hub × Act)) : Prop :=
  ∃ h, (h, Act.submit e) ∈ record

/-- Along a run, the hub has taken an event out of the mailbox and applied it. -/
def Applied (e : Event) (record : List (Hub × Act)) : Prop :=
  ∃ h, (h, Act.work) ∈ record ∧ h.next? = some e

/-- Along a run, somebody at the far end of a client's connection has closed
it. -/
def HungUp (c : Client) (record : List (Hub × Act)) : Prop :=
  ∃ h, (h, Act.use c.connection .close) ∈ record

theorem Submitted.snoc (hs : Submitted e record) : Submitted e (record ++ [(h, a)]) :=
  hs.imp fun _ hin => List.mem_append_left _ hin

theorem Applied.snoc (hs : Applied e record) : Applied e (record ++ [(h, a)]) :=
  hs.imp fun _ hin => ⟨List.mem_append_left _ hin.1, hin.2⟩

theorem HungUp.snoc (hs : HungUp c record) : HungUp c (record ++ [(h, a)]) :=
  hs.imp fun _ hin => List.mem_append_left _ hin

/-! ## What becomes of a submitted event -/

/-- A hub that has stopped does nothing any more. -/
theorem not_stopped_of_step (hs : h.step = some h') : ¬ h.stopped := by
  intro hstopped
  rw [step, if_pos hstopped] at hs
  cases hs

theorem not_stopped_of_admitted (hs : h.admission = .admitted) : ¬ h.stopped := by
  rw [((admission_eq_admitted_iff h).mp hs).1]
  exact Bool.false_ne_true

theorem stopped_of_refused (hs : h.admission = .refused) : h.stopped := by
  unfold admission at hs
  split at hs
  · assumption
  · split at hs <;> cases hs

/-- A hub that has stopped stays so. -/
theorem stopped_next (hm : Move P h a h') (hs : h.stopped) : h'.stopped := by
  cases a with
  | submit e => exact absurd hs (not_stopped_of_admitted hm.1)
  | work => exact absurd hs (not_stopped_of_step hm)
  | askStop | abandon =>
    obtain rfl := hm
    exact hs
  | use id u =>
    obtain ⟨-, rfl⟩ := hm
    exact hs

/-- What is left of a hub that has stopped: nobody is registered, and no event
waits. -/
theorem empty_of_stopped (hr : Run (Move P) (.ofCapacity capacity) record h)
    (hstopped : h.stopped) : h.switch.registry = ∅ ∧ h.mailbox = [] := by
  refine hr.invariant (I := fun h => h.stopped → h.switch.registry = ∅ ∧ h.mailbox = []) ?_
    (fun hs => absurd hs Bool.false_ne_true) hstopped
  intro h a h' ih hm hstopped'
  cases a with
  | submit e =>
    obtain ⟨hadmitted, -, -, -, rfl⟩ := hm
    have hrunning : ¬ h.stopped := not_stopped_of_admitted hadmitted
    exact absurd hstopped' hrunning
  | work =>
    have hrunning : ¬ h.stopped := not_stopped_of_step hm
    rcases step_eq_some hm with ⟨e, rest, -, -, rfl⟩ | ⟨-, rfl⟩
    · exact absurd hstopped' hrunning
    · exact ⟨Switch.registry_shutDown, rfl⟩
  | askStop =>
    obtain rfl := hm
    exact ih hstopped'
  | abandon =>
    obtain rfl := hm
    exact ih hstopped'
  | use id u =>
    obtain ⟨-, rfl⟩ := hm
    have hkept : (u.next id h.switch).registry = h.switch.registry := Switch.registry_use u
    exact ⟨hkept.trans (ih hstopped').1, (ih hstopped').2⟩

/-- What waits in the mailbox has been submitted. -/
theorem submitted_of_mailed (hr : Run (Move P) (.ofCapacity capacity) record h)
    (hin : e ∈ h.mailbox) : Submitted e record := by
  induction hr with
  | stay => cases hin
  | @move before g _ a _ hm ih =>
    rcases mem_mailbox_of_move hm hin with hin | rfl
    · exact (ih hin).snoc
    · exact ⟨g, List.mem_append_right _ List.mem_cons_self⟩

/-- A hub that has stopped as it was asked stays so. -/
theorem stopped_of_move (hm : Move P h a h') (hs : h.stopped ∧ h.stopAsked) :
    h'.stopped ∧ h'.stopAsked := by
  cases a with
  | submit e => exact absurd hs.1 (not_stopped_of_admitted hm.1)
  | work => exact absurd hs.1 (not_stopped_of_step hm)
  | askStop =>
    obtain rfl := hm
    exact ⟨hs.1, rfl⟩
  | abandon =>
    obtain rfl := hm
    exact hs
  | use id u =>
    obtain ⟨-, rfl⟩ := hm
    exact hs

/-- Who is to be registered comes over a connection that was opened. -/
theorem opened_of_submitted (hr : Run (Move P) (.ofCapacity capacity) record h)
    (hin : Submitted (.register c) record) : c ∈ P ∧ c.connection ∈ h.switch.connections := by
  induction hr with
  | stay =>
    obtain ⟨h, hin⟩ := hin
    cases hin
  | @move before g _ a hbefore hm ih =>
    have hgrows := grows_of_move hm (mailed_of_run hbefore)
    obtain ⟨f, hin⟩ := hin
    rcases List.mem_append.mp hin with hin | hin
    · obtain ⟨hc, ho⟩ := ih ⟨f, hin⟩
      exact ⟨hc, hgrows _ ho⟩
    · cases List.mem_singleton.mp hin
      obtain ⟨-, -, habout, hopened, -⟩ := id hm
      exact ⟨habout, hgrows _ hopened⟩

/-- **What waits goes on waiting, or it is applied**, or the hub stops because it
was asked to. -/
theorem mailed_of_move (hm : Move P h a h') (hin : e ∈ h.mailbox) :
    e ∈ h'.mailbox ∨ (a = .work ∧ h.next? = some e) ∨ h'.stopped ∧ h'.stopAsked := by
  cases a with
  | submit e' =>
    obtain ⟨-, -, -, -, rfl⟩ := hm
    exact Or.inl (List.mem_append_left _ hin)
  | work =>
    rcases step_eq_some hm with ⟨e', rest, hnext, hbox, rfl⟩ | ⟨hnext, rfl⟩
    · rw [hbox] at hin
      rcases List.mem_cons.mp hin with rfl | hin
      · exact Or.inr (Or.inl ⟨rfl, hnext⟩)
      · exact Or.inl hin
    · refine Or.inr (Or.inr ⟨rfl, ?_⟩)
      show h.stopAsked
      -- one that was not asked would have had this event to apply
      by_contra hasked
      have hhead : h.next? = h.mailbox.head? :=
        if_neg (not_or.mpr ⟨not_stopped_of_step hm, hasked⟩)
      rw [hhead, List.head?_eq_none_iff] at hnext
      rw [hnext] at hin
      cases hin
  | askStop =>
    obtain rfl := hm
    exact Or.inl hin
  | abandon =>
    obtain rfl := hm
    exact Or.inl hin
  | use id u =>
    obtain ⟨-, rfl⟩ := hm
    exact Or.inl hin

/-- **A submitted event waits, or it has been applied**, or the hub was asked to
stop and did. -/
theorem mailed_or_applied_of_submitted (hr : Run (Move P) (.ofCapacity capacity) record h)
    (hin : Submitted e record) :
    e ∈ h.mailbox ∨ Applied e record ∨ h.stopped ∧ h.stopAsked := by
  induction hr with
  | stay =>
    obtain ⟨h, hin⟩ := hin
    cases hin
  | @move before g _ a _ hm ih =>
    obtain ⟨f, hin⟩ := hin
    rcases List.mem_append.mp hin with hin | hin
    · rcases ih ⟨f, hin⟩ with hwaits | happlied | hstopped
      · rcases mailed_of_move hm hwaits with hwaits | ⟨rfl, hnext⟩ | hstopped
        · exact Or.inl hwaits
        · exact Or.inr (Or.inl ⟨g, List.mem_append_right _ List.mem_cons_self, hnext⟩)
        · exact Or.inr (Or.inr hstopped)
      · exact Or.inr (Or.inl happlied.snoc)
      · exact Or.inr (Or.inr (stopped_of_move hm hstopped))
    · cases List.mem_singleton.mp hin
      obtain ⟨-, -, -, -, rfl⟩ := hm
      exact Or.inl (List.mem_append_right _ List.mem_cons_self)

/-! ## Clients whose registration is applied, and the others -/

/-- Applying a registration settles the client. -/
theorem settled_of_applied (hr : Run (Move P) (.ofCapacity capacity) record h)
    (hin : Applied (.register c) record) (hout : ¬ Submitted (.unregister c) record) :
    Switch.Settled P c h.switch := by
  induction hr with
  | stay =>
    obtain ⟨h, hin, -⟩ := hin
    cases hin
  | @move before g g' a hbefore hm ih =>
    have hmailed := mailed_of_run hbefore
    have hreach := Switch.reachable_of_run (run_switch hbefore) .empty
    obtain ⟨f, hin, hnext⟩ := hin
    rcases List.mem_append.mp hin with hin | hin
    · have hsettled := ih ⟨f, hin, hnext⟩ fun hs => hout hs.snoc
      cases hb : a.onSwitch g with
      | none => rwa [switch_eq_of_move hm hb]
      | some b =>
        obtain ⟨ha, ht⟩ := switch_of_move hm hmailed hb
        rw [ht]
        refine hsettled.next hreach ha ?_
        -- nobody has submitted that the client be taken out, so it cannot be applied
        rintro rfl
        obtain ⟨rfl, hnext'⟩ := onSwitch_eq_apply_iff.mp hb
        exact absurd (submitted_of_mailed hbefore (mem_mailbox_of_next hnext')).snoc hout
    · cases List.mem_singleton.mp hin
      obtain ⟨ha, ht⟩ := switch_of_move hm hmailed (onSwitch_eq_apply_iff.mpr ⟨rfl, hnext⟩)
      rw [ht]
      by_cases hclosed : (g.switch.connection c.connection).closed
      · have hsame : (Switch.Act.apply (.register c)).next g.switch = g.switch :=
          Switch.register_of_closed hclosed
        rw [hsame]
        exact ⟨ha, hmailed.opened _ (mem_mailbox_of_next hnext), Or.inr hclosed⟩
      · exact Switch.settled_register ha hclosed

/-- **A client whose registration is not applied** is not registered, and only
the far end closes its connection. -/
theorem open_of_not_applied (hr : Run (Move P) (.ofCapacity capacity) record h) (hc : c ∈ P)
    (hin : ¬ Applied (.register c) record) (hup : ¬ HungUp c record) :
    ¬ h.switch.registry.Registered c ∧ (c.connection ∈ h.switch.connections →
      ¬ (h.switch.connection c.connection).closed) := by
  induction hr with
  | stay => exact ⟨Registry.not_registered_empty, fun hmem => absurd hmem Std.ExtTreeMap.not_mem_empty⟩
  | @move before g _ a hbefore hm ih =>
    obtain ⟨hn, hopen⟩ := ih (fun happlied => hin happlied.snoc) fun hs => hup hs.snoc
    have hswitch := run_switch hbefore
    have hreach := Switch.reachable_of_run hswitch .empty
    cases hb : a.onSwitch g with
    | none =>
      rw [switch_eq_of_move hm hb]
      exact ⟨hn, hopen⟩
    | some b =>
      obtain ⟨ha, ht⟩ := switch_of_move hm (mailed_of_run hbefore) hb
      rw [ht]
      refine ⟨fun hreg => ?_, fun hmem => ?_⟩
      · rcases Switch.registered_of_next hreach ha hreg with hbefore | ⟨rfl, -⟩
        · exact hn hbefore
        · obtain ⟨rfl, hnext⟩ := onSwitch_eq_apply_iff.mp hb
          exact hin ⟨g, List.mem_append_right _ List.mem_cons_self, hnext⟩
      by_cases hu : ∃ u, b = .use c.connection u
      · obtain ⟨u, rfl⟩ := hu
        have hcon : (u.next c.connection g.switch).connection c.connection =
            u.on (g.switch.connection c.connection) :=
          (Switch.connection_use u c.connection).trans (if_pos rfl)
        show ¬ ((u.next c.connection g.switch).connection c.connection).closed
        rw [hcon]
        cases u with
        | connect places => exact Bool.false_ne_true
        | read => exact fun hclosed => hopen ha (Connection.closed_receive ▸ hclosed)
        | abandon => exact hopen ha
        | close =>
          obtain rfl := eq_use_of_onSwitch hb
          exact absurd ⟨g, List.mem_append_right _ List.mem_cons_self⟩ hup
      · rw [Switch.connection_next_of_not_registered hreach.consistent hc hn (not_exists.mp hu)]
        refine hopen ((Switch.mem_connections_of_next hswitch ha hmem).resolve_right ?_)
        rintro ⟨places, rfl⟩
        exact hu ⟨_, rfl⟩

/-- Whose far end has closed the connection has it closed. -/
theorem closed_of_hungUp (hr : Run (Move P) (.ofCapacity capacity) record h) (hc : c ∈ P)
    (hup : HungUp c record) :
    c.connection ∈ h.switch.connections ∧ (h.switch.connection c.connection).closed := by
  induction hr with
  | stay =>
    obtain ⟨h, hin⟩ := hup
    cases hin
  | @move before g _ a hbefore hm ih =>
    have hgrows := grows_of_move hm (mailed_of_run hbefore)
    obtain ⟨f, hin⟩ := hup
    rcases List.mem_append.mp hin with hin | hin
    · obtain ⟨ho, hclosed⟩ := ih ⟨f, hin⟩
      exact ⟨hgrows _ ho, closed_of_move hbefore hm hc ho hclosed⟩
    · cases List.mem_singleton.mp hin
      obtain ⟨ha, rfl⟩ := hm
      refine ⟨hgrows _ ha, ?_⟩
      have hcon : (Switch.close c.connection g.switch).connection c.connection =
          (g.switch.connection c.connection).close :=
        (Switch.connection_close c.connection).trans (if_pos rfl)
      show ((Switch.close c.connection g.switch).connection c.connection).closed
      rw [hcon]
      rfl

/-- **What a hub that has stopped has closed.**  Of the clients whose
registration was admitted, and that nobody asked to be taken out, it has closed
the connections of just those whose registration it came to apply; of the others
only the far end can have closed them.  Unless it was asked to stop, it came to
apply every registration. -/
theorem closed_iff_applied_of_stopped (hr : Run (Move P) (.ofCapacity capacity) record h)
    (hstopped : h.stopped) (hin : Submitted (.register c) record)
    (hout : ¬ Submitted (.unregister c) record) :
    ((h.switch.connection c.connection).closed ↔
      Applied (.register c) record ∨ HungUp c record) ∧
    (¬ h.stopAsked → (h.switch.connection c.connection).closed) := by
  have happlied : Applied (.register c) record → (h.switch.connection c.connection).closed := by
    intro happlied
    refine (settled_of_applied hr happlied hout).registered_or_closed.resolve_left fun hreg => ?_
    rw [(empty_of_stopped hr hstopped).1] at hreg
    exact Registry.not_registered_empty hreg
  obtain ⟨hc, ho⟩ := opened_of_submitted hr hin
  refine ⟨⟨fun hclosed => ?_, ?_⟩, fun hasked => ?_⟩
  · by_contra hneither
    obtain ⟨hnot, hup⟩ := not_or.mp hneither
    exact (open_of_not_applied hr hc hnot hup).2 ho hclosed
  · rintro (hdone | hup)
    · exact happlied hdone
    · exact (closed_of_hungUp hr hc hup).2
  · rcases mailed_or_applied_of_submitted hr hin with hwaits | hdone | ⟨-, hafter⟩
    · rw [(empty_of_stopped hr hstopped).2] at hwaits
      cases hwaits
    · exact happlied hdone
    · exact absurd hafter hasked

/-- Anna and Bob are admitted, but the hub is asked to stop when it has
registered Anna only: it closes her connection and leaves his open. -/
theorem closed_iff_applied_of_stopped_between :
    let anna : Client := ⟨⟨1⟩, .ofParts "anna" "acme" []⟩
    let bob : Client := ⟨⟨2⟩, .ofParts "bob" "acme" []⟩
    let P := Population.ofIdentities fun id => if id = ⟨1⟩ then anna.identity else bob.identity
    let h₀ : Hub := .ofCapacity 2
    let h₁ := h₀.withSwitch (Switch.Use.next ⟨1⟩ (.connect 8))
    let h₂ := h₁.withSwitch (Switch.Use.next ⟨2⟩ (.connect 8))
    let h₃ := h₂.submit (.register anna)
    let h₄ := h₃.submit (.register bob)
    let h₅ := { h₄ with switch := h₄.switch.apply (.register anna), mailbox := [.register bob] }
    let h₆ := h₅.askStop
    let h₇ := h₆.stop
    let record := [(h₀, .use ⟨1⟩ (.connect 8)), (h₁, .use ⟨2⟩ (.connect 8)),
      (h₂, .submit (.register anna)), (h₃, .submit (.register bob)), (h₄, .work), (h₅, .askStop),
      (h₆, .work)]
    Run (Move P) (.ofCapacity 2) record h₇ ∧ h₇.stopped ∧
      Submitted (.register anna) record ∧ Submitted (.register bob) record ∧
      (∀ c, ¬ Submitted (.unregister c) record) ∧
      (h₇.switch.connection ⟨1⟩).closed ∧ ¬ (h₇.switch.connection ⟨2⟩).closed := by
  intro anna bob P h₀ h₁ h₂ h₃ h₄ h₅ h₆ h₇ record
  have hopen₁ : Move P h₀ (.use ⟨1⟩ (.connect 8)) h₁ := ⟨by decide +kernel, rfl⟩
  have hopen₂ : Move P h₁ (.use ⟨2⟩ (.connect 8)) h₂ := ⟨by decide +kernel, rfl⟩
  have hsubmit₁ : Move P h₂ (.submit (.register anna)) h₃ :=
    ⟨rfl, rfl, rfl, by decide +kernel, rfl⟩
  have hsubmit₂ : Move P h₃ (.submit (.register bob)) h₄ :=
    ⟨rfl, rfl, rfl, by decide +kernel, rfl⟩
  have hwork : Move P h₄ .work h₅ := rfl
  have hask : Move P h₅ .askStop h₆ := rfl
  have hstop : Move P h₆ .work h₇ := rfl
  have hr : Run (Move P) h₀ record h₇ :=
    ((((((Run.stay.move hopen₁).move hopen₂).move hsubmit₁).move hsubmit₂).move hwork).move
      hask).move hstop
  have hanna : Submitted (.register anna) record := ⟨h₂, by simp [record]⟩
  have hbob : Submitted (.register bob) record := ⟨h₃, by simp [record]⟩
  have hout : ∀ c, ¬ Submitted (.unregister c) record := by
    rintro c ⟨h, hin⟩
    simp [record] at hin
  have hdone : Applied (.register anna) record := ⟨h₄, by simp [record], rfl⟩
  have hnot : ¬ (Applied (.register bob) record ∨ HungUp bob record) := by
    rintro (⟨h, hin, hnext⟩ | ⟨h, hin⟩)
    · have hworks : h = h₄ ∨ h = h₆ := by simpa [record] using hin
      rcases hworks with rfl | rfl
      · have he : anna = bob := Event.register.inj (Option.some.inj hnext)
        exact absurd (congrArg Client.connection he) (by decide)
      · cases hnext
    · simp [record] at hin
  have hstopped : h₇.stopped := rfl
  refine ⟨hr, hstopped, hanna, hbob, hout, ?_, ?_⟩
  · exact (closed_iff_applied_of_stopped hr hstopped hanna (hout anna)).1.mpr (Or.inl hdone)
  · exact fun hclosed =>
      hnot ((closed_iff_applied_of_stopped hr hstopped hbob (hout bob)).1.mp hclosed)

/-- **Bob is left on an open connection.**  His registration is admitted, but
the hub is asked to stop before it comes to apply it. -/
theorem open_when_stopped :
    let bob : Client := ⟨⟨1⟩, .ofParts "bob" "acme" []⟩
    let P := Population.ofIdentities fun _ => bob.identity
    let h₀ : Hub := .ofCapacity 1
    let h₁ := h₀.withSwitch (Switch.Use.next ⟨1⟩ (.connect 8))
    let h₂ := h₁.submit (.register bob)
    let h₃ := h₂.askStop
    let h₄ := h₃.stop
    let record := [(h₀, .use ⟨1⟩ (.connect 8)), (h₁, .submit (.register bob)), (h₂, .askStop),
      (h₃, .work)]
    Run (Move P) (.ofCapacity 1) record h₄ ∧ h₄.stopped ∧ Submitted (.register bob) record ∧
      ¬ Submitted (.unregister bob) record ∧ ¬ (h₄.switch.connection bob.connection).closed := by
  intro bob P h₀ h₁ h₂ h₃ h₄ record
  have hopen : Move P h₀ (.use ⟨1⟩ (.connect 8)) h₁ := ⟨by decide +kernel, rfl⟩
  have hsubmit : Move P h₁ (.submit (.register bob)) h₂ := ⟨rfl, rfl, rfl, by decide +kernel, rfl⟩
  have hask : Move P h₂ .askStop h₃ := rfl
  have hstop : Move P h₃ .work h₄ := rfl
  have hr : Run (Move P) h₀ record h₄ := (((Run.stay.move hopen).move hsubmit).move hask).move hstop
  refine ⟨hr, rfl, ⟨h₁, by simp [record]⟩, ?_, by decide +kernel⟩
  rintro ⟨h, hin⟩
  simp [record] at hin

end Hub
end Switchboard
