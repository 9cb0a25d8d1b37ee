import Switchboard.Proofs.Hub.Acts
import Switchboard.Proofs.Switch.Accepted

/-! # No live connection is orphaned

Those who submit that a client be taken out close its connection first.  The
event may wait in the mailbox for long, but a closed connection stays closed
(`closed_of_mailed`).  So the switch of the hub takes out only whose connection
is closed, and the clients that the hub has accepted are settled. -/
namespace Switchboard
namespace Hub

variable {P : Population} {capacity : Nat} {h h' : Hub} {a : Act} {c : Client}
  {record : List (Hub × Act)}

/-- Along a run, the hub has registered a client while its connection was
open. -/
def Accepted (c : Client) (record : List (Hub × Act)) : Prop :=
  ∃ h, (h, Act.work) ∈ record ∧ h.next? = some (.register c) ∧
    ¬ (h.switch.connection c.connection).closed

/-- Along a run, nobody has submitted that a client be taken out before its
connection was closed. -/
def ClosesFirst (record : List (Hub × Act)) : Prop :=
  ∀ h c, (h, Act.submit (.unregister c)) ∈ record → (h.switch.connection c.connection).closed

theorem mem_switchRecord_iff {s : Switch} {b : Switch.Act} :
    (s, b) ∈ switchRecord record ↔
      ∃ h a, (h, a) ∈ record ∧ a.onSwitch h = some b ∧ h.switch = s := by
  simp only [switchRecord, observe, List.mem_flatMap, Option.mem_toList,
    Option.map_eq_some_iff, Prod.mk.injEq, Prod.exists]
  constructor
  · rintro ⟨h, a, hin, b, hb, rfl, rfl⟩
    exact ⟨h, a, hin, hb, rfl⟩
  · rintro ⟨h, a, hin, hb, rfl⟩
    exact ⟨h, a, hin, b, hb, rfl, rfl⟩

/-- The hub applies an event to its switch only as its own work. -/
theorem onSwitch_eq_apply_iff {e : Event} :
    a.onSwitch h = some (.apply e) ↔ a = .work ∧ h.next? = some e := by
  constructor
  · intro hb
    cases a with
    | submit e | askStop | abandon | use id u => cases hb
    | work =>
      cases hnext : h.next? with
      | none =>
        rw [Act.onSwitch, hnext] at hb
        cases hb
      | some e =>
        rw [Act.onSwitch, hnext] at hb
        cases hb
        exact ⟨rfl, rfl⟩
  · rintro ⟨rfl, hnext⟩
    rw [Act.onSwitch, hnext]
    rfl

/-- What is applied next stands in the mailbox. -/
theorem mem_mailbox_of_next {e : Event} (hnext : h.next? = some e) : e ∈ h.mailbox := by
  unfold next? at hnext
  split at hnext
  · cases hnext
  · exact List.mem_of_mem_head? hnext

/-- A connection of a client that was opened and closed stays closed. -/
theorem closed_of_move (hr : Run (Move P) (.ofCapacity capacity) record h)
    (hm : Move P h a h') (hc : c ∈ P) (ho : c.connection ∈ h.switch.connections)
    (hclosed : (h.switch.connection c.connection).closed) :
    (h'.switch.connection c.connection).closed := by
  cases hb : a.onSwitch h with
  | none => rwa [switch_eq_of_move hm hb]
  | some b =>
    obtain ⟨ha, ht⟩ := switch_of_move hm (mailed_of_run hr) hb
    have hreach := Switch.reachable_of_run (run_switch hr) .empty
    rw [ht]
    exact Switch.closed_next hreach.consistent hc ha ho hclosed

/-- **Whoever waits to be taken out has its connection closed.** -/
theorem closed_of_mailed (hr : Run (Move P) (.ofCapacity capacity) record h)
    (hfirst : ClosesFirst record) (hin : .unregister c ∈ h.mailbox) :
    (h.switch.connection c.connection).closed := by
  induction hr with
  | stay => cases hin
  | @move before h h' a hbefore hm ih =>
    have hmailed := mailed_of_run hbefore
    have hfirst' : ClosesFirst before := fun g d hin => hfirst g d (List.mem_append_left _ hin)
    rcases mem_mailbox_of_move hm hin with hwaits | rfl
    · exact closed_of_move hbefore hm (hmailed.about _ hwaits) (hmailed.opened _ hwaits)
        (ih hfirst' hwaits)
    · rw [switch_eq_of_move hm rfl]
      exact hfirst h c (List.mem_append_right _ List.mem_cons_self)

/-- The switch of the hub takes out only whose connection is closed. -/
theorem takesOutClosed (hr : Run (Move P) (.ofCapacity capacity) record h)
    (hfirst : ClosesFirst record) : Switch.TakesOutClosed (switchRecord record) := by
  intro s c hin
  obtain ⟨g, a, hin, hb, rfl⟩ := mem_switchRecord_iff.mp hin
  obtain ⟨rfl, hnext⟩ := onSwitch_eq_apply_iff.mp hb
  obtain ⟨before, hr', hsub⟩ := hr.of_mem hin
  exact closed_of_mailed hr' (fun g d hin => hfirst g d (hsub _ hin)) (mem_mailbox_of_next hnext)

/-- **No live connection is orphaned.**  If whoever submits that a client be
taken out has closed its connection before, then at every moment every client
that the hub has accepted is the registered client of its user, or its
connection is closed.  So of the clients of one user that the hub has accepted,
one at most has an open connection. -/
theorem accepted_registered_or_closed
    (hr : Run (Move P) (.ofCapacity capacity) record h) (hfirst : ClosesFirst record) :
    (∀ c, Accepted c record →
      h.switch.registry.byUser[c.user]? = some c ∨ (h.switch.connection c.connection).closed) ∧
    ∀ c d, Accepted c record → Accepted d record → c.user = d.user →
      ¬ (h.switch.connection c.connection).closed →
      ¬ (h.switch.connection d.connection).closed → c = d := by
  have hsettled : ∀ c, Accepted c record → Switch.Settled P c h.switch := by
    rintro c ⟨g, hin, hnext, hopen⟩
    refine Switch.settled_of_accepted (run_switch hr) (takesOutClosed hr hfirst) ?_
    exact ⟨g.switch,
      mem_switchRecord_iff.mpr ⟨g, .work, hin, onSwitch_eq_apply_iff.mpr ⟨rfl, hnext⟩, rfl⟩, hopen⟩
  refine ⟨fun c hc => (hsettled c hc).registered_or_closed, fun c d hc hd hu hcopen hdopen => ?_⟩
  exact (hsettled c hc).eq_of_open (hsettled d hd) hu hcopen hdopen

/-- Anna comes, and comes again over a second connection before anything was
done for the first.  Both times she is accepted, so one of the connections is
closed. -/
theorem accepted_registered_or_closed_reconnect :
    let first : Client := ⟨⟨1⟩, .ofParts "anna" "acme" []⟩
    let second : Client := ⟨⟨2⟩, .ofParts "anna" "acme" []⟩
    let P := Population.ofIdentities fun _ => first.identity
    let h₀ := Hub.ofCapacity 2
    let h₁ := h₀.withSwitch (Switch.Use.next ⟨1⟩ (.connect 8))
    let h₂ := h₁.withSwitch (Switch.Use.next ⟨2⟩ (.connect 8))
    let h₃ := h₂.submit (.register first)
    let h₄ := h₃.submit (.register second)
    let h₅ := { h₄ with switch := h₄.switch.apply (.register first), mailbox := [.register second] }
    let h₆ := { h₅ with switch := h₅.switch.apply (.register second), mailbox := [] }
    let record := [(h₀, .use ⟨1⟩ (.connect 8)), (h₁, .use ⟨2⟩ (.connect 8)),
      (h₂, .submit (.register first)), (h₃, .submit (.register second)), (h₄, .work), (h₅, .work)]
    Run (Move P) (.ofCapacity 2) record h₆ ∧ ClosesFirst record ∧
      Accepted first record ∧ Accepted second record ∧
      ((h₆.switch.connection ⟨1⟩).closed ∨ (h₆.switch.connection ⟨2⟩).closed) := by
  intro first second P h₀ h₁ h₂ h₃ h₄ h₅ h₆ record
  have hopen₁ : Move P h₀ (.use ⟨1⟩ (.connect 8)) h₁ := ⟨by decide +kernel, rfl⟩
  have hopen₂ : Move P h₁ (.use ⟨2⟩ (.connect 8)) h₂ := ⟨by decide +kernel, rfl⟩
  have hsubmit₁ : Move P h₂ (.submit (.register first)) h₃ :=
    ⟨rfl, rfl, rfl, by decide +kernel, rfl⟩
  have hsubmit₂ : Move P h₃ (.submit (.register second)) h₄ :=
    ⟨rfl, rfl, rfl, by decide +kernel, rfl⟩
  have hwork₁ : Move P h₄ .work h₅ := rfl
  have hwork₂ : Move P h₅ .work h₆ := rfl
  have hr : Run (Move P) h₀ record h₆ :=
    (((((Run.stay.move hopen₁).move hopen₂).move hsubmit₁).move hsubmit₂).move hwork₁).move hwork₂
  have hfirst : ClosesFirst record := by
    intro h c hin
    simp [record] at hin
  have haccepted : Accepted first record := ⟨h₄, by simp [record], rfl, by decide +kernel⟩
  have hagain : Accepted second record := ⟨h₅, by simp [record], rfl, by decide +kernel⟩
  refine ⟨hr, hfirst, haccepted, hagain, ?_⟩
  by_contra hopen
  obtain ⟨hfirstOpen, hsecondOpen⟩ := not_or.mp hopen
  have he : first = second := (accepted_registered_or_closed hr hfirst).2 first second haccepted
    hagain rfl hfirstOpen hsecondOpen
  exact absurd (congrArg Client.connection he) (by decide)

end Hub
end Switchboard
