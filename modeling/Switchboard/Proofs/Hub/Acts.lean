import Switchboard.Hub
import Switchboard.Proofs.Switch.Acts

/-! # What happens to a hub

A hub is moved by those who submit events to it, by its own work, by the wish
that it stop, and by the far ends of its connections.  They come in any order.
An event that is about a client carries the client's connection, so it is
submitted only after the connection was opened.

Whatever happens to a hub happens to its switch as an act of the switch, or does
not touch the switch at all (`switch_of_move`).  So a run of a hub is a run of
its switch (`run_switch`), and what holds along the runs of switches holds along
the runs of hubs. -/
namespace Switchboard

/-- The connections of the clients that an event is about have been opened. -/
def Event.Opened (s : Switch) : Event → Prop
  | .register c | .unregister c => c.connection ∈ s.connections
  | .deliver _ | .stats => True

instance (s : Switch) : (e : Event) → Decidable (e.Opened s)
  | .register c | .unregister c => inferInstanceAs (Decidable (c.connection ∈ s.connections))
  | .deliver _ | .stats => inferInstanceAs (Decidable True)

namespace Hub

/-- The event that is applied next, unless the hub is to stop. -/
def next? (h : Hub) : Option Event :=
  if h.stopped ∨ h.stopAsked then none else h.mailbox.head?

/-- **What a hub does next**: it applies the first event of the mailbox, or it
stops. -/
theorem step_eq_some {h h' : Hub} (hs : h.step = some h') :
    (∃ e rest, h.next? = some e ∧ h.mailbox = e :: rest ∧
      h' = { h with switch := h.switch.apply e, mailbox := rest }) ∨
    h.next? = none ∧ h' = h.stop := by
  unfold step at hs
  split at hs
  · cases hs
  next hstopped =>
  split at hs
  · next hasked =>
    exact Or.inr ⟨if_pos (Or.inr hasked), (Option.some.inj hs).symm⟩
  next hasked =>
  have hnext : h.next? = h.mailbox.head? := if_neg (not_or.mpr ⟨hstopped, hasked⟩)
  split at hs
  · next e rest hmail =>
    exact Or.inl ⟨e, rest, by rw [hnext, hmail]; rfl, hmail, (Option.some.inj hs).symm⟩
  · next hmail =>
    split at hs
    · exact Or.inr ⟨by rw [hnext, hmail]; rfl, (Option.some.inj hs).symm⟩
    · cases hs

/-- What happens to a hub. -/
inductive Act
  /-- Somebody leaves an event in the mailbox. -/
  | submit (e : Event)
  /-- The hub does what it does next. -/
  | work
  | askStop
  /-- The last one who could submit anything is gone. -/
  | abandon
  | use (id : ConnectionId) (u : Switch.Use)

/-- Which hub an act leads to. -/
def Move (P : Population) (h : Hub) : Act → Hub → Prop
  | .submit e, h' => h.admission = .admitted ∧ h.abandoned = false ∧ e.About P ∧
      e.Opened h.switch ∧ h' = h.submit e
  | .work, h' => h.step = some h'
  | .askStop, h' => h' = h.askStop
  | .abandon, h' => h' = { h with abandoned := true }
  | .use id u, h' => u.Allowed id h.switch ∧ h' = h.withSwitch (u.next id)

/-- What an act does to the switch of a hub. -/
def Act.onSwitch (h : Hub) : Act → Option Switch.Act
  | work => some ((h.next?.map .apply).getD .shutDown)
  | use id u => some (.use id u)
  | _ => none

/-- A run as its switch sees it. -/
def switchRecord (record : List (Hub × Act)) : List (Switch × Switch.Act) :=
  observe (fun h a => ((a.onSwitch h).map fun b => (h.switch, b)).toList) record

variable {P : Population} {capacity : Nat} {h h' : Hub} {a : Act} {b : Switch.Act}
  {record : List (Hub × Act)}

/-- The events in the mailbox are about clients of a population whose connections
have been opened. -/
structure Mailed (P : Population) (h : Hub) : Prop where
  about : ∀ e ∈ h.mailbox, e.About P
  opened : ∀ e ∈ h.mailbox, e.Opened h.switch

theorem Event.Opened.grows {s t : Switch} {e : Event} (hg : Switch.Grows s t) (he : e.Opened s) :
    e.Opened t := by
  cases e with
  | register c | unregister c => exact hg c.connection he
  | deliver m | stats => trivial

/-! ## What an act does to the switch -/

/-- **An act that touches the switch is an act of the switch.** -/
theorem switch_of_move (hm : Move P h a h') (hmail : Mailed P h) (hb : a.onSwitch h = some b) :
    Switch.Move P h.switch b h'.switch := by
  cases a with
  | submit e | askStop | abandon => cases hb
  | use id u =>
    obtain ⟨ha, rfl⟩ := hm
    obtain rfl := Option.some.inj hb
    exact ⟨ha, rfl⟩
  | work =>
    obtain rfl := Option.some.inj hb
    rcases step_eq_some hm with ⟨e, rest, hnext, hbox, rfl⟩ | ⟨hnext, rfl⟩
    · rw [hnext]
      exact ⟨hmail.about e (hbox ▸ List.mem_cons_self), rfl⟩
    · rw [hnext]
      exact ⟨trivial, rfl⟩

/-- Other acts leave the switch as it is. -/
theorem switch_eq_of_move (hm : Move P h a h') (hb : a.onSwitch h = none) :
    h'.switch = h.switch := by
  cases a with
  | work | use id u => cases hb
  | submit e =>
    obtain ⟨-, -, -, -, rfl⟩ := hm
    rfl
  | askStop =>
    obtain rfl := hm
    rfl
  | abandon =>
    obtain rfl := hm
    rfl

/-- Only the far end of a connection uses it. -/
theorem eq_use_of_onSwitch {id : ConnectionId} {u : Switch.Use}
    (hb : a.onSwitch h = some (.use id u)) : a = .use id u := by
  cases a with
  | submit e | askStop | abandon => cases hb
  | use other v =>
    cases hb
    rfl
  | work =>
    rw [Act.onSwitch] at hb
    cases hnext : h.next? with
    | none =>
      rw [hnext] at hb
      cases hb
    | some e =>
      rw [hnext] at hb
      cases hb

theorem grows_of_move (hm : Move P h a h') (hmail : Mailed P h) :
    Switch.Grows h.switch h'.switch := by
  cases hb : a.onSwitch h with
  | none => exact fun id hid => (switch_eq_of_move hm hb).symm ▸ hid
  | some b =>
    obtain ⟨-, ht⟩ := switch_of_move hm hmail hb
    rw [ht]
    exact Switch.grows_next

/-- What is in the mailbox afterwards was there before, or has been submitted. -/
theorem mem_mailbox_of_move (hm : Move P h a h') {e : Event} (he : e ∈ h'.mailbox) :
    e ∈ h.mailbox ∨ a = .submit e := by
  cases a with
  | submit e' =>
    obtain ⟨-, -, -, -, rfl⟩ := hm
    rcases List.mem_append.mp he with hin | hin
    · exact Or.inl hin
    · exact Or.inr (List.mem_singleton.mp hin ▸ rfl)
  | work =>
    rcases step_eq_some hm with ⟨e', rest, -, hbox, rfl⟩ | ⟨-, rfl⟩
    · exact Or.inl (hbox ▸ List.mem_cons_of_mem e' he)
    · cases he
  | askStop =>
    obtain rfl := hm
    exact Or.inl he
  | abandon =>
    obtain rfl := hm
    exact Or.inl he
  | use id u =>
    obtain ⟨-, rfl⟩ := hm
    exact Or.inl he

theorem Mailed.move (hmail : Mailed P h) (hm : Move P h a h') : Mailed P h' where
  about := by
    intro e he
    rcases mem_mailbox_of_move hm he with hin | rfl
    · exact hmail.about e hin
    · exact hm.2.2.1
  opened := by
    intro e he
    refine Event.Opened.grows (grows_of_move hm hmail) ?_
    rcases mem_mailbox_of_move hm he with hin | rfl
    · exact hmail.opened e hin
    · exact hm.2.2.2.1

theorem mailed_of_run (hr : Run (Move P) (.ofCapacity capacity) record h) :
    Mailed P h :=
  hr.invariant (I := Mailed P) (fun _ _ _ hmail hm => hmail.move hm)
    ⟨fun _ he => absurd he List.not_mem_nil, fun _ he => absurd he List.not_mem_nil⟩

/-- **A run of a hub is a run of its switch.** -/
theorem run_switch (hr : Run (Move P) (.ofCapacity capacity) record h) :
    Run (Switch.Move P) ∅ (switchRecord record) h.switch := by
  induction hr with
  | stay => exact .stay
  | @move record h h' a hbefore hm ih =>
    rw [switchRecord, observe_snoc]
    cases hb : a.onSwitch h with
    | none =>
      rw [switch_eq_of_move hm hb]
      exact (List.append_nil _).symm ▸ ih
    | some b => exact ih.move (switch_of_move hm (mailed_of_run hbefore) hb)

/-- Whoever could submit anything is still there, unless the last one goes. -/
theorem abandoned_of_move (hm : Move P h a h') (ha : a ≠ .abandon) :
    h'.abandoned = h.abandoned := by
  cases a with
  | submit e =>
    obtain ⟨-, -, -, -, rfl⟩ := hm
    rfl
  | work => rcases step_eq_some hm with ⟨e, rest, -, -, rfl⟩ | ⟨-, rfl⟩ <;> rfl
  | askStop =>
    obtain rfl := hm
    rfl
  | abandon => exact absurd rfl ha
  | use id u =>
    obtain ⟨-, rfl⟩ := hm
    rfl

/-! ## Acts in a row -/

namespace Act

/-- The hub after an act. -/
def next : Act → Hub → Hub
  | submit e, h => h.submit e
  | work, h => h.step.getD h
  | askStop, h => h.askStop
  | abandon, h => { h with abandoned := true }
  | use id u, h => h.withSwitch (u.next id)

/-- Whether an act can happen. -/
def Allowed (P : Population) (h : Hub) : Act → Prop
  | submit e => h.admission = .admitted ∧ h.abandoned = false ∧ e.About P ∧ e.Opened h.switch
  | work => h.step.isSome
  | askStop | abandon => True
  | use id u => u.Allowed id h.switch

/-- Whether acts can happen one after the other. -/
def AllowedInRow (P : Population) : Hub → List Act → Prop
  | _, [] => True
  | h, a :: acts => a.Allowed P h ∧ AllowedInRow P (a.next h) acts

end Act

theorem move_next (ha : a.Allowed P h) : Move P h a (a.next h) := by
  cases a with
  | submit e =>
    obtain ⟨hadmitted, hhere, habout, hopened⟩ := ha
    exact ⟨hadmitted, hhere, habout, hopened, rfl⟩
  | work =>
    obtain ⟨h', hs⟩ := Option.isSome_iff_exists.mp ha
    show h.step = some (h.step.getD h)
    rw [hs]
    rfl
  | askStop | abandon => rfl
  | use id u => exact ⟨ha, rfl⟩

/-- The hub after acts in a row. -/
def after (h : Hub) (acts : List Act) : Hub := acts.foldl (fun h a => a.next h) h

/-- Acts in a row, each with the hub that it finds. -/
def trail : Hub → List Act → List (Hub × Act)
  | _, [] => []
  | h, a :: acts => (h, a) :: trail (a.next h) acts

theorem mem_of_mem_trail {acts : List Act} {g : Hub} (hin : (g, a) ∈ h.trail acts) : a ∈ acts := by
  induction acts generalizing h with
  | nil => cases hin
  | cons b acts ih =>
    rcases List.mem_cons.mp hin with he | hin
    · exact (Prod.mk.inj he).2 ▸ List.mem_cons_self
    · exact List.mem_cons_of_mem b (ih hin)

/-- Acts in a row make a run. -/
theorem run_trail {acts : List Act} {g : Hub} (hr : Run (Move P) g record h)
    (ha : Act.AllowedInRow P h acts) :
    Run (Move P) g (record ++ h.trail acts) (h.after acts) := by
  induction acts generalizing h record with
  | nil => exact (List.append_nil record).symm ▸ hr
  | cons a acts ih =>
    obtain ⟨ha, hrest⟩ := ha
    rw [trail, List.append_cons]
    exact ih (hr.move (move_next ha)) hrest

/-- What each of some acts keeps, all of them in a row keep. -/
theorem keep_in_row {I : Hub → Prop} {acts : List Act} {g : Hub}
    (hr : Run (Move P) g record h) (ha : Act.AllowedInRow P h acts)
    (hstep : ∀ record h h' a, Run (Move P) g record h → Move P h a h' → a ∈ acts → I h → I h')
    (hi : I h) : I (h.after acts) := by
  induction acts generalizing h record with
  | nil => exact hi
  | cons a acts ih =>
    obtain ⟨ha, hrest⟩ := ha
    have hm := move_next ha
    exact ih (hr.move hm) hrest
      (fun record h h' b hr hm hb => hstep record h h' b hr hm (List.mem_cons_of_mem a hb))
      (hstep record h _ a hr hm List.mem_cons_self hi)

end Hub
end Switchboard
