/-! # Runs

What moves from state to state by acts makes runs.  A run takes down every act
together with the state that found it; so what is observed along a run is a
function of that record (`observe`), and grows with it.  What every move keeps
holds at the end of every run (`Run.invariant`), what passes through a store keeps
its order (`Run.observe_sublist`), and every act of a run was done
at the end of a shorter one (`Run.of_mem`).

A machine makes runs by what it sees.  One that takes things in is fed from a stream
of them (`Fed`), which it takes in from the front, whatever else it sees and
whenever (`Fed.coming_eq`). -/
namespace Switchboard

section Runs

variable {State Act : Type} {Move : State → Act → State → Prop} {s t u : State}
  {record before after : List (State × Act)}

/-- A run from a state to a state, with the acts in the order in which they
happened. -/
inductive Run (Move : State → Act → State → Prop) (s : State) :
    List (State × Act) → State → Prop
  | stay : Run Move s [] s
  | move {record : List (State × Act)} {t u : State} {a : Act} :
    Run Move s record t → Move t a u → Run Move s (record ++ [(t, a)]) u

/-- Where one run ends, another one goes on. -/
theorem Run.append (h : Run Move s before t) (h' : Run Move t after u) :
    Run Move s (before ++ after) u := by
  induction h' with
  | stay => rwa [List.append_nil]
  | move _ hm ih =>
    rw [← List.append_assoc]
    exact ih.move hm

/-- **What every move keeps, every run keeps.** -/
theorem Run.invariant {I : State → Prop} (hstep : ∀ s a t, I s → Move s a t → I t)
    (h : Run Move s record t) (hs : I s) : I t := by
  induction h with
  | stay => exact hs
  | move _ hm ih => exact hstep _ _ _ ih hm

/-- Every act of a record was done at the end of a shorter run. -/
theorem Run.of_mem (h : Run Move s record t) {a : Act} (hmem : (u, a) ∈ record) :
    ∃ before, Run Move s before u ∧ ∀ m ∈ before, m ∈ record := by
  induction h with
  | stay => cases hmem
  | @move earlier t v _ hearlier _ ih =>
    rcases List.mem_append.mp hmem with hin | hin
    · obtain ⟨before, hr, hsub⟩ := ih hin
      exact ⟨before, hr, fun m hm => List.mem_append_left _ (hsub m hm)⟩
    · cases List.mem_singleton.mp hin
      exact ⟨earlier, hearlier, fun m hm => List.mem_append_left _ hm⟩

/-- What is observed along a run, in order, when every act shows something. -/
def observe {Shown : Type} (sight : State → Act → List Shown) (record : List (State × Act)) :
    List Shown :=
  record.flatMap fun m => sight m.1 m.2

theorem observe_snoc {Shown : Type} (sight : State → Act → List Shown)
    (record : List (State × Act)) (s : State) (a : Act) :
    observe sight (record ++ [(s, a)]) = observe sight record ++ sight s a := by
  simp [observe]

/-- **What passes through a store.**  When every act puts out and leaves behind no
more than was there and what it takes in, a run puts out no more than it takes in,
and in the same order. -/
theorem Run.observe_sublist {Shown : Type} {out taken : State → Act → List Shown}
    (h : Run Move s record t) (held : State → List Shown) (hstart : held s = [])
    (hstep : ∀ record t a u, Run Move s record t → Move t a u →
      (out t a ++ held u).Sublist (held t ++ taken t a)) :
    (observe out record).Sublist (observe taken record) := by
  suffices hall : (observe out record ++ held t).Sublist (observe taken record) from
    (List.sublist_append_left _ _).trans hall
  induction h with
  | stay =>
    rw [hstart]
    exact List.Sublist.refl _
  | @move record t u a hbefore hm ih =>
    rw [observe_snoc, observe_snoc, List.append_assoc]
    refine ((hstep record t a u hbefore hm).append_left _).trans ?_
    rw [← List.append_assoc]
    exact ih.append_right _

end Runs

/-! ## Machines that are fed -/

/-- A machine, and what is still to come to it. -/
structure Fed (Machine Item : Type) where
  machine : Machine
  coming : List Item

namespace Fed

variable {Machine Sight Deed Item : Type} {step : Sight → Machine → Option (Machine × List Deed)}
  {taken : Sight → Machine → List Item} {f f' g : Fed Machine Item} {sight : Sight}
  {seen : List (Fed Machine Item × Sight)}

/-- A machine takes a step by what it sees, and takes in by it what comes first. -/
def Move (step : Sight → Machine → Option (Machine × List Deed))
    (taken : Sight → Machine → List Item) (f : Fed Machine Item) (s : Sight)
    (f' : Fed Machine Item) : Prop :=
  (∃ deeds, step s f.machine = some (f'.machine, deeds)) ∧
    f.coming = taken s f.machine ++ f'.coming

/-- What a machine does by a step. -/
def doing (step : Sight → Machine → Option (Machine × List Deed)) (f : Fed Machine Item)
    (s : Sight) : List Deed :=
  ((step s f.machine).map Prod.snd).getD []

/-- What a machine has done along a run, in order. -/
def deeds (step : Sight → Machine → Option (Machine × List Deed))
    (seen : List (Fed Machine Item × Sight)) : List Deed :=
  observe (doing step) seen

/-- What a machine has taken in along a run, in order. -/
def takenIn (taken : Sight → Machine → List Item) (seen : List (Fed Machine Item × Sight)) :
    List Item :=
  observe (fun f s => taken s f.machine) seen

theorem takenIn_snoc : takenIn taken (seen ++ [(f, sight)]) =
    takenIn taken seen ++ taken sight f.machine :=
  observe_snoc _ seen f sight

theorem deeds_snoc {m : Machine} {more : List Deed} (h : step sight f.machine = some (m, more)) :
    deeds step (seen ++ [(f, sight)]) = deeds step seen ++ more := by
  rw [deeds, observe_snoc, doing, h]
  rfl

/-- **A machine takes in its stream from the front**, each thing once. -/
theorem coming_eq (h : Run (Move step taken) f seen g) :
    f.coming = takenIn taken seen ++ g.coming := by
  induction h with
  | stay => rfl
  | move _ hm ih => rw [ih, hm.2, takenIn_snoc, List.append_assoc]

end Fed
end Switchboard
