import Switchboard.Proofs.Relay.Acts

/-! # Who counts what

The series that are counted outside the hub are counted by the sessions, by the
read pumps, by the bridges, and where requests are turned away; each of them by one
of these only (`Series.keeper`).  What an act does not count keeps its value
(`value_of_move`), and what is counted along a run is what its acts count
(`value_eq_count`). -/
namespace Switchboard

/-- Those who count. -/
inductive Keeper
  | hub
  | session
  | reader
  | bridge
  /-- Where requests without a usable identity are turned away. -/
  | door
  deriving DecidableEq

/-- **Who counts a series.** -/
def Series.keeper : Series → Keeper
  | sessions | sessionsActive | sessionsEnded _ | sessionDuration => .session
  | decodeErrors origin _ => if origin = "bus" then .bridge else .reader
  | busRecords _ | busErrors .. => .bridge
  | sessionsRejected => .door
  | hubClients | hubMessagesRouted _ | hubDeliveries | hubDrops | hubEvictions | hubSuperseded => .hub

namespace Relay

variable {P : Population} {r r' : Relay} {a : Act} {n : Nat} {series : Series}

/-- Who counts in the course of an act. -/
def Act.keeper? : Act → Option Keeper
  | step (.reader _) => some .reader
  | step (.session _) | join .. => some .session
  | step (.bridge _) => some .bridge
  | reject => some .door
  | _ => none

theorem value_count {other : Series} :
    (r.count other).metrics.value series =
      r.metrics.value series + if series = other then 1 else 0 :=
  Metrics.value_add other series 1 r.metrics

/-- What acts in a row count is what each of them counts. -/
theorem value_foldl {Deed : Type} {f : Relay → Deed → Relay} {counted : Deed → List Series}
    (hf : ∀ r x, (f r x).metrics.value series =
      r.metrics.value series + (counted x).count series) (xs : List Deed) (r : Relay) :
    (xs.foldl f r).metrics.value series =
      r.metrics.value series + (xs.flatMap counted).count series := by
  induction xs generalizing r with
  | nil => rfl
  | cons x xs ih =>
    rw [List.foldl_cons, ih, hf, List.flatMap_cons, List.count_append]
    omega

/-- When each of some things has a series once or not at all, all of them together have
it as often as there are things that have it. -/
theorem count_flatMap_eq_countP {Thing : Type} {f : Thing → List Series} {p : Thing → Bool}
    (hf : ∀ x, (f x).count series = if p x then 1 else 0) (xs : List Thing) :
    (xs.flatMap f).count series = xs.countP p := by
  induction xs with
  | nil => rfl
  | cons x xs ih =>
    rw [List.flatMap_cons, List.count_append, ih, hf, List.countP_cons]
    exact Nat.add_comm _ _

/-- What is kept when a session's bookkeeping gives values to its series is kept by
all that it does. -/
theorem metrics_doSession {I : Metrics → Prop}
    (hset : ∀ m series n, series.keeper = .session → I m → I (m.set series n)) (x : Session.Act)
    (hi : I r.metrics) : I (r.doSession x).metrics := by
  cases x with
  | submit => exact hi
  | giveUp => exact hset _ .sessionsActive _ rfl hi
  | finish reason =>
    exact hset _ .sessionDuration _ rfl
      (hset _ (.sessionsEnded reason) _ rfl (hset _ .sessionsActive _ rfl hi))

/-- **What is counted in the course of an act**: only those count who have a part in
it, and each of them its own series. -/
theorem metrics_of_move {I : Metrics → Prop}
    (hset : ∀ m series n, a.keeper? = some series.keeper → I m → I (m.set series n))
    (hm : Move P r a r') (hi : I r.metrics) : I r'.metrics := by
  cases a with
  | step t =>
    have hstep := move_step_iff.mp hm
    cases t with
    | hub =>
      obtain ⟨hub, -, rfl⟩ := stepHub_eq_some hstep
      exact hi
    | reader n =>
      obtain ⟨s, p, q, acts, -, -, -, rfl⟩ := stepReader_eq_some hstep
      refine acts.foldlRecOn (motive := fun r : Relay => I r.metrics) _ hi fun r hi x _ => ?_
      cases x with
      | take | submit | close => exact hi
      | skip e => exact hset _ (.decodeErrors "client" e.kind) _ rfl hi
    | writer n =>
      obtain ⟨s, p, q, acts, -, -, -, rfl⟩ := stepWriter_eq_some hstep
      refine acts.foldlRecOn (motive := fun r : Relay => I r.metrics) _ hi fun r hi x _ => ?_
      cases x with
      | offer | finish | submit | close => exact hi
      | take | abandon => cases s.queue <;> exact hi
    | session n =>
      obtain ⟨s, s', acts, -, -, rfl⟩ := stepSession_eq_some hstep
      exact acts.foldlRecOn (motive := fun r : Relay => I r.metrics) _ hi fun r hi x _ =>
        metrics_doSession (fun m series n hk => hset m series n (congrArg some hk.symm)) x hi
    | bridge n =>
      obtain ⟨i, b, acts, -, -, rfl⟩ := stepBridge_eq_some hstep
      refine acts.foldlRecOn (motive := fun r : Relay => I r.metrics) _ hi fun r hi x _ => ?_
      cases x with
      | take | submit | leave => exact hi
      | record => exact hset _ (.busRecords i.channel.topic) _ rfl hi
      | skip e => exact hset _ (.decodeErrors "bus" e.kind) _ rfl hi
      | failure f => exact hset _ (.busErrors i.channel.topic f.severity) _ rfl hi
  | join identity socket =>
    obtain ⟨-, rfl⟩ := hm
    exact hset _ .sessionsActive _ rfl (hset _ .sessions _ rfl hi)
  | reject =>
    obtain ⟨-, rfl⟩ := hm
    exact hset _ .sessionsRejected _ rfl hi
  | arm t =>
    obtain ⟨timers, rfl⟩ := arm_of_move hm
    exact hi
  | wait | useSocket | beginBridge | useInlet | ask | stopHub | shutDown | draw =>
    obtain ⟨-, rfl⟩ := hm
    exact hi

/-- **What an act does not count keeps its value.** -/
theorem value_of_move (hm : Move P r a r') (hk : a.keeper? ≠ some series.keeper) :
    r'.metrics.value series = r.metrics.value series := by
  refine metrics_of_move (I := fun m => m.value series = r.metrics.value series)
    (fun m other n hother hv => ?_) hm rfl
  rw [Metrics.value_set, if_neg, hv]
  rintro rfl
  exact hk hother

/-- **What was counted along a run** is what its acts counted. -/
theorem value_eq_count {settings : Settings} {record : List (Relay × Act)}
    {counted : Relay → Act → List Series} (hr : Run (Move P) (.start settings) record r)
    (hstep : ∀ r a r', Move P r a r' →
      r'.metrics.value series = r.metrics.value series + (counted r a).count series) :
    r.metrics.value series = (observe counted record).count series := by
  induction hr with
  | stay => rfl
  | move _ hm ih => rw [observe_snoc, List.count_append, ← ih, hstep _ _ _ hm]

end Relay
end Switchboard
