import Switchboard.Proofs.Relay.Readings

/-! # The last steps of pumps

Once the connection of a session is closed, its pumps can come to their ends
(`Relay.Closing.ends`), and whatever happens, nothing keeps them from it for long.  The
write pump takes so many steps at most (`WritePump.left`), in whatever order and whatever
its transport answers.  The read pump may go on while there is something to read, wherever
it looks first; but it takes two steps at most for each item, and a few more. -/
namespace Switchboard

theorem ReadPump.left_le (p : ReadPump) : p.left ≤ 3 := by
  cases p <;> simp [left]

theorem WritePump.left_le (p : WritePump) : p.left ≤ 5 := by
  cases p <;> simp [left]

namespace Relay

variable {P : Population} {settings : Settings} {record later : List (Relay × Act)}
  {r r' : Relay} {a : Act} {t : Task} {n : Nat} {s s' : Session}

/-- How many steps a task takes along a run. -/
def stepsOf (t : Task) (record : List (Relay × Act)) : Nat :=
  record.countP fun m => m.2.task? = some t

theorem stepsOf_step (r : Relay) : stepsOf t (record ++ [(r, .step t)]) = stepsOf t record + 1 := by
  simp [stepsOf, List.countP_append, Act.task?]

theorem stepsOf_of_ne (ha : a ≠ .step t) (r : Relay) :
    stepsOf t (record ++ [(r, a)]) = stepsOf t record := by
  have hnone : a.task? ≠ some t := by
    intro he
    cases a with
    | step t' => exact ha (congrArg Act.step (Option.some.inj he))
    | arm | wait | join | reject | useSocket | beginBridge | useInlet | ask | stopHub | shutDown
    | draw => cases he
  simp [stepsOf, List.countP_append, hnone]

/-- A session that has begun keeps its read pump as it is while that takes no step. -/
theorem Turn.reader_eq (ht : Turn r n s a s') (ha : a ≠ .step (.reader n))
    (hstage : s.stage ≠ .opening) : s'.reader = s.reader := by
  cases ht with
  | read => exact absurd rfl ha
  | write | peer | still => rfl
  | keep hstep =>
    cases Session.step_iff.mp hstep with
    | register hopening => exact absurd hopening hstage
    | refuse | finish => rfl

/-- And so it keeps its write pump. -/
theorem Turn.writer_eq (ht : Turn r n s a s') (ha : a ≠ .step (.writer n))
    (hstage : s.stage ≠ .opening) : s'.writer = s.writer := by
  cases ht with
  | write => exact absurd rfl ha
  | read | peer | still => rfl
  | keep hstep =>
    cases Session.step_iff.mp hstep with
    | register hopening => exact absurd hopening hstage
    | refuse | finish => rfl

/-- A session with a pump has begun. -/
theorem stage_ne_opening (hr : Run (Move P) (.start settings) record r)
    (hs : r.sessions[n]? = some s) (hpump : s.reader.isSome ∨ s.writer.isSome) :
    s.stage ≠ .opening := by
  intro hopening
  have hnone := (sound_of_run hr hs).opening hopening
  rcases hpump with h | h <;> obtain ⟨p, hp⟩ := Option.isSome_iff_exists.mp h <;>
    simp [phases, hp] at hnone

/-- **The read pump of a session** takes two steps at most for each item that it takes, and
otherwise no more than it has left. -/
theorem stepsOf_reader {p : ReadPump} (hr : Run (Move P) (.start settings) record r)
    (hlater : Run (Move P) r later r') (hs : r.sessions[n]? = some s) (hp : s.reader = some p) :
    ∃ s' q, r'.sessions[n]? = some s' ∧ s'.reader = some q ∧
      stepsOf (.reader n) later + q.left ≤ p.left + 2 * (readBy n later).length := by
  induction hlater with
  | stay => exact ⟨s, p, hs, hp, by simp [stepsOf]⟩
  | @move later r₁ r₂ a hbefore hm ih =>
    obtain ⟨s₁, q, hs₁, hq, hle⟩ := ih
    have hr₁ := hr.append hbefore
    obtain ⟨s₂, hs₂, hturn⟩ := turn_of_move (run_hub hr₁).2.joined hm hs₁
    by_cases ha : a = .step (.reader n)
    · subst ha
      cases hturn with
      | still ha => exact absurd rfl ha
      | @read q' q₂ acts hq' hdo =>
        obtain rfl := Option.some.inj (hq.symm.trans hq')
        have hleft := ReadPump.left_lt_of_step hdo
        refine ⟨_, q₂, hs₂, rfl, ?_⟩
        rw [stepsOf_step, readBy_step, readNext_eq hs₁ hq, List.length_append]
        omega
    · have hstage := stage_ne_opening hr₁ hs₁ (Or.inl (by rw [hq]; rfl))
      refine ⟨s₂, q, hs₂, (hturn.reader_eq ha hstage).trans hq, ?_⟩
      rw [stepsOf_of_ne ha, (read_of_ne ha _ _).1]
      exact hle

/-- **The write pump of a session whose connection is closed** takes no more steps than it
has left. -/
theorem stepsOf_writer {p : WritePump} (hr : Run (Move P) (.start settings) record r)
    (hlater : Run (Move P) r later r') (hs : r.sessions[n]? = some s) (hp : s.writer = some p)
    (hclosed : (r.connection s.client).closed) :
    ∃ s' q, r'.sessions[n]? = some s' ∧ s'.writer = some q ∧
      (r'.connection s'.client).closed ∧ stepsOf (.writer n) later + q.left ≤ p.left := by
  induction hlater with
  | stay => exact ⟨s, p, hs, hp, hclosed, by simp [stepsOf]⟩
  | @move later r₁ r₂ a hbefore hm ih =>
    obtain ⟨s₁, q, hs₁, hq, hclosed₁, hle⟩ := ih
    have hr₁ := hr.append hbefore
    obtain ⟨hhub, hbased⟩ := run_hub hr₁
    obtain ⟨s₂, hs₂, hturn⟩ := turn_of_move hbased.joined hm hs₁
    have hclosed₂ : (r₂.connection s₂.client).closed := by
      rw [hturn.client_eq]
      exact hbased.closed_of_move hhub hm hs₁ hclosed₁
    by_cases ha : a = .step (.writer n)
    · subst ha
      cases hturn with
      | still ha => exact absurd rfl ha
      | @write q' q₂ acts hq' hdo =>
        obtain rfl := Option.some.inj (hq.symm.trans hq')
        have hleft := WritePump.left_lt_of_step hclosed₁ hdo
        refine ⟨_, q₂, hs₂, rfl, hclosed₂, ?_⟩
        rw [stepsOf_step]
        omega
    · have hstage := stage_ne_opening hr₁ hs₁ (Or.inr (by rw [hq]; rfl))
      refine ⟨s₂, q, hs₂, (hturn.writer_eq ha hstage).trans hq, hclosed₂, ?_⟩
      rw [stepsOf_of_ne ha]
      exact hle

end Relay
end Switchboard
