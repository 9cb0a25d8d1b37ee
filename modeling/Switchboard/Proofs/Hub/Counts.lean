import Switchboard.Proofs.Hub.Stopping
import Switchboard.Proofs.Switch.Counts

/-! # What a hub counts

A hub counts what its switch counts.  So along every run of a hub the numbers add
up (`counts_add_up`): whatever is submitted, whoever reads, gives up or closes
connections meanwhile, and whenever the hub stops.  Nobody is taken out with all
the others before the hub stops (`drained_eq_nil`), and nobody is left after it
has (`empty_of_stopped`). -/
namespace Switchboard
namespace Hub

variable {P : Population} {capacity : Nat} {h h' : Hub} {a : Act} {record : List (Hub × Act)}

/-- What leaves a hub running does not shut its switch down. -/
theorem onSwitch_ne_shutDown (hm : Move P h a h') (hrunning : ¬ h'.stopped) :
    a.onSwitch h ≠ some .shutDown := by
  intro hb
  cases a with
  | submit e | askStop | abandon | use id u => cases hb
  | work =>
    rcases step_eq_some hm with ⟨e, rest, hnext, -, -⟩ | ⟨-, rfl⟩
    · rw [Act.onSwitch, hnext] at hb
      cases hb
    · exact hrunning rfl

/-- **Before a hub stops**, nobody is taken out with all the others. -/
theorem drained_eq_nil (hr : Run (Move P) (.ofCapacity capacity) record h)
    (hrunning : ¬ h.stopped) : Switch.drained (switchRecord record) = [] := by
  induction hr with
  | stay => rfl
  | @move record h h' a _ hm ih =>
    have hbefore := ih (mt (stopped_next hm) hrunning)
    rw [switchRecord, observe_snoc, ← switchRecord]
    cases hb : a.onSwitch h with
    | none =>
      show Switch.drained (_ ++ []) = []
      rw [List.append_nil, hbefore]
    | some b =>
      show Switch.drained (_ ++ [(h.switch, b)]) = []
      rw [Switch.drained, observe_snoc, ← Switch.drained, hbefore]
      cases b with
      | apply e | use id u => rfl
      | shutDown => exact absurd hb (onSwitch_ne_shutDown hm hrunning)

/-- **What a hub counts adds up.**  At every moment of every run:

* what was queued and what was dropped make up the targets of all the messages
  that were delivered;
* as many clients were put out as payloads were dropped, and that is what the
  connections have dropped all together;
* the number of clients that is shown is the number of those who are registered,
  and zero once the hub has stopped;
* until then, each client that was registered anew is registered, or was
  superseded, or was put out, or was taken out on request. -/
theorem counts_add_up (hr : Run (Move P) (.ofCapacity capacity) record h) :
    h.switch.metrics.value .hubDeliveries + h.switch.metrics.value .hubDrops =
      (Switch.targets (switchRecord record)).length ∧
    h.switch.metrics.value .hubDrops = h.switch.metrics.value .hubEvictions ∧
    h.switch.metrics.value .hubDrops = h.switch.dropped ∧
    h.switch.metrics.value .hubClients = h.switch.registry.size ∧
    (h.stopped → h.switch.metrics.value .hubClients = 0) ∧
    (¬ h.stopped → (Switch.added (switchRecord record)).length =
      h.switch.registry.size + h.switch.metrics.value .hubSuperseded +
        h.switch.metrics.value .hubEvictions + (Switch.removed (switchRecord record)).length) := by
  have hbalanced := Switch.balanced_of_run (run_switch hr)
  refine ⟨hbalanced.deliveries, hbalanced.evictions, hbalanced.drops, hbalanced.clients,
    fun hstopped => ?_, fun hrunning => ?_⟩
  · rw [hbalanced.clients, (empty_of_stopped hr hstopped).1]
    rfl
  · have hregistrations := hbalanced.registrations
    rw [drained_eq_nil hr hrunning] at hregistrations
    exact hregistrations

/-- Anna has one place and reads nothing: of two payloads one is dropped, and she is
put out.  She comes again, and supersedes nobody. -/
theorem counts_add_up_eviction :
    let first : Client := ⟨⟨1⟩, .ofParts "anna" "acme" []⟩
    let second : Client := ⟨⟨2⟩, .ofParts "anna" "acme" []⟩
    let P := Population.ofIdentities fun _ => first.identity
    let acts : List Act := [.use ⟨1⟩ (.connect 1), .submit (.register first), .work,
      .submit (.broadcast (.ofText "one")), .work, .submit (.broadcast (.ofText "two")), .work,
      .use ⟨2⟩ (.connect 1), .submit (.register second), .work]
    let h := after (.ofCapacity 4) acts
    let record := trail (.ofCapacity 4) acts
    Run (Move P) (.ofCapacity 4) record h ∧ ¬ h.stopped ∧
      (Switch.targets (switchRecord record)).length = 2 ∧ h.switch.dropped = 1 ∧
      h.switch.metrics.value .hubClients = 1 ∧ (Switch.added (switchRecord record)).length = 2 := by
  intro first second P acts h record
  have hconnect : ∀ (h : Hub) id, id ∉ h.switch.connections →
      (Act.use id (.connect 1)).Allowed P h := fun _ _ hid => hid
  have hregister : ∀ h : Hub, h.admission = .admitted ∧ h.abandoned = false →
      ∀ c, c.identity = first.identity → c.connection ∈ h.switch.connections →
        (Act.submit (.register c)).Allowed P h :=
    fun _ hopen _ hc hopened => ⟨hopen.1, hopen.2, hc, hopened⟩
  have hsend : ∀ h : Hub, h.admission = .admitted ∧ h.abandoned = false →
      ∀ p, (Act.submit (.broadcast p)).Allowed P h :=
    fun _ hopen _ => ⟨hopen.1, hopen.2, trivial, trivial⟩
  have hwork : ∀ h : Hub, h.step.isSome → Act.work.Allowed P h := fun _ hs => hs
  have hallowed : Act.AllowedInRow P (.ofCapacity 4) acts :=
    ⟨hconnect _ _ (by decide +kernel),
      hregister _ (by decide +kernel) first rfl (by decide +kernel), hwork _ (by decide +kernel),
      hsend _ (by decide +kernel) _, hwork _ (by decide +kernel),
      hsend _ (by decide +kernel) _, hwork _ (by decide +kernel),
      hconnect _ _ (by decide +kernel),
      hregister _ (by decide +kernel) second rfl (by decide +kernel), hwork _ (by decide +kernel),
      trivial⟩
  have hr : Run (Move P) (.ofCapacity 4) record h := run_trail .stay hallowed
  have hrunning : ¬ h.stopped := by decide +kernel
  obtain ⟨hsent, hevictions, hdropped, hclients, -, hregistrations⟩ := counts_add_up hr
  have hdeliveries : h.switch.metrics.value .hubDeliveries = 1 := by decide +kernel
  have hdrops : h.switch.metrics.value .hubDrops = 1 := by decide +kernel
  have hsuperseded : h.switch.metrics.value .hubSuperseded = 0 := by decide +kernel
  have hsize : h.switch.registry.size = 1 := by decide +kernel
  have hremoved : (Switch.removed (switchRecord record)).length = 0 := by decide +kernel
  have hadded := hregistrations hrunning
  refine ⟨hr, hrunning, ?_, ?_, ?_, ?_⟩ <;> omega

end Hub
end Switchboard
