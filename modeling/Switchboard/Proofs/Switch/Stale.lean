import Switchboard.Proofs.Registry.Calls
import Switchboard.Proofs.Switch.Acts

/-! # Events that come too late or again

A session asks twice that its client be taken out, and may do so long after the user has
come over another connection; and a client may be about to be registered when its
connection is closed already, or when it is the registered one.  None of this changes
anything.

Taking out a client whose user has another one, or none, is refused by the registry,
and a client with a closed connection is not even shown to it; so the switch stays as it
is, down to what it has counted (`unregister_of_elsewhere`, `register_of_closed`).  Only
a client that is registered again goes through the registry: it leaves all its groups,
some of which may vanish by that, and joins them again.  What comes of it is the
registry that was there (`Registry.Consistent.register_of_registered`), and nobody is
superseded. -/
namespace Switchboard.Switch
open Std

variable {P : Population} {s : Switch} {c d : Client} {record : List (Switch × Act)}

/-- The user of the client has its registered client on another connection, or has
none. -/
def Elsewhere (s : Switch) (c : Client) : Prop :=
  ∀ d, s.registry.byUser[c.user]? = some d → d.connection ≠ c.connection

theorem elsewhere_of_registered (hd : s.registry.Registered d) (hu : d.user = c.user)
    (hne : d.connection ≠ c.connection) : s.Elsewhere c := by
  intro e he
  rw [← hu, hd] at he
  exact Option.some.inj he ▸ hne

theorem unregister_of_elsewhere (h : s.Elsewhere c) : s.unregister c = s := by
  have hnot : ¬ s.registry.isRegistered c := fun hreg => by
    obtain ⟨d, hd, he⟩ := Registry.isRegistered_iff.mp hreg
    exact h d hd he
  rw [unregister, Registry.unregister_of_not_isRegistered hnot]

/-- A client that is registered again supersedes nobody; at most the number of clients is
taken down once more. -/
theorem register_of_registered (h : s.registry.Consistent P) (hc : s.registry.Registered c) :
    s.register c = s ∨ s.register c = s.recordClients := by
  by_cases hclosed : (s.connection c.connection).closed
  · exact Or.inl (register_of_closed hclosed)
  · right
    rw [register, if_neg hclosed, h.register_of_registered hc]

/-- **Events that come too late or again change nothing.**  In every state of the hub,
taking out a client leaves the switch as it is when the client's user has another
connection or none, and so does registering a client over a closed connection.
Registering the registered client once more leaves the three indices and all connections
as they are, with all that is queued, closed and dropped.  In particular, if the user has
a newer connection, then neither taking out a client on an older one nor registering it
when that is closed removes the newer one or touches it. -/
theorem stale_events_change_nothing (hr : Run (Move P) ∅ record s) (c : Client) :
    (s.Elsewhere c → s.apply (.unregister c) = s) ∧
    ((s.connection c.connection).closed → s.apply (.register c) = s) ∧
    (s.registry.Registered c → (s.apply (.register c)).registry = s.registry ∧
      (s.apply (.register c)).connections = s.connections) ∧
    ∀ d, s.registry.Registered d → d.user = c.user → d.connection ≠ c.connection →
      ∀ e : Event, e = .unregister c ∨ e = .register c ∧ (s.connection c.connection).closed →
        (s.apply e).registry.Registered d ∧
          (s.apply e).connection d.connection = s.connection d.connection := by
  have hcons := (reachable_of_run hr .empty).consistent
  refine ⟨unregister_of_elsewhere, register_of_closed, fun hreg => ?_, fun d hd hu hne e he => ?_⟩
  · show (s.register c).registry = _ ∧ (s.register c).connections = _
    rcases register_of_registered hcons hreg with hsame | hsame
    · rw [hsame]
      exact ⟨rfl, rfl⟩
    · rw [hsame]
      exact ⟨rfl, rfl⟩
  · have hsame : s.apply e = s := by
      rcases he with rfl | ⟨rfl, hclosed⟩
      · exact unregister_of_elsewhere (elsewhere_of_registered hd hu hne)
      · exact register_of_closed hclosed
    rw [hsame]
    exact ⟨hd, rfl⟩

/-- Anna has come again over a second connection, which closed the first one.  Then she
is taken out for the first one, registered over it, and registered over the second one. -/
theorem stale_events_change_nothing_reconnect :
    let old : Client := ⟨⟨1⟩, .ofParts "anna" "acme" ["ops"]⟩
    let new : Client := ⟨⟨2⟩, .ofParts "anna" "acme" ["ops", "admin"]⟩
    let P := Population.ofIdentities fun id => if id = ⟨1⟩ then old.identity else new.identity
    let opening (id : ConnectionId) : Act := .use id (.connect 1)
    let coming (c : Client) : Act := .apply (.register c)
    let s₁ := (opening ⟨1⟩).next ∅
    let s₂ := (coming old).next s₁
    let s₃ := (opening ⟨2⟩).next s₂
    let s := (coming new).next s₃
    Run (Move P) ∅ [(∅, opening ⟨1⟩), (s₁, coming old), (s₂, opening ⟨2⟩), (s₃, coming new)] s ∧
      s.Elsewhere old ∧ (s.connection ⟨1⟩).closed ∧ s.registry.Registered new ∧
      s.apply (.unregister old) = s ∧ s.apply (.register old) = s ∧
      (s.apply (.register new)).registry = s.registry ∧
      (s.apply (.unregister old)).registry.Registered new := by
  intro old new P opening coming s₁ s₂ s₃ s
  have hfirst : (opening ⟨1⟩).Allowed P ∅ := ExtTreeMap.not_mem_empty
  have hsecond : (opening ⟨2⟩).Allowed P s₂ := by
    show ⟨2⟩ ∉ s₂.connections
    decide +kernel
  have hopened : Run (Move P) ∅ [(∅, opening ⟨1⟩)] s₁ := .move .stay ⟨hfirst, rfl⟩
  have hcame : Run (Move P) ∅ [(∅, opening ⟨1⟩), (s₁, coming old)] s₂ := .move hopened ⟨rfl, rfl⟩
  have hr : Run (Move P) ∅
      [(∅, opening ⟨1⟩), (s₁, coming old), (s₂, opening ⟨2⟩), (s₃, coming new)] s :=
    .move (.move hcame ⟨hsecond, rfl⟩) ⟨rfl, rfl⟩
  obtain ⟨hout, hdead, -, hnewer⟩ := stale_events_change_nothing hr old
  obtain ⟨-, -, hagain, -⟩ := stale_events_change_nothing hr new
  have hclosed : (s.connection ⟨1⟩).closed := by decide +kernel
  have hreg : s.registry.Registered new := by
    have hopen : ¬ (s₃.connection ⟨2⟩).closed := by decide +kernel
    show (s₃.register new).registry.Registered new
    rw [registry_register hopen]
    exact Registry.registered_register.mpr (Or.inr rfl)
  have helse : s.Elsewhere old := elsewhere_of_registered hreg rfl (by decide)
  exact ⟨hr, helse, hclosed, hreg, hout helse, hdead hclosed, (hagain hreg).1,
    (hnewer new hreg rfl (by decide) _ (Or.inl rfl)).1⟩

end Switchboard.Switch
