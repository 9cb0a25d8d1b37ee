import Switchboard.Proofs.Switch.Acts

/-! # Accepted clients

A client is accepted when it is registered while its connection is open.  From
then on it is `Settled`: it is registered, or its connection is closed.  It can
leave the registry in four ways.  When another client of its user takes its
place, when a payload finds no place in its queue, and when the switch is shut
down, its connection is closed; and when it is taken out on request, its
connection must have been closed before. -/
namespace Switchboard
namespace Switch

variable {P : Population} {s : Switch} {a : Act} {c d : Client} {record : List (Switch × Act)}

/-- A client was registered along a run while its connection was open. -/
def Accepted (c : Client) (record : List (Switch × Act)) : Prop :=
  ∃ s, (s, Act.apply (.register c)) ∈ record ∧ ¬ (s.connection c.connection).closed

/-- Nobody is taken out on request along a run whose connection is not closed. -/
def TakesOutClosed (record : List (Switch × Act)) : Prop :=
  ∀ s c, (s, Act.apply (.unregister c)) ∈ record → (s.connection c.connection).closed

/-- A client is registered, or its connection is closed. -/
structure Settled (P : Population) (c : Client) (s : Switch) : Prop where
  known : c ∈ P
  opened : c.connection ∈ s.connections
  registered_or_closed : s.registry.Registered c ∨ (s.connection c.connection).closed

/-- Who is registered while its connection is open is settled. -/
theorem settled_register (ha : (Act.apply (.register c)).Allowed P s)
    (hopen : ¬ (s.connection c.connection).closed) :
    Settled P c ((Act.apply (.register c)).next s) where
  known := ha
  opened := grows_next c.connection (mem_connections_of_open hopen)
  registered_or_closed := by
    left
    show (s.register c).registry.Registered c
    rw [registry_register hopen]
    exact Registry.registered_register.mpr (Or.inr rfl)

/-- **Who is settled stays so**, unless it is taken out while its connection is
open. -/
theorem Settled.next (hs : Settled P c s) (h : s.registry.Reachable P) (ha : a.Allowed P s)
    (hout : a = .apply (.unregister c) → (s.connection c.connection).closed) :
    Settled P c (a.next s) where
  known := hs.known
  opened := grows_next c.connection hs.opened
  registered_or_closed := by
    have hstays : (s.connection c.connection).closed →
        ((a.next s).connection c.connection).closed :=
      closed_next h.consistent hs.known ha hs.opened
    rcases hs.registered_or_closed with hreg | hclosed
    · rcases registered_or_closed_next h ha hreg with hafter | hafter | hasked
      · exact Or.inl hafter
      · exact Or.inr hafter
      · exact Or.inr (hstays (hout hasked))
    · exact Or.inr (hstays hclosed)

/-- **Accepted clients are settled**, at the end of every run that takes out only
whose connection is closed. -/
theorem settled_of_accepted (hr : Run (Move P) ∅ record s) (hout : TakesOutClosed record)
    (hc : Accepted c record) : Settled P c s := by
  induction hr with
  | stay =>
    obtain ⟨s, hin, -⟩ := hc
    cases hin
  | @move before s t a hbefore hm ih =>
    have hreach := reachable_of_run hbefore .empty
    obtain ⟨ha, rfl⟩ := hm
    obtain ⟨u, hin, hopen⟩ := hc
    rcases List.mem_append.mp hin with hin | hin
    · have hsettled := ih (fun s c hin => hout s c (List.mem_append_left _ hin)) ⟨u, hin, hopen⟩
      refine hsettled.next hreach ha ?_
      rintro rfl
      exact hout s c (List.mem_append_right _ List.mem_cons_self)
    · cases List.mem_singleton.mp hin
      exact settled_register ha hopen

/-- Two settled clients of one user are one, if the connections of both are
open. -/
theorem Settled.eq_of_open (hc : Settled P c s) (hd : Settled P d s) (hu : c.user = d.user)
    (hcopen : ¬ (s.connection c.connection).closed)
    (hdopen : ¬ (s.connection d.connection).closed) : c = d :=
  Registry.Registered.eq_of_user (hc.registered_or_closed.resolve_right hcopen)
    (hd.registered_or_closed.resolve_right hdopen) hu

end Switch
end Switchboard
