import Switchboard.Proofs.Switch.Acts

/-! # Nobody suffers from others

Two switches are given the same events, and the clients of one user behave the
same at both; what the others do with their connections is left open.  They may
open them with more or fewer places, read from them or not, close them or give
them up.  So others may be put out at one switch and not at the other, which
changes the groups that they share with the user's clients.

The user's clients do not notice: they `Agree` at every moment, each being
registered at both switches or at none, over the same connection.  Every event
keeps that, because what becomes of a client depends on the clients of its user
alone, and whether a message is for a client on the message and the client
(`Agree.next`); what others do keeps it because it touches neither (`Agree.use`).
-/
namespace Switchboard
namespace Switch

variable {P : Population} {u : UserId} {s t : Switch} {a : Act} {c d : Client}
  {record record' : List (Switch × Act)}

/-- An act concerns a user, unless it is a use of the connection of somebody
else. -/
def Act.Concerns (P : Population) (u : UserId) : Act → Prop
  | use id _ => ∃ c ∈ P, c.user = u ∧ c.connection = id
  | apply _ | shutDown => True

open Classical in
/-- The acts of a run that concern a user, in their order. -/
noncomputable def concerning (P : Population) (u : UserId) (record : List (Switch × Act)) :
    List Act :=
  observe (fun _ a => if a.Concerns P u then [a] else []) record

/-- How a client stands: who is registered for its user, and its connection with
all that is queued, closed and dropped there. -/
def standing (c : Client) (s : Switch) : Option Client × Connection :=
  (s.registry.byUser[c.user]?, s.connection c.connection)

/-- How a client stands after each event of a run. -/
def standings (c : Client) (record : List (Switch × Act)) : List (Option Client × Connection) :=
  observe (fun s a => match a with
    | .use .. => []
    | .apply _ | .shutDown => [standing c (a.next s)]) record

/-- The clients of a user are registered at both of two switches or at none, and
their connections are the same. -/
structure Agree (P : Population) (u : UserId) (s t : Switch) : Prop where
  registered : ∀ c ∈ P, c.user = u → (s.registry.Registered c ↔ t.registry.Registered c)
  connection : ∀ c ∈ P, c.user = u → s.connection c.connection = t.connection c.connection

theorem Agree.refl (P : Population) (u : UserId) (s : Switch) : Agree P u s s :=
  ⟨fun _ _ _ => Iff.rfl, fun _ _ _ => rfl⟩

theorem Agree.symm (h : Agree P u s t) : Agree P u t s :=
  ⟨fun c hc hu => (h.registered c hc hu).symm, fun c hc hu => (h.connection c hc hu).symm⟩

/-- The same client is registered for a user on whose clients two switches
agree. -/
theorem Agree.byUser_eq (h : Agree P c.user s t) (hs : s.registry.Consistent P)
    (ht : t.registry.Consistent P) : s.registry.byUser[c.user]? = t.registry.byUser[c.user]? := by
  have hone : ∀ {s t : Switch}, Agree P c.user s t → s.registry.Consistent P → ∀ d : Client,
      s.registry.byUser[c.user]? = some d → t.registry.byUser[c.user]? = some d := by
    intro s t h hs d hd
    have hu : d.user = c.user := hs.user _ d hd
    have hreg : s.registry.Registered d := by rwa [Registry.Registered, hu]
    have hreg' := (h.registered d (hs.population d hreg) hu).mp hreg
    rwa [Registry.Registered, hu] at hreg'
  exact Option.ext fun d => ⟨hone h hs d, hone h.symm ht d⟩

/-! ## What others do -/

/-- A use of somebody else's connection is not noticed. -/
theorem Agree.use (h : Agree P u s t) (ha : ¬ a.Concerns P u) : Agree P u (a.next s) t := by
  cases a with
  | apply e | shutDown => exact absurd trivial ha
  | use id w =>
    refine ⟨fun c hc hu => ?_, fun c hc hu => ?_⟩
    · show (w.next id s).registry.Registered c ↔ _
      rw [registry_use]
      exact h.registered c hc hu
    · show (w.next id s).connection c.connection = _
      rw [connection_use, if_neg fun he => ha ⟨c, hc, hu, he⟩]
      exact h.connection c hc hu

/-- Registering somebody supersedes nobody of another user. -/
theorem connection_register_of_ne (h : s.registry.Consistent P) (hc : c ∈ P)
    (hu : c.user ≠ d.user) : (s.register d).connection c.connection = s.connection c.connection := by
  by_cases hclosed : (s.connection d.connection).closed
  · rw [register_of_closed hclosed]
  · rw [connection_register hclosed, if_neg fun hp => hu (registered_of_superseded h hc hp).2]

theorem registered_register_of_ne (hu : c.user ≠ d.user) :
    (s.register d).registry.Registered c ↔ s.registry.Registered c := by
  by_cases hclosed : (s.connection d.connection).closed
  · rw [register_of_closed hclosed]
  · rw [registry_register hclosed, Registry.registered_register]
    refine ⟨fun hreg => ?_, fun hreg => Or.inl ⟨hreg, hu⟩⟩
    rcases hreg with ⟨hreg, -⟩ | rfl
    · exact hreg
    · exact absurd rfl hu

/-! ## What happens at both switches -/

theorem Agree.register (h : Agree P u s t) (hs : s.registry.Consistent P)
    (ht : t.registry.Consistent P) (hd : d ∈ P) : Agree P u (s.register d) (t.register d) := by
  by_cases hdu : d.user = u
  · -- whoever is registered is one of the user's: both switches do the same
    have hcon := h.connection d hd hdu
    by_cases hclosed : (s.connection d.connection).closed
    · rw [register_of_closed hclosed, register_of_closed (hcon ▸ hclosed)]
      exact h
    have hclosed' : ¬ (t.connection d.connection).closed := hcon ▸ hclosed
    have hprev : (s.registry.register d).2 = (t.registry.register d).2 := by
      rw [Registry.previous_register, Registry.previous_register, Agree.byUser_eq (hdu ▸ h) hs ht]
    refine ⟨fun c hc hu => ?_, fun c hc hu => ?_⟩
    · rw [registry_register hclosed, registry_register hclosed', Registry.registered_register,
        Registry.registered_register, h.registered c hc hu]
    · rw [connection_register hclosed, connection_register hclosed', hprev, h.connection c hc hu]
  · have hne : ∀ c : Client, c.user = u → c.user ≠ d.user := fun c hu he => hdu (he ▸ hu)
    refine ⟨fun c hc hu => ?_, fun c hc hu => ?_⟩
    · rw [registered_register_of_ne (hne c hu), registered_register_of_ne (hne c hu)]
      exact h.registered c hc hu
    · rw [connection_register_of_ne hs hc (hne c hu), connection_register_of_ne ht hc (hne c hu)]
      exact h.connection c hc hu

theorem Agree.unregister (h : Agree P u s t) (hs : s.registry.Consistent P)
    (ht : t.registry.Consistent P) (hd : d ∈ P) : Agree P u (s.unregister d) (t.unregister d) := by
  refine ⟨fun c hc hu => ?_, fun c hc hu => ?_⟩
  · rw [registry_unregister, registry_unregister, hs.registered_unregister hd,
      ht.registered_unregister hd, h.registered c hc hu]
  · rw [connection_unregister, connection_unregister]
    exact h.connection c hc hu

theorem Agree.deliver (h : Agree P u s t) (hs : s.registry.Reachable P)
    (ht : t.registry.Reachable P) (m : RoutedMessage) : Agree P u (s.deliver m) (t.deliver m) := by
  have htarget : ∀ c ∈ P, c.user = u →
      (c ∈ s.registry.resolve m.audience ↔ c ∈ t.registry.resolve m.audience) := by
    intro c hc hu
    rw [hs.consistent.mem_resolve_iff, ht.consistent.mem_resolve_iff, h.registered c hc hu]
  refine ⟨fun c hc hu => ?_, fun c hc hu => ?_⟩
  · rw [registered_deliver hs, registered_deliver ht, mem_missed_iff, mem_missed_iff,
      htarget c hc hu, h.connection c hc hu, h.registered c hc hu]
  · have hiff : c.connection ∈ (s.registry.resolve m.audience).map Client.connection ↔
        c.connection ∈ (t.registry.resolve m.audience).map Client.connection := by
      rw [connection_mem_targets_iff hs.consistent hc, connection_mem_targets_iff ht.consistent hc]
      exact htarget c hc hu
    rw [connection_deliver hs.consistent, connection_deliver ht.consistent, h.connection c hc hu]
    simp only [hiff]

theorem Agree.shutDown (h : Agree P u s t) (hs : s.registry.Consistent P)
    (ht : t.registry.Consistent P) : Agree P u s.shutDown t.shutDown := by
  refine ⟨fun c hc hu => ?_, fun c hc hu => ?_⟩
  · rw [registry_shutDown, registry_shutDown]
    exact Iff.rfl
  · have hiff : c.connection ∈ s.registry.clients.map Client.connection ↔
        c.connection ∈ t.registry.clients.map Client.connection := by
      rw [connection_mem_clients_iff hs hc, connection_mem_clients_iff ht hc]
      exact h.registered c hc hu
    rw [connection_shutDown, connection_shutDown, h.connection c hc hu]
    simp only [hiff]

/-- **Who agrees before an act agrees after it**, if the act is the same at both
switches. -/
theorem Agree.next (h : Agree P u s t) (hs : s.registry.Reachable P) (ht : t.registry.Reachable P)
    (ha : a.Allowed P s) : Agree P u (a.next s) (a.next t) := by
  cases a with
  | shutDown => exact h.shutDown hs.consistent ht.consistent
  | use id w =>
    refine ⟨fun c hc hu => ?_, fun c hc hu => ?_⟩
    · show (w.next id s).registry.Registered c ↔ (w.next id t).registry.Registered c
      rw [registry_use, registry_use]
      exact h.registered c hc hu
    · show (w.next id s).connection c.connection = (w.next id t).connection c.connection
      rw [connection_use, connection_use]
      by_cases hid : c.connection = id
      · subst hid
        rw [if_pos rfl, if_pos rfl, h.connection c hc hu]
      · rw [if_neg hid, if_neg hid, h.connection c hc hu]
  | apply e =>
    cases e with
    | stats => exact h
    | register d => exact h.register hs.consistent ht.consistent ha
    | unregister d => exact h.unregister hs.consistent ht.consistent ha
    | deliver m => exact h.deliver hs ht m

/-! ## Two runs -/

theorem concerning_snoc_of_concerns (ha : a.Concerns P u) :
    concerning P u (record ++ [(s, a)]) = concerning P u record ++ [a] := by
  rw [concerning, observe_snoc, if_pos ha]
  rfl

theorem concerning_snoc_of_not_concerns (ha : ¬ a.Concerns P u) :
    concerning P u (record ++ [(s, a)]) = concerning P u record := by
  rw [concerning, observe_snoc, if_neg ha, List.append_nil]
  rfl

/-- What does not concern the user is no event. -/
theorem standings_snoc_of_not_concerns (ha : ¬ a.Concerns P u) :
    standings c (record ++ [(s, a)]) = standings c record := by
  cases a with
  | apply e | shutDown => exact absurd trivial ha
  | use id w =>
    rw [standings, observe_snoc, List.append_nil]
    rfl

/-- An act that both runs come to leads to the same for the user. -/
theorem agree_snoc (hagree : Agree P c.user s t) (hstand : standings c record = standings c record')
    (hs : s.registry.Reachable P) (ht : t.registry.Reachable P) (hc : c ∈ P) (ha : a.Allowed P s)
    (ha' : a.Allowed P t) : Agree P c.user (a.next s) (a.next t) ∧
      standings c (record ++ [(s, a)]) = standings c (record' ++ [(t, a)]) := by
  have hnext := hagree.next hs ht ha
  have hstanding : standing c (a.next s) = standing c (a.next t) := by
    rw [standing, standing, hnext.connection c hc rfl, hnext.byUser_eq
      (reachable_next hs ha).consistent (reachable_next ht ha').consistent]
  refine ⟨hnext, ?_⟩
  rw [standings, standings, observe_snoc, observe_snoc, ← standings, ← standings, hstand]
  cases a with
  | use id w => rfl
  | apply e | shutDown => exact congrArg (fun x => standings c record' ++ [x]) hstanding

/-- **The clients of a user agree after two runs that are the same for the
user**, and after each event in them.  The induction is on both runs: acts of
others are passed over wherever they come, and the acts that concern the user
meet. -/
theorem agree_of_runs (hr : Run (Move P) ∅ record s) (hr' : Run (Move P) ∅ record' t)
    (hsame : concerning P c.user record = concerning P c.user record') (hc : c ∈ P) :
    Agree P c.user s t ∧ standings c record = standings c record' := by
  induction hr generalizing record' t with
  | stay =>
    induction hr' with
    | stay => exact ⟨Agree.refl P c.user ∅, rfl⟩
    | @move before t _ b _ hm' ih' =>
      obtain ⟨-, rfl⟩ := hm'
      by_cases hb : b.Concerns P c.user
      · rw [concerning_snoc_of_concerns hb] at hsame
        exact absurd hsame.symm (List.append_ne_nil_of_right_ne_nil _ (List.cons_ne_nil b []))
      · rw [concerning_snoc_of_not_concerns hb] at hsame
        obtain ⟨hagree, hstand⟩ := ih' hsame
        exact ⟨(hagree.symm.use hb).symm, hstand.trans (standings_snoc_of_not_concerns hb).symm⟩
  | @move earlier s _ a hbefore hm ih =>
    obtain ⟨ha, rfl⟩ := hm
    by_cases hconcerns : a.Concerns P c.user
    · rw [concerning_snoc_of_concerns hconcerns] at hsame
      induction hr' with
      | stay => exact absurd hsame (List.append_ne_nil_of_right_ne_nil _ (List.cons_ne_nil a []))
      | @move before t _ b hbefore' hm' ih' =>
        obtain ⟨ha', rfl⟩ := hm'
        by_cases hb : b.Concerns P c.user
        · rw [concerning_snoc_of_concerns hb] at hsame
          obtain ⟨hearlier, hab⟩ := List.append_inj' hsame rfl
          obtain rfl := List.head_eq_of_cons_eq hab
          obtain ⟨hagree, hstand⟩ := ih hbefore' hearlier
          exact agree_snoc hagree hstand (reachable_of_run hbefore .empty)
            (reachable_of_run hbefore' .empty) hc ha ha'
        · rw [concerning_snoc_of_not_concerns hb] at hsame
          obtain ⟨hagree, hstand⟩ := ih' hsame
          exact ⟨(hagree.symm.use hb).symm, hstand.trans (standings_snoc_of_not_concerns hb).symm⟩
    · rw [concerning_snoc_of_not_concerns hconcerns] at hsame
      obtain ⟨hagree, hstand⟩ := ih hr' hsame
      exact ⟨hagree.use hconcerns, (standings_snoc_of_not_concerns hconcerns).trans hstand⟩

/-- **A slow or dead client does not affect the others.**  Take two runs in
which the same events are applied and the clients of one user do the same with
their connections at the same points, while all others do as they like.  Then a
client of that user stands the same after every event of the two runs, and at
their ends: the same client is registered for the user, and the connection has
the same queue, is closed or not, and has dropped as much.  The same messages
are resolved to it. -/
theorem standing_independent_of_others (hr : Run (Move P) ∅ record s)
    (hr' : Run (Move P) ∅ record' t)
    (hsame : concerning P c.user record = concerning P c.user record') (hc : c ∈ P) :
    standings c record = standings c record' ∧ standing c s = standing c t ∧
      ∀ audience, c ∈ s.registry.resolve audience ↔ c ∈ t.registry.resolve audience := by
  obtain ⟨hagree, hstand⟩ := agree_of_runs hr hr' hsame hc
  have hs := (reachable_of_run hr .empty).consistent
  have ht := (reachable_of_run hr' .empty).consistent
  refine ⟨hstand, ?_, fun audience => ?_⟩
  · rw [standing, standing, hagree.byUser_eq hs ht, hagree.connection c hc rfl]
  · rw [hs.mem_resolve_iff, ht.mem_resolve_iff, hagree.registered c hc rfl]

/-- Bob has one place in one run and eight in the other, and never reads.  In
the first he is put out with the second payload, and the group of his role
shrinks while it is gone through; Anna, who is in the same group, does not
notice. -/
theorem standing_independent_of_others_eviction :
    let anna : Client := ⟨⟨1⟩, .ofParts "anna" "acme" ["admin"]⟩
    let bob : Client := ⟨⟨2⟩, .ofParts "bob" "acme" ["admin"]⟩
    let P := Population.ofIdentities fun id => if id = ⟨1⟩ then anna.identity else bob.identity
    let annaOpens : Act := .use anna.connection (.connect 8)
    let bobOpens (places : Nat) : Act := .use bob.connection (.connect places)
    let annaComes : Act := .apply (.register anna)
    let bobComes : Act := .apply (.register bob)
    let sending (text : String) : Act :=
      .apply (.deliver ⟨.named ∅ (.ofNames [⟨"admin"⟩]) ∅, .ofText text⟩)
    let s₁ := annaOpens.next ∅
    let s₂ (places : Nat) := (bobOpens places).next s₁
    let s₃ (places : Nat) := annaComes.next (s₂ places)
    let s₄ (places : Nat) := bobComes.next (s₃ places)
    let s₅ (places : Nat) := (sending "one").next (s₄ places)
    let s₆ (places : Nat) := (sending "two").next (s₅ places)
    let record (places : Nat) := [(∅, annaOpens), (s₁, bobOpens places), (s₂ places, annaComes),
      (s₃ places, bobComes), (s₄ places, sending "one"), (s₅ places, sending "two")]
    (∀ places, Run (Move P) ∅ (record places) (s₆ places)) ∧
      ((s₆ 1).connection bob.connection).closed ∧ ¬ ((s₆ 8).connection bob.connection).closed ∧
      standings anna (record 1) = standings anna (record 8) ∧
      ((s₆ 1).connection anna.connection).queue = [.ofText "one", .ofText "two"] := by
  intro anna bob P annaOpens bobOpens annaComes bobComes sending s₁ s₂ s₃ s₄ s₅ s₆ record
  have hfree : bob.connection ∉ s₁.connections := by decide +kernel
  have hr : ∀ places, Run (Move P) ∅ (record places) (s₆ places) := by
    intro places
    have h₁ : Run (Move P) ∅ [(∅, annaOpens)] s₁ :=
      .move .stay ⟨Std.ExtTreeMap.not_mem_empty, rfl⟩
    have h₂ : Run (Move P) ∅ [(∅, annaOpens), (s₁, bobOpens places)] (s₂ places) :=
      .move h₁ ⟨hfree, rfl⟩
    have h₃ := h₂.move (a := annaComes) (u := s₃ places) ⟨rfl, rfl⟩
    have h₄ := h₃.move (a := bobComes) (u := s₄ places) ⟨rfl, rfl⟩
    have h₅ := h₄.move (a := sending "one") (u := s₅ places) ⟨trivial, rfl⟩
    exact h₅.move (a := sending "two") (u := s₆ places) ⟨trivial, rfl⟩
  have hsame : concerning P anna.user (record 1) = concerning P anna.user (record 8) := by
    have hanna : annaOpens.Concerns P anna.user := ⟨anna, rfl, rfl, rfl⟩
    have hbob : ∀ places, ¬ (bobOpens places).Concerns P anna.user := by
      rintro places ⟨c, hc, hu, hid⟩
      have hi : c.identity = bob.identity := by
        rw [show c.identity = if c.connection = ⟨1⟩ then anna.identity else bob.identity from hc, hid]
        rfl
      have hne : bob.identity.user ≠ anna.user := by decide
      exact hne (hi ▸ hu)
    have hevent : ∀ e, (Act.apply e).Concerns P anna.user := fun _ => trivial
    simp only [record, concerning, observe, List.flatMap_cons, if_pos hanna, if_neg (hbob _),
      annaComes, bobComes, sending, if_pos (hevent _), List.nil_append]
  have hstanding := (standing_independent_of_others (hr 1) (hr 8) hsame (c := anna) rfl).1
  exact ⟨hr, by decide +kernel, by decide +kernel, hstanding, by decide +kernel⟩

end Switch
end Switchboard
