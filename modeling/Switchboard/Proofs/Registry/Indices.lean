import Mathlib.Data.Set.Defs
import Switchboard.Proofs.Registry.Groups

/-! # The three indices of a registry

A registry finds clients by user, by role and by organization, and it changes
the three indices one after the other.  `Consistent` says that they agree: the
first one decides who is registered, and the other two index just these clients
by their roles and by their organizations.  Registering, taking out and draining
keep that (`Consistent.register`, `Consistent.unregister`), so it holds in every
registry that calls lead to (`Reachable.consistent`).

All this needs that no two clients have one connection, since the groups know
their members by their connections: the clients come from a `Population`.

A consistent registry is determined by its first index (`Consistent.unique`). -/
namespace Switchboard
open Std

/-- A set of clients, no two of which have one connection. -/
structure Population where
  clients : Set Client
  distinct : ∀ c ∈ clients, ∀ d ∈ clients, c.connection = d.connection → c = d

namespace Population

instance : Membership Client Population := ⟨fun P c => c ∈ P.clients⟩

theorem eq_of_connection {P : Population} {c d : Client} (hc : c ∈ P) (hd : d ∈ P)
    (h : c.connection = d.connection) : c = d :=
  P.distinct c hc d hd h

/-- The clients there are when it is settled who is at the other end of each
connection. -/
def ofIdentities (who : ConnectionId → Identity) : Population where
  clients := {c | c.identity = who c.connection}
  distinct c hc d hd h := by
    have hi : c.identity = d.identity := by
      rw [show c.identity = who c.connection from hc, show d.identity = who d.connection from hd, h]
    cases c
    cases d
    cases h
    cases hi
    rfl

end Population

theorem Client.organization?_eq_some_iff {c : Client} {o : OrganizationId} :
    c.organization? = some o ↔ c.organization = o ∧ o.text ≠ "" := by
  have ho : c.organization? = if c.organization.text.isEmpty then none else some c.organization := rfl
  rw [ho]
  by_cases he : c.organization.text = ""
  · rw [if_pos (by rw [he]; rfl)]
    refine ⟨(by simp), ?_⟩
    rintro ⟨rfl, hne⟩
    exact absurd he hne
  · rw [if_neg (by simpa using he), Option.some.injEq]
    refine ⟨fun h => ⟨h, h ▸ he⟩, fun h => h.1⟩

namespace Registry

variable {P : Population} {r : Registry} {c d : Client}

/-- The client is the registered one of its user. -/
def Registered (r : Registry) (c : Client) : Prop := r.byUser[c.user]? = some c

/-- The registries to which calls about the clients of a population lead. -/
inductive Reachable (P : Population) : Registry → Prop
  | empty : Reachable P ∅
  | register {r : Registry} {c : Client} :
    Reachable P r → c ∈ P → Reachable P (r.register c).1
  | unregister {r : Registry} {c : Client} :
    Reachable P r → c ∈ P → Reachable P (r.unregister c).1
  | drain {r : Registry} : Reachable P r → Reachable P r.drain.1

/-- **The indices agree.**  Each user has a client of its own, and the groups
are those of the registered clients. -/
structure Consistent (P : Population) (r : Registry) : Prop where
  user : ∀ (u : UserId) (c : Client), r.byUser[u]? = some c → c.user = u
  population : ∀ c, r.Registered c → c ∈ P
  roles : r.byRole.Indexes r.Registered fun c role => role ∈ c.roles
  organizations : r.byOrganization.Indexes r.Registered fun c o => c.organization? = some o

/-! ## What the operations do to the first index -/

theorem byUser_register : (r.register c).1.byUser = r.byUser.insert c.user c := by
  unfold register
  cases r.byUser[c.user]? <;> rfl

theorem registered_register :
    (r.register c).1.Registered d ↔ r.Registered d ∧ d.user ≠ c.user ∨ d = c := by
  unfold Registered
  rw [byUser_register, ExtTreeMap.getElem?_insert]
  simp only [LawfulEqCmp.compare_eq_iff_eq]
  by_cases hu : c.user = d.user
  · rw [if_pos hu, Option.some.injEq]
    exact ⟨fun he => Or.inr he.symm, fun h => h.elim (fun h => absurd hu.symm h.2) Eq.symm⟩
  · rw [if_neg hu]
    refine ⟨fun h => Or.inl ⟨h, Ne.symm hu⟩, ?_⟩
    rintro (⟨h, -⟩ | rfl)
    · exact h
    · exact absurd rfl hu

/-- Who was registered for the user before. -/
theorem previous_register :
    (r.register c).2 = r.byUser[c.user]?.filter fun p => p.connection != c.connection := by
  unfold register
  cases r.byUser[c.user]? <;> rfl

theorem isRegistered_iff :
    r.isRegistered c ↔ ∃ d : Client, r.byUser[c.user]? = some d ∧ d.connection = c.connection := by
  unfold isRegistered
  cases r.byUser[c.user]? <;> simp

/-- For the clients of a population, being registered is a matter of the
connection. -/
theorem Consistent.isRegistered_iff (h : r.Consistent P) (hc : c ∈ P) :
    r.isRegistered c ↔ r.Registered c := by
  rw [Registry.isRegistered_iff]
  constructor
  · rintro ⟨d, hd, he⟩
    have hreg : r.Registered d := by rwa [Registered, h.user _ d hd]
    rwa [Population.eq_of_connection (h.population d hreg) hc he] at hreg
  · exact fun hreg => ⟨c, hreg, rfl⟩

theorem unregister_of_isRegistered (h : r.isRegistered c) :
    r.unregister c = ({ r with byUser := r.byUser.erase c.user }.leaveGroups c, true) :=
  if_pos h

theorem unregister_of_not_isRegistered (h : ¬ r.isRegistered c) :
    r.unregister c = (r, false) :=
  if_neg h

theorem Consistent.registered_unregister (h : r.Consistent P) (hc : c ∈ P) :
    (r.unregister c).1.Registered d ↔ r.Registered d ∧ d ≠ c := by
  by_cases hreg : r.isRegistered c
  · have hrc := (h.isRegistered_iff hc).mp hreg
    rw [unregister_of_isRegistered hreg]
    show (r.byUser.erase c.user)[d.user]? = some d ↔ _
    rw [ExtTreeMap.getElem?_erase]
    simp only [LawfulEqCmp.compare_eq_iff_eq]
    by_cases hu : c.user = d.user
    · rw [if_pos hu]
      refine ⟨(by simp), fun ⟨hd, hne⟩ => ?_⟩
      rw [Registered, ← hu, hrc] at hd
      exact absurd (Option.some.inj hd).symm hne
    · rw [if_neg hu]
      exact ⟨fun hd => ⟨hd, fun he => hu (he ▸ rfl)⟩, fun hd => hd.1⟩
  · rw [unregister_of_not_isRegistered hreg]
    refine ⟨fun hd => ⟨hd, ?_⟩, fun hd => hd.1⟩
    rintro rfl
    exact hreg ((h.isRegistered_iff hc).mpr hd)

/-! ## The operations keep the indices consistent -/

theorem consistent_empty : (∅ : Registry).Consistent P := by
  have hnone : ∀ c, (∅ : Registry).Registered c ↔ False := fun c => by
    show (∅ : ExtTreeMap UserId Client)[c.user]? = some c ↔ False
    simp
  refine ⟨fun u c h => ?_, fun c h => ((hnone c).mp h).elim, ?_, ?_⟩
  · have h' : (∅ : ExtTreeMap UserId Client)[u]? = some c := h
    simp at h'
  · exact Groups.indexes_empty.congr fun c => (hnone c).symm
  · exact Groups.indexes_empty.congr fun c => (hnone c).symm

/-- Two registered clients of one user are one. -/
theorem Registered.eq_of_user (hc : r.Registered c) (hd : r.Registered d)
    (hu : c.user = d.user) : c = d := by
  rw [Registered, hu] at hc
  exact Option.some.inj (hc.symm.trans hd)

/-- Two registered clients on one connection are one. -/
theorem Consistent.eq_of_connection (h : r.Consistent P) (hc : c ∈ P) :
    ∀ d, r.Registered d → d.connection = c.connection → d = c :=
  fun d hd he => Population.eq_of_connection (h.population d hd) hc he

/-- Letting a client into its groups indexes it with the others. -/
theorem indexes_joinGroups {clients : Client → Prop}
    (hr : r.byRole.Indexes clients fun c role => role ∈ c.roles)
    (ho : r.byOrganization.Indexes clients fun c o => c.organization? = some o)
    (hd : ∀ d, clients d → d.connection = c.connection → d = c) :
    (r.joinGroups c).byRole.Indexes (fun d => clients d ∨ d = c) (fun c role => role ∈ c.roles) ∧
      (r.joinGroups c).byOrganization.Indexes (fun d => clients d ∨ d = c)
        (fun c o => c.organization? = some o) := by
  refine ⟨hr.joinAll (fun _ => Iff.rfl) hd, ?_⟩
  have hall : ∀ o, c.organization? = some o ↔ o ∈ c.organization?.toList :=
    fun o => Option.mem_toList.symm
  have h := ho.joinAll hall hd
  unfold joinGroups
  cases horg : c.organization? <;> rw [horg] at h <;> exact h

/-- Letting a client out of its groups leaves the others indexed.  A client
without an organization is taken out of the group of the empty name, which is
not there. -/
theorem indexes_leaveGroups {clients : Client → Prop}
    (hr : r.byRole.Indexes clients fun c role => role ∈ c.roles)
    (ho : r.byOrganization.Indexes clients fun c o => c.organization? = some o)
    (hd : ∀ d, clients d → d.connection = c.connection → d = c) :
    (r.leaveGroups c).byRole.Indexes (fun d => clients d ∧ d ≠ c) (fun c role => role ∈ c.roles) ∧
      (r.leaveGroups c).byOrganization.Indexes (fun d => clients d ∧ d ≠ c)
        (fun c o => c.organization? = some o) := by
  have hall : ∀ o, c.organization? = some o → o ∈ [c.organization] := by
    intro o h
    rw [Client.organization?, Identity.organization?] at h
    split at h
    · cases h
    · exact List.mem_singleton.mpr (Option.some.inj h).symm
  exact ⟨hr.leaveAll (fun _ h => h) hd, ho.leaveAll hall hd⟩

theorem Consistent.register (h : r.Consistent P) (hc : c ∈ P) :
    (r.register c).1.Consistent P := by
  have huser : ∀ (u : UserId) (d : Client),
      (r.register c).1.byUser[u]? = some d → d.user = u := by
    intro u d hd
    rw [byUser_register, ExtTreeMap.getElem?_insert] at hd
    split at hd
    · next he =>
      obtain rfl := Option.some.inj hd
      exact LawfulEqCmp.eq_of_compare he
    · exact h.user u d hd
  have hpop : ∀ d, (r.register c).1.Registered d → d ∈ P := by
    intro d hd
    rcases registered_register.mp hd with ⟨hd, -⟩ | rfl
    · exact h.population d hd
    · exact hc
  suffices hgroups :
      (r.register c).1.byRole.Indexes (fun d => (r.Registered d ∧ d.user ≠ c.user) ∨ d = c)
        (fun c role => role ∈ c.roles) ∧
      (r.register c).1.byOrganization.Indexes (fun d => (r.Registered d ∧ d.user ≠ c.user) ∨ d = c)
        (fun c o => c.organization? = some o) from
    ⟨huser, hpop, hgroups.1.congr fun _ => registered_register.symm,
      hgroups.2.congr fun _ => registered_register.symm⟩
  -- the groups are left by whoever was there before, and then joined by the client
  unfold Registry.register
  cases hprev : r.byUser[c.user]? with
  | none =>
    have hne : ∀ d, r.Registered d ↔ r.Registered d ∧ d.user ≠ c.user := fun d =>
      ⟨fun hd => ⟨hd, fun he => by rw [Registered, he, hprev] at hd; cases hd⟩, fun hd => hd.1⟩
    exact indexes_joinGroups (h.roles.congr hne) (h.organizations.congr hne)
      fun d hd => h.eq_of_connection hc d hd.1
  | some p =>
    have hpu : p.user = c.user := h.user _ p hprev
    have hp : r.Registered p := by rwa [Registered, hpu]
    have hne : ∀ d, r.Registered d ∧ d ≠ p ↔ r.Registered d ∧ d.user ≠ c.user := by
      intro d
      refine and_congr_right fun hd => not_congr ⟨fun he => he ▸ hpu, fun he => ?_⟩
      exact hd.eq_of_user hp (he.trans hpu.symm)
    obtain ⟨hr, ho⟩ := indexes_leaveGroups (r := { r with byUser := r.byUser.insert c.user c })
      h.roles h.organizations (h.eq_of_connection (h.population p hp))
    exact indexes_joinGroups (hr.congr hne) (ho.congr hne)
      fun d hd => h.eq_of_connection hc d hd.1

theorem Consistent.unregister (h : r.Consistent P) (hc : c ∈ P) :
    (r.unregister c).1.Consistent P := by
  by_cases hreg : r.isRegistered c
  · have hiff : ∀ d, r.Registered d ∧ d ≠ c ↔ (r.unregister c).1.Registered d :=
      fun d => (h.registered_unregister hc).symm
    have hgroups := indexes_leaveGroups (r := { r with byUser := r.byUser.erase c.user })
      h.roles h.organizations (h.eq_of_connection hc)
    rw [unregister_of_isRegistered hreg] at hiff ⊢
    refine ⟨fun u d hd => ?_, fun d hd => h.population d ((hiff d).mpr hd).1,
      hgroups.1.congr hiff, hgroups.2.congr hiff⟩
    have hd' : (r.byUser.erase c.user)[u]? = some d := hd
    rw [ExtTreeMap.getElem?_erase] at hd'
    split at hd'
    · cases hd'
    · exact h.user u d hd'
  · rw [unregister_of_not_isRegistered hreg]
    exact h

/-- **The indices agree in every registry that calls lead to.** -/
theorem Reachable.consistent (h : Reachable P r) : r.Consistent P := by
  induction h with
  | empty => exact consistent_empty
  | register _ hc ih => exact ih.register hc
  | unregister _ hc ih => exact ih.unregister hc
  | drain _ _ => exact consistent_empty

/-- A consistent registry is determined by who is registered. -/
theorem Consistent.unique {r' : Registry} (h : r.Consistent P) (h' : r'.Consistent P)
    (he : r.byUser = r'.byUser) : r = r' := by
  have hreg : ∀ c, r.Registered c ↔ r'.Registered c := fun c => by rw [Registered, Registered, he]
  have hr := (h.roles.congr hreg).unique h'.roles
  have ho := (h.organizations.congr hreg).unique h'.organizations
  cases r
  cases r'
  cases he
  cases hr
  cases ho
  rfl

/-- No index holds a client on the connection of this one. -/
def Absent (r : Registry) (c : Client) : Prop :=
  (∀ (u : UserId) (d : Client), r.byUser[u]? = some d → d.connection ≠ c.connection) ∧
  (∀ (role : Role) (members : Members), r.byRole[role]? = some members → c.connection ∉ members) ∧
  ∀ (o : OrganizationId) (members : Members), r.byOrganization[o]? = some members →
    c.connection ∉ members

/-- Whoever is not the registered client of its user is in no index. -/
theorem Consistent.absent (h : r.Consistent P) (hc : c ∈ P) (hn : ¬ r.Registered c) :
    r.Absent c := by
  have hnobody : ∀ d, r.Registered d → d.connection ≠ c.connection := fun d hd he =>
    hn (h.eq_of_connection hc d hd he ▸ hd)
  refine ⟨fun u d hd => hnobody d ?_, fun role members hm hin => ?_, fun o members hm hin => ?_⟩
  · rwa [Registered, h.user u d hd]
  · obtain ⟨d, hd⟩ := Option.isSome_iff_exists.mp (ExtTreeMap.mem_iff_isSome_getElem?.mp hin)
    obtain ⟨hreg, -, hid⟩ := (h.roles.getElem?_iff hm).mp hd
    exact hnobody d hreg hid
  · obtain ⟨d, hd⟩ := Option.isSome_iff_exists.mp (ExtTreeMap.mem_iff_isSome_getElem?.mp hin)
    obtain ⟨hreg, -, hid⟩ := (h.organizations.getElem?_iff hm).mp hd
    exact hnobody d hreg hid

/-! ## Who is listed -/

theorem Consistent.mem_clients_iff (h : r.Consistent P) : c ∈ r.clients ↔ r.Registered c := by
  rw [clients, FiniteMap.mem_values_iff]
  constructor
  · rintro ⟨u, hu⟩
    rwa [Registered, h.user u c hu]
  · exact fun hc => ⟨c.user, hc⟩

/-- No two registered clients have one connection. -/
theorem Consistent.pairwise_clients (h : r.Consistent P) :
    r.clients.Pairwise fun c d => c.connection ≠ d.connection := by
  refine FiniteMap.pairwise_values fun u v c d hc hd hne he => hne ?_
  have hcr : r.Registered c := by rwa [Registered, h.user u c hc]
  have hdr : r.Registered d := by rwa [Registered, h.user v d hd]
  obtain rfl := h.eq_of_connection (h.population d hdr) c hcr he
  exact (h.user u c hc).symm.trans (h.user v c hd)

/-- The sizes of a consistent registry count users, roles and organizations. -/
theorem Consistent.stats_eq (h : r.Consistent P) :
    r.stats = ⟨(r.clients.map Client.user).dedup.length,
      (r.clients.flatMap Client.roles).dedup.length,
      (r.clients.filterMap Client.organization?).dedup.length⟩ := by
  have husers : r.byUser.size = (r.clients.map Client.user).dedup.length := by
    refine FiniteMap.size_eq_length_dedup fun u => ?_
    rw [ExtTreeMap.mem_iff_isSome_getElem?, Option.isSome_iff_exists, List.mem_map]
    constructor
    · rintro ⟨c, hc⟩
      exact ⟨c, FiniteMap.mem_values_iff.mpr ⟨u, hc⟩, h.user u c hc⟩
    · rintro ⟨c, hc, rfl⟩
      exact ⟨c, h.mem_clients_iff.mp hc⟩
  have hroles : r.byRole.size = (r.clients.flatMap Client.roles).dedup.length := by
    refine FiniteMap.size_eq_length_dedup fun role => ?_
    rw [h.roles.mem_iff, List.mem_flatMap]
    simp only [h.mem_clients_iff]
  have horgs : r.byOrganization.size =
      (r.clients.filterMap Client.organization?).dedup.length := by
    refine FiniteMap.size_eq_length_dedup fun o => ?_
    rw [h.organizations.mem_iff, List.mem_filterMap]
    simp only [h.mem_clients_iff]
  rw [stats, husers, hroles, horgs]

/-- **The three indices agree after any calls.**  Each user is mapped to a client
of that user.  There is a group of a role exactly if a registered client holds
the role; its members are the registered clients that hold it, each on its own
connection, and there are some.  It is the same with organizations, and the
empty name is none.  So the sizes of the registry are the numbers of registered
users, of roles that they hold and of organizations that they belong to. -/
theorem Reachable.indices_agree (h : Reachable P r) :
    (∀ (u : UserId) (c : Client), r.byUser[u]? = some c → c.user = u) ∧
    (∀ role, role ∈ r.byRole ↔ ∃ c ∈ r.clients, role ∈ c.roles) ∧
    (∀ (role : Role) (members : Members), r.byRole[role]? = some members →
      members ≠ ∅ ∧ ∀ (id : ConnectionId) (c : Client), members[id]? = some c ↔
        c ∈ r.clients ∧ role ∈ c.roles ∧ c.connection = id) ∧
    (∀ o, o ∈ r.byOrganization ↔ ∃ c ∈ r.clients, c.organization = o ∧ o.text ≠ "") ∧
    (∀ (o : OrganizationId) (members : Members), r.byOrganization[o]? = some members →
      members ≠ ∅ ∧ ∀ (id : ConnectionId) (c : Client), members[id]? = some c ↔
        c ∈ r.clients ∧ c.organization = o ∧ c.connection = id) ∧
    ⟨""⟩ ∉ r.byOrganization ∧
    r.stats = ⟨(r.clients.map Client.user).dedup.length,
      (r.clients.flatMap Client.roles).dedup.length,
      (r.clients.filterMap Client.organization?).dedup.length⟩ := by
  have hc := h.consistent
  have horg : ∀ o, o ∈ r.byOrganization ↔ ∃ c ∈ r.clients, c.organization = o ∧ o.text ≠ "" := by
    intro o
    rw [hc.organizations.mem_iff]
    simp only [hc.mem_clients_iff, Client.organization?_eq_some_iff]
  refine ⟨hc.user, fun role => ?_, fun role members hm => ⟨hc.roles.occupied role members hm,
    fun id c => ?_⟩, horg, fun o members hm => ⟨hc.organizations.occupied o members hm,
    fun id c => ?_⟩, fun he => ?_, hc.stats_eq⟩
  · rw [hc.roles.mem_iff]
    simp only [hc.mem_clients_iff]
  · rw [hc.roles.getElem?_iff hm, hc.mem_clients_iff]
  · have hne : o.text ≠ "" := by
      obtain ⟨_, -, -, hne⟩ := (horg o).mp (ExtTreeMap.mem_iff_isSome_getElem?.mpr (by rw [hm]; rfl))
      exact hne
    rw [hc.organizations.getElem?_iff hm, hc.mem_clients_iff, Client.organization?_eq_some_iff]
    simp only [ne_eq, hne, not_false_eq_true, and_true]
  · obtain ⟨_, -, -, hne⟩ := (horg ⟨""⟩).mp he
    exact hne rfl

/-- Anna comes again over another connection, with a role less and without an
organization: the group of the role and the group of the organization are gone. -/
theorem indices_agree_reconnect :
    let first : Client := ⟨⟨1⟩, .ofParts "anna" "acme" ["admin", "ops"]⟩
    let second : Client := ⟨⟨2⟩, .ofParts "anna" "" ["ops"]⟩
    let P := Population.ofIdentities fun id => if id = ⟨1⟩ then first.identity else second.identity
    let r := ((register first ∅).1.register second).1
    Reachable P r ∧ ⟨"admin"⟩ ∉ r.byRole ∧ ⟨""⟩ ∉ r.byOrganization ∧
      (r.clients.flatMap Client.roles).dedup.length = 1 := by
  intro first second P r
  have hr : Reachable P r := .register (.register .empty rfl) rfl
  obtain ⟨-, hrole, -, -, -, hempty, hstats⟩ := hr.indices_agree
  refine ⟨hr, ?_, hempty, ?_⟩
  · have hnobody : ¬ ∃ c ∈ r.clients, ⟨"admin"⟩ ∈ c.roles := by decide +kernel
    exact fun hmem => hnobody ((hrole _).mp hmem)
  · have hone : r.stats.roles = 1 := by decide +kernel
    rw [← hone, hstats]

end Registry
end Switchboard
