import Switchboard.Proofs.Registry.Indices

/-! # Whom a message reaches

An audience describes clients (`Audience.Includes`), and a registry resolves it
to a list.  In a consistent registry the list has exactly the registered clients
that the audience includes (`Consistent.mem_resolve_iff`), no two of them on one
connection (`Consistent.nodup_resolve`).  A client that is found in several ways
is found as the same client each time, because the groups hold only registered
clients. -/
namespace Switchboard

/-- An audience includes the clients whose user, one of whose roles or whose
organization it names. -/
def Audience.Includes (c : Client) : Audience → Prop
  | .everyone => True
  | .named users roles organizations =>
    c.user ∈ users ∨ (∃ role ∈ c.roles, role ∈ roles) ∨
      ∃ o, c.organization? = some o ∧ o ∈ organizations

namespace Registry
open Std

variable {P : Population} {r : Registry} {c : Client}

theorem mem_distinct_iff {cs : List Client}
    (h : ∀ d ∈ cs, d.connection = c.connection → d = c) : c ∈ distinct cs ↔ c ∈ cs := by
  refine ⟨mem_of_mem_distinct, fun hc => ?_⟩
  induction cs with
  | nil => exact hc
  | cons d cs ih =>
    rw [distinct, List.mem_cons]
    by_cases hd : d.connection = c.connection
    · exact Or.inl (h d List.mem_cons_self hd).symm
    · rcases List.mem_cons.mp hc with rfl | hc
      · exact absurd rfl hd
      · refine Or.inr (List.mem_filter.mpr ⟨?_, by simpa using Ne.symm hd⟩)
        exact ih (fun e he => h e (List.mem_cons_of_mem d he)) hc

/-- Who is looked up by user, by role and by organization. -/
theorem Consistent.mem_found_iff (h : r.Consistent P) {users : NameSet .user}
    {roles : NameSet .role} {organizations : NameSet .organization} :
    c ∈ users.toList.filterMap (r.byUser[·]?) ++ roles.toList.flatMap r.byRole.membersOf ++
        organizations.toList.flatMap r.byOrganization.membersOf ↔
      r.Registered c ∧ (Audience.named users roles organizations).Includes c := by
  have husers : c ∈ users.toList.filterMap (r.byUser[·]?) ↔ r.Registered c ∧ c.user ∈ users := by
    rw [List.mem_filterMap]
    constructor
    · rintro ⟨u, hu, hc⟩
      obtain rfl := h.user u c hc
      exact ⟨hc, ExtTreeSet.mem_toList.mp hu⟩
    · rintro ⟨hc, hu⟩
      exact ⟨c.user, ExtTreeSet.mem_toList.mpr hu, hc⟩
  have hroles : c ∈ roles.toList.flatMap r.byRole.membersOf ↔
      r.Registered c ∧ ∃ role ∈ c.roles, role ∈ roles := by
    rw [List.mem_flatMap]
    simp only [h.roles.mem_membersOf_iff, ExtTreeSet.mem_toList]
    constructor
    · rintro ⟨role, hin, hc, hr⟩
      exact ⟨hc, role, hr, hin⟩
    · rintro ⟨hc, role, hr, hin⟩
      exact ⟨role, hin, hc, hr⟩
  have horganizations : c ∈ organizations.toList.flatMap r.byOrganization.membersOf ↔
      r.Registered c ∧ ∃ o, c.organization? = some o ∧ o ∈ organizations := by
    rw [List.mem_flatMap]
    simp only [h.organizations.mem_membersOf_iff, ExtTreeSet.mem_toList]
    constructor
    · rintro ⟨o, hin, hc, ho⟩
      exact ⟨hc, o, ho, hin⟩
    · rintro ⟨hc, o, ho, hin⟩
      exact ⟨o, hin, hc, ho⟩
  rw [List.mem_append, List.mem_append, husers, hroles, horganizations, ← and_or_left,
    ← and_or_left, or_assoc]
  rfl

/-- **A message reaches exactly the registered clients that it is for.** -/
theorem Consistent.mem_resolve_iff (h : r.Consistent P) {audience : Audience} :
    c ∈ r.resolve audience ↔ r.Registered c ∧ audience.Includes c := by
  cases audience with
  | everyone =>
    show c ∈ r.clients ↔ r.Registered c ∧ True
    rw [h.mem_clients_iff, and_true]
  | named users roles organizations =>
    rw [← h.mem_found_iff]
    refine ⟨mem_of_mem_distinct, fun hc => (mem_distinct_iff fun d hd he => ?_).mpr hc⟩
    have hcr := (h.mem_found_iff.mp hc).1
    exact h.eq_of_connection (h.population c hcr) d (h.mem_found_iff.mp hd).1 he

/-- **A message reaches nobody twice.** -/
theorem Consistent.nodup_resolve (h : r.Consistent P) (audience : Audience) :
    ((r.resolve audience).map Client.connection).Nodup := by
  refine List.pairwise_map.mpr ?_
  cases audience with
  | everyone => exact h.pairwise_clients
  | named users roles organizations => exact pairwise_distinct _

theorem includes_audience_iff {m : ClientMessage} :
    m.audience.Includes c ↔ m.broadcast = true ∨ c.user ∈ m.users ∨
      (∃ role ∈ c.roles, role ∈ m.roles) ∨
      (c.organization.text ≠ "" ∧ c.organization ∈ m.organizations) := by
  unfold ClientMessage.audience
  by_cases hb : m.broadcast = true
  · rw [if_pos hb]
    exact ⟨fun _ => Or.inl hb, fun _ => trivial⟩
  · rw [if_neg hb, or_iff_right hb]
    have hroles : (∃ role ∈ c.roles, role ∈ NameSet.ofNames m.roles) ↔
        ∃ role ∈ c.roles, role ∈ m.roles := by
      simp only [NameSet.mem_ofNames]
    have horganization : (∃ o, c.organization? = some o ∧ o ∈ NameSet.ofNames m.organizations) ↔
        c.organization.text ≠ "" ∧ c.organization ∈ m.organizations := by
      simp only [Client.organization?_eq_some_iff, NameSet.mem_ofNames]
      constructor
      · rintro ⟨o, ⟨rfl, hne⟩, hin⟩
        exact ⟨hne, hin⟩
      · rintro ⟨hne, hin⟩
        exact ⟨c.organization, ⟨rfl, hne⟩, hin⟩
    exact or_congr NameSet.mem_ofNames (or_congr hroles horganization)

/-- **Exact routing after any calls.**  A message reaches nobody twice, and it
reaches the registered clients it is for and nobody else: everyone, or those
named by their user, by a role they hold or by the organization they belong to.
The order of the names and their repetition do not matter, and names that nobody
goes under add nobody. -/
theorem Reachable.resolve_exact (h : Reachable P r) (m : ClientMessage) :
    ((r.resolve m.routed.audience).map Client.connection).Nodup ∧
    (∀ c, c ∈ r.resolve m.routed.audience ↔
      r.byUser[c.user]? = some c ∧ (m.broadcast = true ∨ c.user ∈ m.users ∨
        (∃ role ∈ c.roles, role ∈ m.roles) ∨
        (c.organization.text ≠ "" ∧ c.organization ∈ m.organizations))) ∧
    (∀ m' : ClientMessage, m'.broadcast = m.broadcast → (∀ u, u ∈ m'.users ↔ u ∈ m.users) →
      (∀ role, role ∈ m'.roles ↔ role ∈ m.roles) →
      (∀ o, o ∈ m'.organizations ↔ o ∈ m.organizations) →
      r.resolve m'.routed.audience = r.resolve m.routed.audience) ∧
    (∀ (users : List UserId) (roles : List Role) (organizations : List OrganizationId),
      (∀ u ∈ users, u ∉ r.byUser) → (∀ role ∈ roles, role ∉ r.byRole) →
      (∀ o ∈ organizations, o = ⟨""⟩ ∨ o ∉ r.byOrganization) →
      (r.resolve { m with
        users := m.users ++ users
        roles := m.roles ++ roles
        organizations := m.organizations ++ organizations }.routed.audience).Perm
      (r.resolve m.routed.audience)) := by
  have hc := h.consistent
  refine ⟨hc.nodup_resolve _, fun c => ?_, fun m' hb hu hr ho => ?_,
    fun users roles organizations hu hr ho => ?_⟩
  · rw [hc.mem_resolve_iff]
    exact and_congr_right fun _ => includes_audience_iff
  · have he : m'.audience = m.audience := by
      unfold ClientMessage.audience
      rw [hb, NameSet.ofNames_congr hu, NameSet.ofNames_congr hr, NameSet.ofNames_congr ho]
    exact congrArg r.resolve he
  · have hnodup : ∀ m : ClientMessage, (r.resolve m.routed.audience).Nodup :=
      fun m => (hc.nodup_resolve _).of_map _
    refine (List.perm_ext_iff_of_nodup (hnodup _) (hnodup m)).mpr fun c => ?_
    rw [hc.mem_resolve_iff, hc.mem_resolve_iff]
    refine and_congr_right fun hreg => ?_
    refine includes_audience_iff.trans (Iff.trans ?_ includes_audience_iff.symm)
    -- nobody registered goes under one of the names that were added
    have hu' : c.user ∉ users := fun hin =>
      hu _ hin (ExtTreeMap.mem_iff_isSome_getElem?.mpr (by rw [hreg]; rfl))
    have hr' : ∀ role ∈ c.roles, role ∉ roles := fun role hrole hin =>
      hr role hin (hc.roles.mem_iff.mpr ⟨c, hreg, hrole⟩)
    have ho' : c.organization.text ≠ "" → c.organization ∉ organizations := fun hne hin => by
      rcases ho _ hin with he | hnot
      · exact hne (congrArg Name.text he)
      · exact hnot (hc.organizations.mem_iff.mpr
          ⟨c, hreg, Client.organization?_eq_some_iff.mpr ⟨rfl, hne⟩⟩)
    simp only [List.mem_append]
    refine or_congr_right (or_congr (or_iff_left hu') (or_congr ?_ ?_))
    · exact exists_congr fun role => and_congr_right fun hrole => or_iff_left (hr' role hrole)
    · exact and_congr_right fun hne => or_iff_left (ho' hne)

/-- Anna has come again without a role, and a message names her, the role and
her organization: it reaches her once, and over her second connection only. -/
theorem resolve_exact_reconnect :
    let first : Client := ⟨⟨1⟩, .ofParts "anna" "acme" ["admin"]⟩
    let second : Client := ⟨⟨2⟩, .ofParts "anna" "acme" []⟩
    let P := Population.ofIdentities fun id => if id = ⟨1⟩ then first.identity else second.identity
    let r := ((register first ∅).1.register second).1
    let m : ClientMessage := ⟨false, [⟨"anna"⟩, ⟨"anna"⟩], [⟨"admin"⟩], [⟨"acme"⟩, ⟨""⟩], .null⟩
    Reachable P r ∧ ((r.resolve m.routed.audience).map Client.connection).Nodup ∧
      second ∈ r.resolve m.routed.audience ∧ first ∉ r.resolve m.routed.audience := by
  intro first second P r m
  have hr : Reachable P r := .register (.register .empty rfl) rfl
  obtain ⟨hnodup, hiff, -, -⟩ := hr.resolve_exact m
  have hsecond : r.byUser[second.user]? = some second := registered_register.mpr (Or.inr rfl)
  refine ⟨hr, hnodup, (hiff second).mpr ⟨hsecond, Or.inr (Or.inl List.mem_cons_self)⟩, fun hin => ?_⟩
  have hfirst : r.byUser[first.user]? = some first := ((hiff first).mp hin).1
  have he : first = second := Option.some.inj (hfirst.symm.trans hsecond)
  exact absurd (congrArg Client.connection he) (by decide)

end Registry
end Switchboard
