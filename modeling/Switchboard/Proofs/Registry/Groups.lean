import Switchboard.Proofs.FiniteMap
import Switchboard.Registry

/-! # The members of groups

`Groups.member?` looks a connection up in a group.  Joining and leaving change
that view at one group and one connection only, whether or not the group was
there before (`member?_join`, `member?_leave`), and both keep every group
occupied.  Groups without an empty one among them are determined by the view
(`ext_member?`).

`Groups.Indexes` is what groups are for: they list a set of clients by the
names each of them goes under.  Letting a client out of all its groups indexes
the other clients, letting it into them indexes it too (`Indexes.leaveAll`,
`Indexes.joinAll`). -/
namespace Switchboard.Groups
open Std

variable {kind : NameKind} {groups : Groups kind} {c : Client} {name other : Name kind}
  {id : ConnectionId}

/-- The member of a group whose connection it is. -/
def member? (groups : Groups kind) (name : Name kind) (id : ConnectionId) : Option Client :=
  groups[name]?.bind fun members => members[id]?

/-- No group is empty. -/
def Occupied (groups : Groups kind) : Prop :=
  ∀ (name : Name kind) (members : Members), groups[name]? = some members → members ≠ ∅

theorem occupied_empty : Occupied (∅ : Groups kind) := by
  intro name members h
  simp at h

/-! ## Joining and leaving one group -/

theorem getElem?_join :
    (groups.join c name)[other]? =
      if name = other then some ((groups[name]?.getD ∅).insert c.connection c)
      else groups[other]? := by
  rw [join, ExtTreeMap.getElem?_alter]
  simp only [LawfulEqCmp.compare_eq_iff_eq]

theorem getElem?_leave :
    (groups.leave c name)[other]? =
      if name = other then
        (groups[name]?.map (·.erase c.connection)).filter fun members => !members.isEmpty
      else groups[other]? := by
  rw [leave, ExtTreeMap.getElem?_alter]
  simp only [LawfulEqCmp.compare_eq_iff_eq]
  by_cases h : name = other
  · rw [if_pos h, if_pos h]
    cases groups[name]? with
    | none => rfl
    | some members =>
      cases he : (members.erase c.connection).isEmpty <;> simp [Option.filter_some, he]
  · rw [if_neg h, if_neg h]

theorem member?_join :
    (groups.join c name).member? other id =
      if name = other ∧ c.connection = id then some c else groups.member? other id := by
  unfold member?
  rw [getElem?_join]
  by_cases hn : name = other
  · subst hn
    rw [if_pos rfl, Option.bind_some, ExtTreeMap.getElem?_insert]
    simp only [LawfulEqCmp.compare_eq_iff_eq, true_and]
    cases groups[name]? <;> simp
  · rw [if_neg hn, if_neg (fun h => hn h.1)]

theorem member?_leave :
    (groups.leave c name).member? other id =
      if name = other ∧ c.connection = id then none else groups.member? other id := by
  unfold member?
  rw [getElem?_leave]
  by_cases hn : name = other
  · subst hn
    rw [if_pos rfl]
    cases hg : groups[name]? with
    | none => simp
    | some members =>
      have he : (members.erase c.connection)[id]? =
          if c.connection = id then none else members[id]? := by
        rw [ExtTreeMap.getElem?_erase]
        simp only [LawfulEqCmp.compare_eq_iff_eq]
      -- a group that goes because it is empty has nobody on `id` either
      cases hz : (members.erase c.connection).isEmpty with
      | true =>
        have hnone : (members.erase c.connection)[id]? = none := by
          rw [ExtTreeMap.isEmpty_iff.mp hz]
          simp
        simp only [Option.map_some, Option.filter_some, hz, Option.bind_some, true_and]
        rw [← he, hnone]
        rfl
      | false =>
        simp only [Option.map_some, Option.filter_some, hz, Option.bind_some, true_and]
        exact he
  · rw [if_neg hn, if_neg (fun h => hn h.1)]

theorem Occupied.join (h : groups.Occupied) : (groups.join c name).Occupied := by
  intro other members hm
  rw [getElem?_join] at hm
  split at hm
  · obtain rfl := Option.some.inj hm
    exact ExtTreeMap.insert_ne_empty
  · exact h other members hm

theorem Occupied.leave (h : groups.Occupied) : (groups.leave c name).Occupied := by
  intro other members hm
  rw [getElem?_leave] at hm
  split at hm
  · have hz := (Option.filter_eq_some_iff.mp hm).2
    rintro rfl
    simp at hz
  · exact h other members hm

/-- Groups are there exactly when they have members. -/
theorem Occupied.mem_iff (h : groups.Occupied) :
    name ∈ groups ↔ ∃ id c, groups.member? name id = some c := by
  rw [ExtTreeMap.mem_iff_isSome_getElem?]
  constructor
  · intro hs
    obtain ⟨members, hm⟩ := Option.isSome_iff_exists.mp hs
    have hne := h name members hm
    obtain ⟨id, hid⟩ := not_forall_not.mp fun hall =>
      hne (ExtTreeMap.eq_empty_iff_forall_not_mem.mpr hall)
    obtain ⟨c, hc⟩ := Option.isSome_iff_exists.mp (ExtTreeMap.mem_iff_isSome_getElem?.mp hid)
    exact ⟨id, c, by rw [member?, hm]; exact hc⟩
  · rintro ⟨id, c, hc⟩
    obtain ⟨members, hm, -⟩ := Option.bind_eq_some_iff.mp hc
    rw [hm]
    rfl

/-- **Occupied groups with the same members are the same.** -/
theorem ext_member? {groups' : Groups kind} (h : groups.Occupied) (h' : groups'.Occupied)
    (he : ∀ name id, groups.member? name id = groups'.member? name id) : groups = groups' := by
  apply ExtTreeMap.ext_getElem?
  intro name
  have hiff : name ∈ groups ↔ name ∈ groups' := by
    rw [h.mem_iff, h'.mem_iff]
    simp only [he]
  cases hm : groups[name]? with
  | none =>
    have hn : name ∉ groups' := fun hi => by
      have hs := ExtTreeMap.mem_iff_isSome_getElem?.mp (hiff.mpr hi)
      rw [hm] at hs
      cases hs
    exact (ExtTreeMap.getElem?_eq_none hn).symm
  | some members =>
    have hi : name ∈ groups' :=
      hiff.mp (ExtTreeMap.mem_iff_isSome_getElem?.mpr (by rw [hm]; rfl))
    obtain ⟨members', hm'⟩ := Option.isSome_iff_exists.mp (ExtTreeMap.mem_iff_isSome_getElem?.mp hi)
    rw [hm']
    refine congrArg some (ExtTreeMap.ext_getElem? fun id => ?_)
    have hid := he name id
    rwa [member?, member?, hm, hm'] at hid

/-! ## Joining and leaving several groups -/

/-- Updates that each settle the member of one group on one connection settle
it together in all those groups. -/
theorem member?_foldl {f : Groups kind → Name kind → Groups kind} {v : Option Client}
    (hf : ∀ groups first other id', (f groups first).member? other id' =
      if first = other ∧ c.connection = id' then v else groups.member? other id')
    (names : List (Name kind)) :
    (names.foldl f groups).member? name id =
      if name ∈ names ∧ c.connection = id then v else groups.member? name id := by
  induction names generalizing groups with
  | nil => simp
  | cons first names ih =>
    rw [List.foldl_cons, ih, hf]
    by_cases hi : c.connection = id
    · by_cases hn : first = name
      · subst first
        simp [hi]
      · simp [hi, hn, List.mem_cons, Ne.symm hn]
    · simp [hi]

theorem Occupied.foldl {f : Groups kind → Name kind → Groups kind}
    (hf : ∀ groups first, groups.Occupied → (f groups first).Occupied)
    (names : List (Name kind)) (h : groups.Occupied) : (names.foldl f groups).Occupied := by
  induction names generalizing groups with
  | nil => exact h
  | cons first names ih => exact ih (hf _ first h)

/-! ## What groups index -/

/-- The groups index the clients of a set by the names that each goes under:
every one of them is a member of just its groups, on its own connection, nobody
else is, and no group is empty. -/
structure Indexes (groups : Groups kind) (clients : Client → Prop)
    (under : Client → Name kind → Prop) : Prop where
  occupied : groups.Occupied
  member?_iff : ∀ name id c,
    groups.member? name id = some c ↔ clients c ∧ under c name ∧ c.connection = id

variable {clients : Client → Prop} {under : Client → Name kind → Prop}

theorem indexes_empty : Indexes (∅ : Groups kind) (fun _ => False) under where
  occupied := occupied_empty
  member?_iff name id c := by simp [member?]

theorem Indexes.congr {clients' : Client → Prop} (h : groups.Indexes clients under)
    (he : ∀ c, clients c ↔ clients' c) : groups.Indexes clients' under where
  occupied := h.occupied
  member?_iff name id c := by rw [h.member?_iff, he]

/-- There is a group of a name exactly if some client goes under it. -/
theorem Indexes.mem_iff (h : groups.Indexes clients under) :
    name ∈ groups ↔ ∃ c, clients c ∧ under c name := by
  rw [h.occupied.mem_iff]
  constructor
  · rintro ⟨id, c, hc⟩
    obtain ⟨hm, hu, -⟩ := (h.member?_iff name id c).mp hc
    exact ⟨c, hm, hu⟩
  · rintro ⟨c, hm, hu⟩
    exact ⟨c.connection, c, (h.member?_iff name _ c).mpr ⟨hm, hu, rfl⟩⟩

theorem Indexes.getElem?_iff (h : groups.Indexes clients under) {members : Members}
    (hm : groups[name]? = some members) :
    members[id]? = some c ↔ clients c ∧ under c name ∧ c.connection = id := by
  rw [← h.member?_iff, member?, hm, Option.bind_some]

/-- Who is listed as a member of a group. -/
theorem Indexes.mem_membersOf_iff (h : groups.Indexes clients under) :
    c ∈ groups.membersOf name ↔ clients c ∧ under c name := by
  unfold membersOf
  cases hm : groups[name]? with
  | none =>
    have hn : ¬ ∃ c, clients c ∧ under c name := fun hc => by
      have hs := ExtTreeMap.mem_iff_isSome_getElem?.mp (h.mem_iff.mpr hc)
      rw [hm] at hs
      cases hs
    exact ⟨fun hc => absurd hc List.not_mem_nil, fun hc => absurd ⟨c, hc⟩ hn⟩
  | some members =>
    rw [FiniteMap.mem_values_iff]
    simp only [h.getElem?_iff hm]
    constructor
    · rintro ⟨_, hc, hu, -⟩
      exact ⟨hc, hu⟩
    · rintro ⟨hc, hu⟩
      exact ⟨c.connection, hc, hu, rfl⟩

/-- **Letting a client out.**  The groups that it is let out of may be more than
those that it is in, but nobody else may be on its connection. -/
theorem Indexes.leaveAll {names : List (Name kind)} (h : groups.Indexes clients under)
    (hall : ∀ name, under c name → name ∈ names)
    (hd : ∀ d, clients d → d.connection = c.connection → d = c) :
    (names.foldl (fun groups name => groups.leave c name) groups).Indexes
      (fun d => clients d ∧ d ≠ c) under where
  occupied := h.occupied.foldl (fun _ _ => Occupied.leave) names
  member?_iff name id d := by
    rw [member?_foldl fun _ _ _ _ => member?_leave]
    split
    · next hn =>
      refine ⟨(by simp), ?_⟩
      rintro ⟨⟨hc, hne⟩, -, hid⟩
      exact absurd (hd d hc (hid.trans hn.2.symm)) hne
    · next hn =>
      rw [h.member?_iff]
      constructor
      · rintro ⟨hc, hu, hid⟩
        refine ⟨⟨hc, ?_⟩, hu, hid⟩
        rintro rfl
        exact hn ⟨hall name hu, hid⟩
      · rintro ⟨⟨hc, -⟩, hu, hid⟩
        exact ⟨hc, hu, hid⟩

/-- **Letting a client in**, when nobody else is on its connection. -/
theorem Indexes.joinAll {names : List (Name kind)} (h : groups.Indexes clients under)
    (hall : ∀ name, under c name ↔ name ∈ names)
    (hd : ∀ d, clients d → d.connection = c.connection → d = c) :
    (names.foldl (fun groups name => groups.join c name) groups).Indexes
      (fun d => clients d ∨ d = c) under where
  occupied := h.occupied.foldl (fun _ _ => Occupied.join) names
  member?_iff name id d := by
    rw [member?_foldl fun _ _ _ _ => member?_join]
    split
    · next hn =>
      constructor
      · intro hx
        obtain rfl := Option.some.inj hx
        exact ⟨Or.inr rfl, (hall name).mpr hn.1, hn.2⟩
      · rintro ⟨hc, -, hid⟩
        have he : d = c := hc.elim (fun hc => hd d hc (hid.trans hn.2.symm)) fun he => he
        rw [he]
    · next hn =>
      rw [h.member?_iff]
      constructor
      · rintro ⟨hc, hu, hid⟩
        exact ⟨Or.inl hc, hu, hid⟩
      · rintro ⟨hc | rfl, hu, hid⟩
        · exact ⟨hc, hu, hid⟩
        · exact absurd ⟨(hall name).mp hu, hid⟩ hn

/-- Groups that index the same clients are the same. -/
theorem Indexes.unique {groups' : Groups kind} (h : groups.Indexes clients under)
    (h' : groups'.Indexes clients under) : groups = groups' := by
  refine ext_member? h.occupied h'.occupied fun name id => Option.ext fun c => ?_
  rw [h.member?_iff, h'.member?_iff]

end Switchboard.Groups
