import Switchboard.Proofs.Registry.Indices

/-! # Calls about different users

A call registers a client or takes one out.  In the first index it changes the entry
of the client's user and no other, and both what it leaves there and what it answers
are read off what was there before (`getElem?_byUser_call`, `answer_call`).  So after
several calls the entry of a user is what the calls about that user made of it, one
after the other (`getElem?_byUser_after`).

The other two indices are where calls about different users meet: one may remove a
group that the next one makes again.  But a consistent registry is determined by its
first index, so registries after different calls are the same as soon as every user
has the same entry in them (`Consistent.after_eq`).  Laws of calls are laws of one
entry. -/
namespace Switchboard.Registry
open Std

/-- What is asked of a registry that changes it. -/
inductive Call
  | register (c : Client)
  | unregister (c : Client)

/-- What a call is answered. -/
inductive Answer
  /-- The client that was superseded, if one was. -/
  | superseded (previous : Option Client)
  /-- Whether the client was there. -/
  | found (there : Bool)

namespace Call

/-- Whom a call is about. -/
def client : Call → Client
  | register c | unregister c => c

/-- The user whom a call is about. -/
def user (k : Call) : UserId := k.client.user

/-- The registry after a call, with the answer. -/
def on : Call → Registry → Registry × Answer
  | register c, r => ((r.register c).1, .superseded (r.register c).2)
  | unregister c, r => ((r.unregister c).1, .found (r.unregister c).2)

/-- What a call makes of the entry of its user. -/
def entry : Call → Option Client → Option Client
  | register c, _ => some c
  | unregister c, before => before.filter fun d => d.connection != c.connection

/-- What a call is answered when the entry of its user is known. -/
def answer : Call → Option Client → Answer
  | register c, before => .superseded (before.filter fun d => d.connection != c.connection)
  | unregister c, before => .found (before.any fun d => d.connection == c.connection)

end Call

/-- A registry after calls, one after the other. -/
def after (ks : List Call) (r : Registry) : Registry :=
  ks.foldl (fun r k => (k.on r).1) r

variable {P : Population} {r : Registry} {c d : Client} {k l : Call} {ks ls : List Call}
  {u : UserId}

/-! ## One call -/

theorem isRegistered_eq_any :
    r.isRegistered c = r.byUser[c.user]?.any fun d => d.connection == c.connection := by
  unfold isRegistered
  cases r.byUser[c.user]? <;> rfl

theorem getElem?_byUser_register :
    (r.register c).1.byUser[u]? = if c.user = u then some c else r.byUser[u]? := by
  rw [byUser_register, ExtTreeMap.getElem?_insert]
  simp only [LawfulEqCmp.compare_eq_iff_eq]

/-- Taking out a client leaves the entry of its user if it is on another connection. -/
theorem getElem?_byUser_unregister :
    (r.unregister c).1.byUser[u]? =
      if c.user = u then r.byUser[u]?.filter fun d => d.connection != c.connection
      else r.byUser[u]? := by
  by_cases hreg : r.isRegistered c
  · rw [unregister_of_isRegistered hreg]
    show (r.byUser.erase c.user)[u]? = _
    rw [ExtTreeMap.getElem?_erase]
    simp only [LawfulEqCmp.compare_eq_iff_eq]
    split
    · next hu =>
      subst hu
      obtain ⟨d, hd, he⟩ := isRegistered_iff.mp hreg
      simp [hd, Option.filter_some, he]
    · rfl
  · rw [unregister_of_not_isRegistered hreg]
    split
    · next hu =>
      subst hu
      cases hd : r.byUser[c.user]? with
      | none => rfl
      | some d =>
        have hne : d.connection ≠ c.connection := fun he => hreg (isRegistered_iff.mpr ⟨d, hd, he⟩)
        simp [Option.filter_some, hne]
    · rfl

/-- **A call changes the entry of its user**, and no other. -/
theorem getElem?_byUser_call :
    (k.on r).1.byUser[u]? = if k.user = u then k.entry r.byUser[u]? else r.byUser[u]? := by
  cases k with
  | register c => exact getElem?_byUser_register
  | unregister c => exact getElem?_byUser_unregister

/-- **A call is answered by the entry of its user.** -/
theorem answer_call : (k.on r).2 = k.answer r.byUser[k.user]? := by
  cases k with
  | register c => exact congrArg Answer.superseded previous_register
  | unregister c =>
    show Answer.found (r.unregister c).2 = .found (r.byUser[c.user]?.any _)
    rw [← isRegistered_eq_any]
    by_cases hreg : r.isRegistered c
    · rw [unregister_of_isRegistered hreg, hreg]
    · rw [unregister_of_not_isRegistered hreg, Bool.eq_false_iff.mpr hreg]

/-- A call is answered the same before and after a call about another user. -/
theorem answer_call_call (hu : k.user ≠ l.user) : (k.on (l.on r).1).2 = (k.on r).2 := by
  rw [answer_call, answer_call, getElem?_byUser_call, if_neg (Ne.symm hu)]

theorem Consistent.call (h : r.Consistent P) (hk : k.client ∈ P) : (k.on r).1.Consistent P := by
  cases k with
  | register c => exact h.register hk
  | unregister c => exact h.unregister hk

/-! ## Several calls -/

theorem Consistent.after (h : r.Consistent P) (hks : ∀ k ∈ ks, k.client ∈ P) :
    (r.after ks).Consistent P := by
  induction ks generalizing r with
  | nil => exact h
  | cons k ks ih =>
    exact ih (h.call (hks k List.mem_cons_self)) fun l hl => hks l (List.mem_cons_of_mem k hl)

/-- **The entry of a user after calls** is what the calls about the user made of it. -/
theorem getElem?_byUser_after :
    (r.after ks).byUser[u]? =
      (ks.filter fun k => k.user = u).foldl (fun before k => k.entry before) r.byUser[u]? := by
  induction ks generalizing r with
  | nil => rfl
  | cons k ks ih =>
    show ((k.on r).1.after ks).byUser[u]? = _
    rw [ih, getElem?_byUser_call]
    by_cases hu : k.user = u
    · rw [if_pos hu, List.filter_cons_of_pos (by simpa using hu), List.foldl_cons]
    · rw [if_neg hu, List.filter_cons_of_neg (by simpa using hu)]

/-- **Laws of calls are laws of one entry**: calls lead from a consistent registry to
the same registry if they leave every user the same entry. -/
theorem Consistent.after_eq (h : r.Consistent P) (hks : ∀ k ∈ ks, k.client ∈ P)
    (hls : ∀ l ∈ ls, l.client ∈ P)
    (he : ∀ u, (ks.filter fun k => k.user = u).foldl (fun before k => k.entry before) r.byUser[u]? =
      (ls.filter fun l => l.user = u).foldl (fun before l => l.entry before) r.byUser[u]?) :
    r.after ks = r.after ls := by
  refine (h.after hks).unique (h.after hls) (ExtTreeMap.ext_getElem? fun u => ?_)
  rw [getElem?_byUser_after, getElem?_byUser_after, he]

/-- Two calls about different users may change places. -/
theorem Consistent.call_comm (h : r.Consistent P) (hk : k.client ∈ P) (hl : l.client ∈ P)
    (hu : k.user ≠ l.user) : (l.on (k.on r).1).1 = (k.on (l.on r).1).1 := by
  show r.after [k, l] = r.after [l, k]
  refine h.after_eq (by simp [hk, hl]) (by simp [hk, hl]) fun u => ?_
  by_cases hku : k.user = u
  · have hlu : l.user ≠ u := fun he => hu (hku.trans he.symm)
    simp [hku, hlu]
  · simp [List.filter_cons, hku]

/-- The last client to be registered for a user stays, whoever came before it. -/
theorem Consistent.register_register (h : r.Consistent P) (hc : c ∈ P) (hd : d ∈ P)
    (hu : c.user = d.user) : ((r.register c).1.register d).1 = (r.register d).1 := by
  have hmem : ∀ k ∈ [Call.register c, .register d], k.client ∈ P := by
    simp [Call.client, hc, hd]
  show r.after [.register c, .register d] = r.after [.register d]
  refine h.after_eq hmem (by simp [Call.client, hd]) fun u => ?_
  by_cases hdu : d.user = u
  · have hcu : c.user = u := hu.trans hdu
    simp [Call.user, Call.client, Call.entry, hcu, hdu]
  · have hcu : c.user ≠ u := fun he => hdu (hu.symm.trans he)
    simp [Call.user, Call.client, hcu, hdu]

/-- A client that is registered already may be registered again. -/
theorem Consistent.register_of_registered (h : r.Consistent P) (hc : r.Registered c) :
    r.register c = (r, none) := by
  have hmem : ∀ k ∈ [Call.register c], k.client ∈ P := by
    simpa [Call.client] using h.population c hc
  have hsame : r.after [.register c] = r.after [] := by
    refine h.after_eq hmem (by simp) fun u => ?_
    by_cases hu : c.user = u
    · subst hu
      simpa [Call.user, Call.client, Call.entry] using hc.symm
    · simp [Call.user, Call.client, hu]
  refine Prod.ext hsame ?_
  rw [previous_register, hc]
  simp

/-- Taking a client out again undoes its registration, if its user had no client. -/
theorem Consistent.unregister_register (h : r.Consistent P) (hc : c ∈ P)
    (hnew : r.byUser[c.user]? = none) : (r.register c).1.unregister c = (r, true) := by
  have hmem : ∀ k ∈ [Call.register c, .unregister c], k.client ∈ P := by
    simp [Call.client, hc]
  have hsame : r.after [.register c, .unregister c] = r.after [] := by
    refine h.after_eq hmem (by simp) fun u => ?_
    by_cases hu : c.user = u
    · subst hu
      simp [Call.user, Call.client, Call.entry, hnew]
    · simp [Call.user, Call.client, hu]
  have hreg : (r.register c).1.isRegistered c := by
    refine Registry.isRegistered_iff.mpr ⟨c, ?_, rfl⟩
    rw [byUser_register, ExtTreeMap.getElem?_insert_self]
  refine Prod.ext hsame ?_
  rw [unregister_of_isRegistered hreg]

/-- **Calls about different users commute, and the last registration of a user wins.**
In every registry that calls lead to, two calls about different users may be made in
either order: the registry is the same, and each of them is answered the same.  Of
two clients of one user that are registered one after the other, the registry shows
the second alone; and a client whose user had none is registered and taken out without
a trace. -/
theorem Reachable.calls_commute (h : Reachable P r) :
    (∀ k l : Call, k.client ∈ P → l.client ∈ P → k.client.user ≠ l.client.user →
      (l.on (k.on r).1).1 = (k.on (l.on r).1).1 ∧
        (k.on r).2 = (k.on (l.on r).1).2 ∧ (l.on (k.on r).1).2 = (l.on r).2) ∧
    (∀ c d : Client, c ∈ P → d ∈ P → c.user = d.user →
      ((r.register c).1.register d).1 = (r.register d).1) ∧
    ∀ c : Client, c ∈ P → r.byUser[c.user]? = none →
      (r.register c).1.unregister c = (r, true) := by
  have hc := h.consistent
  refine ⟨fun k l hk hl hu => ⟨hc.call_comm hk hl hu, ?_, ?_⟩,
    fun c d hcP hdP hu => hc.register_register hcP hdP hu,
    fun c hcP hnew => hc.unregister_register hcP hnew⟩
  · exact (answer_call_call hu).symm
  · exact answer_call_call (Ne.symm hu)

/-- Anna is the only one to hold a role.  She is taken out, which removes the group of
the role, and Bert comes, which makes it again; and Anna comes over another
connection. -/
theorem calls_commute_sole_member :
    let anna : Client := ⟨⟨1⟩, .ofParts "anna" "acme" ["ops"]⟩
    let again : Client := ⟨⟨2⟩, .ofParts "anna" "" ["ops", "admin"]⟩
    let bert : Client := ⟨⟨3⟩, .ofParts "bert" "acme" ["ops"]⟩
    let P := Population.ofIdentities fun id =>
      if id = ⟨1⟩ then anna.identity else if id = ⟨2⟩ then again.identity else bert.identity
    let r := (register anna ∅).1
    Reachable P r ∧ ⟨"ops"⟩ ∉ (r.unregister anna).1.byRole ∧
      ((r.unregister anna).1.register bert).1 = ((r.register bert).1.unregister anna).1 ∧
      (r.unregister anna).2 = ((r.register bert).1.unregister anna).2 ∧
      ((r.register anna).1.register again).1 = (r.register again).1 ∧
      (r.register bert).1.unregister bert = (r, true) := by
  intro anna again bert P r
  have hr : Reachable P r := .register .empty rfl
  obtain ⟨hcomm, hlast, hback⟩ := hr.calls_commute
  have hother : anna.user ≠ bert.user := by decide +kernel
  obtain ⟨hsame, hanswer, -⟩ := hcomm (.unregister anna) (.register bert) rfl rfl hother
  have hgone : ⟨"ops"⟩ ∉ (r.unregister anna).1.byRole := by decide +kernel
  have hnew : r.byUser[bert.user]? = none := by
    rw [← Option.not_isSome_iff_eq_none]
    decide +kernel
  exact ⟨hr, hgone, hsame, congrArg (fun | .found there => there | _ => false) hanswer,
    hlast anna again rfl rfl rfl, hback bert rfl hnew⟩

end Switchboard.Registry
