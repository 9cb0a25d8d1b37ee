import Switchboard.Proofs.Registry.Calls
import Switchboard.Proofs.Switch.Acts

/-! # The targets of a message in any order

A registry lists the targets of a message in some order, and a delivery goes through
that list twice: once to send the payload, and once more, through those of them that
missed it, to put them out.  Nothing depends on the order.

Two changes of connections may change places when the connections are different
(`revise_comm`), and the targets of a message are all on different ones; so everybody
is sent the payload over the connection as it was, whoever came before
(`sendAll_perm`).  Two clients that are put out may have been the last members of the
same groups.  But a registry is determined by its entries for users, so it comes out the
same whoever goes first (`Registry.Consistent.unregister_comm`, `evictAll_perm`). -/
namespace Switchboard

namespace Registry

variable {P : Population} {r : Registry} {c d : Client}

/-- Two clients are taken out in either order, whether they share groups, a user, or
nothing. -/
theorem Consistent.unregister_comm (h : r.Consistent P) (hc : c ∈ P) (hd : d ∈ P) :
    ((r.unregister c).1.unregister d).1 = ((r.unregister d).1.unregister c).1 := by
  by_cases hu : c.user = d.user
  · have hmem : ∀ a b : Client, a ∈ P → b ∈ P →
        ∀ k ∈ [Call.unregister a, .unregister b], k.client ∈ P := by
      intro a b ha hb
      simp [Call.client, ha, hb]
    show r.after [.unregister c, .unregister d] = r.after [.unregister d, .unregister c]
    refine h.after_eq (hmem c d hc hd) (hmem d c hd hc) fun u => ?_
    by_cases hdu : d.user = u
    · -- both go by the entry of their user, and each leaves it to the other
      have hcu : c.user = u := hu.trans hdu
      simp [Call.user, Call.client, Call.entry, hcu, hdu, Option.filter_filter, Bool.and_comm]
    · have hcu : c.user ≠ u := fun he => hdu (hu.symm.trans he)
      simp [Call.user, Call.client, hcu, hdu]
  · exact h.call_comm (k := .unregister c) (l := .unregister d) hc hd hu

end Registry

namespace Switch
open Std

variable {P : Population} {s : Switch} {c d : Client} {id other : ConnectionId} {p : Payload}
  {m : RoutedMessage} {targets others : List Client} {record : List (Switch × Act)}

/-! ## Sending -/

/-- Makes something else of a connection. -/
def revise (f : Connection → Connection) (id : ConnectionId) (s : Switch) : Switch :=
  s.setConnection id (f (s.connection id))

/-- Changes of different connections may change places. -/
theorem revise_comm (f g : Connection → Connection) (hne : id ≠ other) :
    (s.revise f id).revise g other = (s.revise g other).revise f id := by
  have hother : (s.revise f id).connection other = s.connection other :=
    (connection_setConnection id other _ s).trans (if_neg hne.symm)
  have hid : (s.revise g other).connection id = s.connection id :=
    (connection_setConnection other id _ s).trans (if_neg hne)
  have hinsert : ∀ v w : Connection, (s.connections.insert id v).insert other w =
      (s.connections.insert other w).insert id v := by
    intro v w
    refine ExtTreeMap.ext_getElem? fun k => ?_
    simp only [ExtTreeMap.getElem?_insert, LawfulEqCmp.compare_eq_iff_eq]
    by_cases hk : other = k
    · rw [if_pos hk, if_neg fun he => hne (he.trans hk.symm), if_pos hk]
    · rw [if_neg hk, if_neg hk]
  show (s.revise f id).setConnection other (g ((s.revise f id).connection other)) =
    (s.revise g other).setConnection id (f ((s.revise g other).connection id))
  rw [hother, hid]
  exact congrArg (fun connections => { s with connections }) (hinsert _ _)

/-- One change of any connections may be made in any order. -/
theorem revise_self_comm (f : Connection → Connection) (id other : ConnectionId) :
    (s.revise f id).revise f other = (s.revise f other).revise f id := by
  by_cases he : id = other
  · rw [he]
  · exact revise_comm f f he

theorem sendAll_eq_foldl : (s.sendAll p targets).1 =
    targets.foldl (fun s c => s.revise (fun c => (c.send p).2) c.connection) s := by
  induction targets generalizing s with
  | nil => rfl
  | cons c targets ih => exact ih

/-- **A payload is sent in any order.** -/
theorem sendAll_perm (hp : targets.Perm others) :
    (s.sendAll p targets).1 = (s.sendAll p others).1 := by
  rw [sendAll_eq_foldl, sendAll_eq_foldl]
  exact hp.foldl_eq' (fun c _ d _ s => revise_self_comm _ c.connection d.connection) s

/-! ## Putting out -/

/-- Two clients are put out in either order. -/
theorem evict_comm (h : s.registry.Consistent P) (hc : c ∈ P) (hd : d ∈ P) :
    (s.evict c).evict d = (s.evict d).evict c := by
  have hregistry : ((s.evict c).evict d).registry = ((s.evict d).evict c).registry :=
    h.unregister_comm hc hd
  have hclosed : ((s.revise Connection.close c.connection).revise .close d.connection).connections =
      ((s.revise Connection.close d.connection).revise .close c.connection).connections := by
    rw [revise_self_comm]
  have hconnections : ((s.evict c).evict d).connections = ((s.evict d).evict c).connections :=
    hclosed
  -- what is counted does not depend on who is put out
  let metrics := (s.metrics.add .hubEvictions 1).add .hubEvictions 1
  exact congrArg₂ (fun registry connections => Switch.mk registry connections metrics)
    hregistry hconnections

/-- **Clients are put out in any order.** -/
theorem evictAll_perm (h : s.registry.Consistent P) (hmem : ∀ c ∈ targets, c ∈ P)
    (hp : targets.Perm others) :
    targets.foldl (fun s c => s.evict c) s = others.foldl (fun s c => s.evict c) s := by
  induction hp generalizing s with
  | nil => rfl
  | cons c hp ih =>
    have hkept : (s.evict c).registry.Consistent P := h.unregister (hmem c List.mem_cons_self)
    exact ih hkept fun d hd => hmem d (List.mem_cons_of_mem c hd)
  | swap c d rest =>
    have hc := hmem c (List.mem_cons_of_mem d List.mem_cons_self)
    have hd := hmem d List.mem_cons_self
    simp only [List.foldl_cons, evict_comm h hd hc]
  | trans hp hp' ih ih' =>
    exact (ih h hmem).trans (ih' h fun c hc => hmem c (hp.mem_iff.mpr hc))

/-! ## Delivering -/

/-- Delivers a message to targets in the order in which they are given. -/
def deliverTo (targets : List Client) (m : RoutedMessage) (s : Switch) : Switch :=
  (s.count (.hubMessagesRouted m.audience.kind) 1).sendOrEvict m.payload targets

theorem deliver_eq_deliverTo : s.deliver m = s.deliverTo (s.registry.resolve m.audience) m := rfl

/-- Sending to targets and putting out those that miss the payload comes to the same in
any order of the targets. -/
theorem sendOrEvict_perm (h : s.registry.Consistent P) (hmem : ∀ c ∈ targets, c ∈ P)
    (hn : (targets.map Client.connection).Nodup) (hp : targets.Perm others) :
    s.sendOrEvict p targets = s.sendOrEvict p others := by
  have hsent : (s.sendAll p targets).1 = (s.sendAll p others).1 := sendAll_perm hp
  have hmissed : (s.sendAll p targets).2.Perm (s.sendAll p others).2 := by
    rw [missed_sendAll hn, missed_sendAll ((hp.map _).nodup_iff.mp hn)]
    exact hp.filter _
  have hout : ∀ c ∈ (s.sendAll p targets).2, c ∈ P := by
    intro c hc
    rw [missed_sendAll hn] at hc
    exact hmem c (List.mem_of_mem_filter hc)
  have hkept : (s.sendAll p targets).1.registry.Consistent P := by
    rwa [registry_sendAll]
  unfold sendOrEvict
  revert hsent hmissed hout hkept
  rcases s.sendAll p targets with ⟨t, missed⟩
  rcases s.sendAll p others with ⟨u, missed'⟩
  rintro rfl hmissed hout hkept
  dsimp only at hmissed hout hkept ⊢
  rw [hp.length_eq, hmissed.length_eq, hmissed.isEmpty_eq]
  split
  · rfl
  · exact congrArg recordClients (evictAll_perm (s := (t.count _ _).count _ _) hkept hout hmissed)

/-- **A delivery does not depend on the order of its targets.**  In every state of the hub,
whatever the message, and in whatever order its targets are gone through, the delivery
ends in one and the same state: the registry with its three indices, every connection with
its queue, its closing and its drops, and all that is counted. -/
theorem deliverTo_eq_deliver (hr : Run (Move P) ∅ record s) (m : RoutedMessage)
    (hp : targets.Perm (s.registry.resolve m.audience)) : s.deliverTo targets m = s.deliver m := by
  have h := (reachable_of_run hr .empty).consistent
  have hmem : ∀ c ∈ targets, c ∈ P := fun c hc =>
    h.population c (h.mem_resolve_iff.mp (hp.mem_iff.mp hc)).1
  have hn : (targets.map Client.connection).Nodup :=
    (hp.map _).nodup_iff.mpr (h.nodup_resolve m.audience)
  rw [deliver_eq_deliverTo]
  exact sendOrEvict_perm (s := s.count (.hubMessagesRouted m.audience.kind) 1) h hmem hn hp

/-- Anna and Bert are the only members of two groups that they share, and have no place
left; Carl has.  A message for everyone goes to the last of them first. -/
theorem deliverTo_eq_deliver_reversed :
    let anna : Client := ⟨⟨1⟩, .ofParts "anna" "acme" ["ops"]⟩
    let bert : Client := ⟨⟨2⟩, .ofParts "bert" "acme" ["ops", "admin"]⟩
    let carl : Client := ⟨⟨3⟩, .ofParts "carl" "" []⟩
    let P := Population.ofIdentities fun id =>
      if id = ⟨1⟩ then anna.identity else if id = ⟨2⟩ then bert.identity else carl.identity
    let opening (id : ConnectionId) (capacity : Nat) : Act := .use id (.connect capacity)
    let coming (c : Client) : Act := .apply (.register c)
    let sending (text : String) : Act := .apply (.broadcast (.ofText text))
    let s₁ := (opening ⟨1⟩ 1).next ∅
    let s₂ := (opening ⟨2⟩ 1).next s₁
    let s₃ := (opening ⟨3⟩ 2).next s₂
    let s₄ := (coming anna).next s₃
    let s₅ := (coming bert).next s₄
    let s₆ := (coming carl).next s₅
    let s := (sending "one").next s₆
    let m : RoutedMessage := ⟨.everyone, .ofText "two"⟩
    let targets := (s.registry.resolve m.audience).reverse
    Run (Move P) ∅ [(∅, opening ⟨1⟩ 1), (s₁, opening ⟨2⟩ 1), (s₂, opening ⟨3⟩ 2),
        (s₃, coming anna), (s₄, coming bert), (s₅, coming carl), (s₆, sending "one")] s ∧
      targets.map Client.connection = [⟨3⟩, ⟨2⟩, ⟨1⟩] ∧
      (s.sendAll m.payload targets).2.map Client.connection = [⟨2⟩, ⟨1⟩] ∧
      s.deliverTo targets m = s.deliver m := by
  intro anna bert carl P opening coming sending s₁ s₂ s₃ s₄ s₅ s₆ s m targets
  have hopen : ∀ {t : Switch} {id : ConnectionId} {n : Nat}, id ∉ t.connections →
      Move P t (opening id n) ((opening id n).next t) := fun h => ⟨h, rfl⟩
  have hcome : ∀ {t : Switch} {c : Client}, c ∈ P →
      Move P t (coming c) ((coming c).next t) := fun h => ⟨h, rfl⟩
  have hfirst : Run (Move P) ∅ [(∅, opening ⟨1⟩ 1)] s₁ :=
    .move .stay (hopen ExtTreeMap.not_mem_empty)
  have hthird : Run (Move P) ∅
      [(∅, opening ⟨1⟩ 1), (s₁, opening ⟨2⟩ 1), (s₂, opening ⟨3⟩ 2)] s₃ :=
    .move (.move hfirst (hopen (by decide +kernel))) (hopen (by decide +kernel))
  have hcame : Run (Move P) ∅ [(∅, opening ⟨1⟩ 1), (s₁, opening ⟨2⟩ 1), (s₂, opening ⟨3⟩ 2),
      (s₃, coming anna), (s₄, coming bert), (s₅, coming carl)] s₆ :=
    .move (.move (.move hthird (hcome rfl)) (hcome rfl)) (hcome rfl)
  have hr := hcame.move (a := sending "one") (u := s) ⟨trivial, rfl⟩
  exact ⟨hr, by decide +kernel, by decide +kernel, deliverTo_eq_deliver hr m (List.reverse_perm _)⟩

end Switch
end Switchboard
