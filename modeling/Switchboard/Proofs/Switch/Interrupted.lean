import Switchboard.Proofs.Switch.Acts

/-! # Deliveries that are interrupted

A delivery sends to one client after the other and then puts out, one after the
other, those that missed the payload.  In the midst of it connections are used:
somebody reads between two sends, or closes a connection that is about to be
closed.  `Interrupted` is a delivery with such uses at any moment.

None of this shows.  A delivery touches a connection at one moment only, but for
closing it later, and closing commutes with all that is done to a connection
that is open.  So the uses fall into some that come before the delivery and some
that come after it, with every connection used in the order in which it was, and
the delivery as a whole leads to the same (`Interrupted.reduces`).  Acts that
apply an event as a whole therefore leave out no order of things. -/
namespace Switchboard
namespace Switch

/-- Uses of connections, one after the other. -/
abbrev Uses := List (ConnectionId × Use)

/-- The uses of one connection. -/
def usesOf (id : ConnectionId) : Uses → List Use
  | [] => []
  | (other, u) :: us => if other = id then u :: usesOf id us else usesOf id us

/-- A connection after several uses of it. -/
def Use.onAll (us : List Use) (c : Connection) : Connection := us.foldl (fun c u => u.on c) c

/-- The switch after several uses of its connections. -/
def useAll (us : Uses) (s : Switch) : Switch := us.foldl (fun s m => m.2.next m.1 s) s

/-- Sends a payload to clients one after the other, while connections are used,
and tells who missed it. -/
inductive Sending (p : Payload) : List Client → Switch → Uses → List Client → Switch → Prop
  | done {s : Switch} : Sending p [] s [] [] s
  | use {targets missed : List Client} {s t : Switch} {id : ConnectionId} {u : Use} {us : Uses} :
    u.Allowed id s → Sending p targets (u.next id s) us missed t →
      Sending p targets s ((id, u) :: us) missed t
  | send {c : Client} {targets missed : List Client} {s t : Switch} {us : Uses} :
    Sending p targets (s.send p c.connection).2 us missed t →
      Sending p (c :: targets) s us
        (if (s.send p c.connection).1 = .queued then missed else c :: missed) t

/-- Puts clients out one after the other, while connections are used. -/
inductive Evicting : List Client → Switch → Uses → Switch → Prop
  | done {s : Switch} : Evicting [] s [] s
  | use {missed : List Client} {s t : Switch} {id : ConnectionId} {u : Use} {us : Uses} :
    u.Allowed id s → Evicting missed (u.next id s) us t → Evicting missed s ((id, u) :: us) t
  | evict {c : Client} {missed : List Client} {s t : Switch} {us : Uses} :
    Evicting missed (s.evict c) us t → Evicting (c :: missed) s us t

/-- Delivers a message, while connections are used. -/
def Interrupted (m : RoutedMessage) (s : Switch) (us : Uses) (t : Switch) : Prop :=
  ∃ us₁ us₂ missed r, us = us₁ ++ us₂ ∧
    Sending m.payload (s.registry.resolve m.audience) s us₁ missed r ∧ Evicting missed r us₂ t

/-- Two switches have the same registry and the same connections. -/
def Alike (s t : Switch) : Prop :=
  s.registry = t.registry ∧ ∀ id, s.connection id = t.connection id

variable {P : Population} {s t : Switch} {c : Client} {id : ConnectionId} {p : Payload}
  {m : RoutedMessage} {us : Uses} {u : Use} {targets missed : List Client}

/-! ## Several uses -/

theorem usesOf_append (us us' : Uses) : usesOf id (us ++ us') = usesOf id us ++ usesOf id us' := by
  induction us with
  | nil => rfl
  | cons m us ih =>
    rw [List.cons_append, usesOf, usesOf, ih]
    split <;> rfl

theorem usesOf_filter_eq (other : ConnectionId) (us : Uses) :
    usesOf id (us.filter fun m => m.1 = other) = if id = other then usesOf id us else [] := by
  induction us with
  | nil => simp [usesOf]
  | cons m us ih =>
    rw [List.filter_cons]
    by_cases hm : m.1 = other
    · rw [if_pos (by simpa using hm), usesOf, usesOf, ih, hm]
      by_cases hid : id = other
      · simp [hid]
      · simp [hid, Ne.symm hid]
    · rw [if_neg (by simpa using hm), ih, usesOf]
      by_cases hid : id = other
      · rw [if_pos hid, if_pos hid, if_neg (hid ▸ hm)]
      · rw [if_neg hid, if_neg hid]

theorem usesOf_filter_ne (other : ConnectionId) (us : Uses) :
    usesOf id (us.filter fun m => m.1 ≠ other) = if id = other then [] else usesOf id us := by
  induction us with
  | nil => simp [usesOf]
  | cons m us ih =>
    rw [List.filter_cons]
    by_cases hm : m.1 = other
    · rw [if_neg (by simpa using hm), ih, usesOf, hm]
      by_cases hid : id = other
      · rw [if_pos hid, if_pos hid]
      · rw [if_neg hid, if_neg hid, if_neg (Ne.symm hid)]
    · rw [if_pos (by simpa using hm), usesOf, usesOf, ih]
      by_cases hid : id = other
      · rw [if_pos hid, if_pos hid, if_neg (hid ▸ hm)]
      · rw [if_neg hid, if_neg hid]

theorem registry_useAll : (s.useAll us).registry = s.registry := by
  induction us generalizing s with
  | nil => rfl
  | cons m us ih => exact ih.trans (registry_use m.2)

theorem connection_useAll :
    (s.useAll us).connection id = Use.onAll (usesOf id us) (s.connection id) := by
  induction us generalizing s with
  | nil => rfl
  | cons m us ih =>
    show ((m.2.next m.1 s).useAll us).connection id = _
    rw [ih, connection_use, usesOf]
    by_cases hid : id = m.1
    · rw [if_pos hid, if_pos hid.symm, hid]
      rfl
    · rw [if_neg hid, if_neg (Ne.symm hid)]

/-- Closing commutes with what is done to a connection once it is open. -/
theorem onAll_close {us : List Use} (hus : ∀ n, Use.connect n ∉ us) (c : Connection) :
    Use.onAll us c.close = (Use.onAll us c).close := by
  induction us generalizing c with
  | nil => rfl
  | cons u us ih =>
    have hrest : ∀ n, Use.connect n ∉ us := fun n hn => hus n (List.mem_cons_of_mem u hn)
    have hu : u.on c.close = (u.on c).close := by
      cases u with
      | connect n => exact absurd List.mem_cons_self (hus n)
      | abandon | close => rfl
      | read =>
        show c.close.receive.2 = c.receive.2.close
        unfold Connection.receive
        cases hq : c.queue with
        | nil => simp [hq]
        | cons p rest =>
          simp [hq]
          rfl
    show Use.onAll us (u.on c.close) = (Use.onAll us (u.on c)).close
    rw [hu, ih hrest]

/-- A connection that is open is not opened by a use that is allowed. -/
theorem not_connect_cons {other : ConnectionId} (ha : u.Allowed other s) (ho : id ∈ s.connections)
    (hus : ∀ n, Use.connect n ∉ usesOf id us) (n : Nat) :
    Use.connect n ∉ usesOf id ((other, u) :: us) := by
  intro hn
  rw [usesOf] at hn
  split at hn
  · next he =>
    rcases List.mem_cons.mp hn with rfl | hn
    · exact ha (he ▸ ho)
    · exact hus n hn
  · exact hus n hn

theorem onAll_append (us us' : List Use) (c : Connection) :
    Use.onAll (us ++ us') c = Use.onAll us' (Use.onAll us c) :=
  List.foldl_append

/-! ## Interrupted sending -/

/-- Who misses a payload depends on the connections of the targets only. -/
theorem missed_sendAll_congr (hn : (targets.map Client.connection).Nodup)
    (h : ∀ d ∈ targets, s.connection d.connection = t.connection d.connection) :
    (s.sendAll p targets).2 = (t.sendAll p targets).2 := by
  rw [missed_sendAll hn, missed_sendAll hn]
  exact List.filter_congr fun d hd => by rw [h d hd]

/-- **Uses in the midst of sending come before or after it.**  A use that comes
before the payload was sent over its connection goes to the front, any other to
the end. -/
theorem Sending.reduces (h : Sending p targets s us missed t)
    (hn : (targets.map Client.connection).Nodup) :
    ∃ before after, (∀ id, usesOf id before ++ usesOf id after = usesOf id us) ∧
      missed = ((s.useAll before).sendAll p targets).2 ∧
      ∀ id, t.connection id = Use.onAll (usesOf id after)
        (((s.useAll before).sendAll p targets).1.connection id) := by
  induction h with
  | done => exact ⟨[], [], fun _ => rfl, rfl, fun _ => rfl⟩
  | @use _ _ _ _ id u us _ _ ih =>
    obtain ⟨before, after, hsplit, hmissed, hcon⟩ := ih hn
    refine ⟨(id, u) :: before, after, fun other => ?_, hmissed, hcon⟩
    rw [usesOf, usesOf, ← hsplit other]
    split <;> rfl
  | @send c targets missed s t us _ ih =>
    obtain ⟨hfresh, hn'⟩ := List.nodup_cons.mp hn
    obtain ⟨before, after, hsplit, hmissed, hcon⟩ := ih hn'
    let early := before.filter fun m => m.1 ≠ c.connection
    let late := before.filter fun m => m.1 = c.connection
    have hc : (s.useAll early).connection c.connection = s.connection c.connection := by
      rw [connection_useAll, usesOf_filter_ne, if_pos rfl]
      rfl
    have hother : ∀ id, id ≠ c.connection → (s.useAll early).connection id =
        ((s.send p c.connection).2.useAll before).connection id := by
      intro id hid
      rw [connection_useAll, connection_useAll, usesOf_filter_ne, if_neg hid, connection_send,
        if_neg hid]
    refine ⟨early, late ++ after, fun id => ?_, ?_, fun id => ?_⟩
    · rw [usesOf_append, usesOf_filter_ne, usesOf_filter_eq, ← hsplit id]
      by_cases hid : id = c.connection
      · rw [if_pos hid, if_pos hid]
        rfl
      · rw [if_neg hid, if_neg hid]
        rfl
    · have hrest : (((s.useAll early).send p c.connection).2.sendAll p targets).2 = missed := by
        rw [hmissed]
        refine missed_sendAll_congr hn' fun d hd => ?_
        have hd' : d.connection ≠ c.connection := fun he => hfresh (List.mem_map.mpr ⟨d, hd, he⟩)
        rw [connection_send, if_neg hd', hother d.connection hd']
      show (if ((s.connection c.connection).send p).1 = .queued then missed else c :: missed) =
        if (((s.useAll early).connection c.connection).send p).1 = .queued
        then (((s.useAll early).send p c.connection).2.sendAll p targets).2
        else c :: (((s.useAll early).send p c.connection).2.sendAll p targets).2
      rw [hrest, hc]
    · rw [hcon, usesOf_append, usesOf_filter_eq, onAll_append, connection_sendAll hn',
        connection_sendAll hn]
      by_cases hid : id = c.connection
      · subst hid
        rw [List.map_cons, if_neg hfresh, if_pos List.mem_cons_self, if_pos rfl, hc,
          connection_useAll, connection_send, if_pos rfl]
      · rw [if_neg hid, ← hother id hid]
        simp only [List.map_cons, List.mem_cons, hid, false_or]
        rfl

theorem Sending.registry_eq (h : Sending p targets s us missed t) : t.registry = s.registry := by
  induction h with
  | done => rfl
  | use _ _ ih => exact ih.trans (registry_use _)
  | send _ ih => exact ih

theorem Sending.grows (h : Sending p targets s us missed t) : Grows s t := by
  induction h with
  | done => exact fun _ hid => hid
  | @use _ _ s _ id u _ _ _ ih => exact (grows_next (s := s) (a := .use id u)).trans ih
  | send _ ih => exact (grows_setConnection _).trans ih

/-- What is open is not opened again. -/
theorem Sending.not_connect (h : Sending p targets s us missed t) (ho : id ∈ s.connections) :
    ∀ n, Use.connect n ∉ usesOf id us := by
  induction h with
  | done => exact fun _ => List.not_mem_nil
  | @use _ _ s _ other u us ha _ ih =>
    exact not_connect_cons ha ho (ih (grows_next (s := s) (a := .use other u) id ho))
  | send _ ih => exact ih (grows_setConnection _ id ho)

/-! ## Interrupted putting out -/

theorem Evicting.registry_eq (h : Evicting missed s us t) :
    t.registry = s.registry.unregisterAll missed := by
  induction h with
  | done => rfl
  | use _ _ ih => rw [ih, registry_use]
  | evict _ ih => exact ih

theorem Evicting.not_connect (h : Evicting missed s us t) (ho : id ∈ s.connections) :
    ∀ n, Use.connect n ∉ usesOf id us := by
  induction h with
  | done => exact fun _ => List.not_mem_nil
  | @use _ s _ other u us ha _ ih =>
    exact not_connect_cons ha ho (ih (grows_next (s := s) (a := .use other u) id ho))
  | evict _ ih => exact ih (grows_evict _ _ id ho)

/-- **Uses in the midst of putting out come after it.** -/
theorem Evicting.connection_eq (h : Evicting missed s us t)
    (ho : ∀ c ∈ missed, c.connection ∈ s.connections) :
    t.connection id =
      if id ∈ missed.map Client.connection then (Use.onAll (usesOf id us) (s.connection id)).close
      else Use.onAll (usesOf id us) (s.connection id) := by
  induction h with
  | done => rfl
  | @use missed s t other u us _ _ ih =>
    have hgrows : Grows s (u.next other s) := grows_next (a := .use other u)
    have hcons : Use.onAll (usesOf id ((other, u) :: us)) (s.connection id) =
        Use.onAll (usesOf id us) ((u.next other s).connection id) := by
      rw [← connection_useAll, ← connection_useAll]
      rfl
    rw [ih fun c hc => hgrows _ (ho c hc), hcons]
  | @evict c missed s t us hrest ih =>
    have hgrows : Grows s (s.evict c) := grows_evict s c
    rw [ih fun d hd => hgrows _ (ho d (List.mem_cons_of_mem c hd)), connection_evict]
    by_cases hid : id = c.connection
    · subst hid
      have hopen : c.connection ∈ (s.evict c).connections := hgrows _ (ho c List.mem_cons_self)
      rw [if_pos rfl, onAll_close (hrest.not_connect hopen), Connection.close_close, List.map_cons,
        if_pos List.mem_cons_self]
      split <;> rfl
    · rw [if_neg hid]
      simp only [List.map_cons, List.mem_cons, hid, false_or]

/-! ## Interrupted deliveries -/

/-- **However a delivery is interrupted, it leads where a delivery as a whole
leads.**  Some of the uses in the midst of it come before and the others after,
and every connection is used in the order in which it was. -/
theorem Interrupted.reduces {record : List (Switch × Act)} (hr : Run (Move P) ∅ record s)
    (hi : Interrupted m s us t) :
    ∃ before after, (∀ id, usesOf id before ++ usesOf id after = usesOf id us) ∧
      Alike t (((s.useAll before).deliver m).useAll after) := by
  obtain ⟨us₁, us₂, missed, r, rfl, hsend, hevict⟩ := hi
  have h := (reachable_of_run hr .empty).consistent
  have hn := h.nodup_resolve m.audience
  obtain ⟨before, after, hsplit, hmissed, hcon⟩ := hsend.reduces hn
  have hreg : (s.useAll before).registry = s.registry := registry_useAll
  have hcons : (s.useAll before).registry.Consistent P := hreg.symm ▸ h
  have hmissed : missed = (s.useAll before).missed m := by
    rw [hmissed, missed_sendAll hn, Switch.missed, hreg]
  have hopened : ∀ c ∈ missed, c.connection ∈ s.connections := by
    intro c hc
    rw [hmissed, mem_missed_iff, hreg] at hc
    exact opened_of_run hr (h.mem_resolve_iff.mp hc.1).1
  refine ⟨before, after ++ us₂, fun id => ?_, ?_, fun id => ?_⟩
  · rw [usesOf_append, usesOf_append, ← List.append_assoc, hsplit]
  · rw [hevict.registry_eq, hsend.registry_eq, registry_useAll, registry_deliver hcons, hreg,
      hmissed]
  · rw [hevict.connection_eq fun c hc => hsend.grows _ (hopened c hc), hcon, connection_useAll,
      connection_deliver_eq_sendAll hcons, hreg, ← hmissed, usesOf_append, onAll_append]
    by_cases hid : id ∈ missed.map Client.connection
    · have hid' : id ∈ s.connections := by
        obtain ⟨c, hc, rfl⟩ := List.mem_map.mp hid
        exact hopened c hc
      have hafter : ∀ n, Use.connect n ∉ usesOf id after := fun n hin =>
        hsend.not_connect hid' n (hsplit id ▸ List.mem_append_right _ hin)
      rw [if_pos hid, if_pos hid, onAll_close hafter,
        onAll_close (hevict.not_connect (hsend.grows _ hid'))]
    · rw [if_neg hid, if_neg hid]

end Switch
end Switchboard
