import Switchboard.Proofs.Registry.Routing
import Switchboard.Switch

/-! # What the operations of a switch change

For every operation of a switch this module says what becomes of each
connection and of who is registered.  Registering and taking out touch the
connection of nobody but a client that is superseded.  Delivering sends the
payload to every target once and closes the connections that did not take it
(`connection_deliver`); exactly their clients are registered no more
(`registered_deliver`).  Shutting down closes the connection of everybody who is
registered (`connection_shutDown`). -/
namespace Switchboard

namespace Connection

variable {c : Connection} {p : Payload}

/-- What a delivery makes of a connection: the payload is sent, and if the
connection does not take it, the connection is closed. -/
def deliver (p : Payload) (c : Connection) : Connection :=
  if c.accepts then (c.send p).2 else (c.send p).2.close

theorem deliver_of_accepts (h : c.accepts) : c.deliver p = { c with queue := c.queue ++ [p] } := by
  rw [deliver, if_pos h, send, if_pos h]

theorem deliver_of_not_accepts (h : ¬ c.accepts) :
    c.deliver p = { c with drops := c.drops + 1, closed := true } := by
  rw [deliver, if_neg h, send, if_neg h]
  rfl

@[simp] theorem close_close : c.close.close = c.close := rfl

end Connection

namespace Registry

variable {P : Population} {r : Registry} {c d : Client}

/-- Takes clients out, one after the other. -/
def unregisterAll (cs : List Client) (r : Registry) : Registry :=
  cs.foldl (fun r c => (r.unregister c).1) r

theorem Reachable.unregisterAll {cs : List Client} (h : Reachable P r) (hcs : ∀ c ∈ cs, c ∈ P) :
    Reachable P (r.unregisterAll cs) := by
  induction cs generalizing r with
  | nil => exact h
  | cons c cs ih =>
    exact ih (h.unregister (hcs c List.mem_cons_self)) fun d hd => hcs d (List.mem_cons_of_mem c hd)

theorem Reachable.registered_unregisterAll {cs : List Client} (h : Reachable P r)
    (hcs : ∀ c ∈ cs, c ∈ P) : (r.unregisterAll cs).Registered d ↔ r.Registered d ∧ d ∉ cs := by
  induction cs generalizing r with
  | nil => exact ⟨fun hd => ⟨hd, List.not_mem_nil⟩, fun hd => hd.1⟩
  | cons c cs ih =>
    have hc := hcs c List.mem_cons_self
    show ((r.unregister c).1.unregisterAll cs).Registered d ↔ _
    rw [ih (h.unregister hc) fun d hd => hcs d (List.mem_cons_of_mem c hd),
      h.consistent.registered_unregister hc, List.mem_cons, not_or, and_assoc]

theorem not_registered_empty : ¬ (∅ : Registry).Registered c := by
  show (∅ : Std.ExtTreeMap UserId Client)[c.user]? ≠ some c
  simp

end Registry

namespace Switch

variable {P : Population} {s : Switch} {c d : Client} {id : ConnectionId} {p : Payload}
  {m : RoutedMessage}

/-! ## Closing connections -/

theorem connection_close (other : ConnectionId) :
    (s.close id).connection other =
      if other = id then (s.connection other).close else s.connection other := by
  rw [close, connection_setConnection]
  by_cases h : other = id
  · rw [if_pos h, if_pos h, h]
  · rw [if_neg h, if_neg h]

/-- Steps that each close the connection of one client close the connections of
all of them. -/
theorem connection_foldl_close {f : Switch → Client → Switch}
    (hf : ∀ s c id, (f s c).connection id =
      if id = c.connection then (s.connection id).close else s.connection id) (cs : List Client) :
    (cs.foldl f s).connection id =
      if id ∈ cs.map Client.connection then (s.connection id).close else s.connection id := by
  induction cs generalizing s with
  | nil => simp
  | cons c cs ih =>
    rw [List.foldl_cons, ih, hf, List.map_cons]
    by_cases hc : id = c.connection
    · simp [hc]
    · simp [hc]

/-! ## Registering and taking out -/

theorem register_of_closed (h : (s.connection c.connection).closed) : s.register c = s :=
  if_pos h

theorem registry_register (h : ¬ (s.connection c.connection).closed) :
    (s.register c).registry = (s.registry.register c).1 := by
  rw [register, if_neg h]
  rcases s.registry.register c with ⟨registry, previous⟩
  cases previous <;> rfl

/-- Registering closes the connection that is superseded, and no other. -/
theorem connection_register (h : ¬ (s.connection c.connection).closed) :
    (s.register c).connection id =
      if (s.registry.register c).2.map Client.connection = some id then (s.connection id).close
      else s.connection id := by
  rw [register, if_neg h]
  rcases s.registry.register c with ⟨registry, previous⟩
  cases previous with
  | none =>
    rw [Option.map_none, if_neg (by simp)]
    rfl
  | some p =>
    show (close p.connection { s with registry := registry }).connection id = _
    rw [connection_close]
    simp only [Option.map_some, Option.some.injEq, eq_comm (a := id)]
    rfl

theorem registry_unregister : (s.unregister c).registry = (s.registry.unregister c).1 := by
  unfold unregister
  by_cases h : s.registry.isRegistered c
  · rw [Registry.unregister_of_isRegistered h]
    rfl
  · rw [Registry.unregister_of_not_isRegistered h]

@[simp] theorem connection_unregister : (s.unregister c).connection id = s.connection id := by
  unfold unregister
  split <;> rfl

/-! ## Delivering -/

theorem connection_send (other : ConnectionId) :
    (s.send p id).2.connection other =
      if other = id then ((s.connection other).send p).2 else s.connection other := by
  show (s.setConnection id ((s.connection id).send p).2).connection other = _
  rw [connection_setConnection]
  by_cases h : other = id
  · rw [if_pos h, if_pos h, h]
  · rw [if_neg h, if_neg h]

theorem registry_sendAll (s : Switch) (p : Payload) (targets : List Client) :
    (s.sendAll p targets).1.registry = s.registry := by
  induction targets generalizing s with
  | nil => rfl
  | cons c targets ih => exact ih _

/-- Every target is sent the payload, and nobody else. -/
theorem connection_sendAll {targets : List Client}
    (hn : (targets.map Client.connection).Nodup) :
    (s.sendAll p targets).1.connection id =
      if id ∈ targets.map Client.connection then ((s.connection id).send p).2
      else s.connection id := by
  induction targets generalizing s with
  | nil => rfl
  | cons c targets ih =>
    rw [List.map_cons, List.nodup_cons] at hn
    show ((s.send p c.connection).2.sendAll p targets).1.connection id = _
    rw [ih hn.2, connection_send, List.map_cons]
    by_cases hc : id = c.connection
    · rw [if_neg (hc ▸ hn.1), if_pos hc, if_pos (hc ▸ List.mem_cons_self)]
    · rw [if_neg hc]
      simp only [List.mem_cons, hc, false_or]

/-- Those are missed whose connections do not take the payload. -/
theorem missed_sendAll {targets : List Client} (hn : (targets.map Client.connection).Nodup) :
    (s.sendAll p targets).2 =
      targets.filter fun c => !(s.connection c.connection).accepts := by
  induction targets generalizing s with
  | nil => rfl
  | cons c targets ih =>
    rw [List.map_cons, List.nodup_cons] at hn
    have hrest : ((s.send p c.connection).2.sendAll p targets).2 =
        targets.filter fun c => !(s.connection c.connection).accepts := by
      rw [ih hn.2]
      refine List.filter_congr fun d hd => ?_
      rw [connection_send, if_neg fun he => hn.1 (List.mem_map.mpr ⟨d, hd, he⟩)]
    show (if ((s.connection c.connection).send p).1 = .queued then
        ((s.send p c.connection).2.sendAll p targets).2
      else c :: ((s.send p c.connection).2.sendAll p targets).2) = _
    rw [hrest]
    by_cases ha : (s.connection c.connection).accepts
    · rw [if_pos (Connection.send_eq_queued_iff.mpr ha), List.filter_cons_of_neg (by simp [ha])]
    · rw [if_neg fun hq => ha (Connection.send_eq_queued_iff.mp hq),
        List.filter_cons_of_pos (by simp [ha])]

theorem connection_evict (s : Switch) (c : Client) (id : ConnectionId) :
    (s.evict c).connection id =
      if id = c.connection then (s.connection id).close else s.connection id := by
  show (close c.connection { s with registry := (s.registry.unregister c).1 }).connection id = _
  rw [connection_close]
  rfl

theorem registry_evictAll (s : Switch) (cs : List Client) :
    (cs.foldl (fun s c => s.evict c) s).registry = s.registry.unregisterAll cs := by
  induction cs generalizing s with
  | nil => rfl
  | cons c cs ih => exact ih _

/-- After the payload was sent, the connections of those that it missed are
closed. -/
theorem connection_sendOrEvict {targets : List Client} :
    (s.sendOrEvict p targets).connection id =
      if id ∈ (s.sendAll p targets).2.map Client.connection
      then ((s.sendAll p targets).1.connection id).close
      else (s.sendAll p targets).1.connection id := by
  unfold sendOrEvict
  rcases s.sendAll p targets with ⟨t, missed⟩
  cases missed with
  | nil => rfl
  | cons c missed => exact connection_foldl_close connection_evict (c :: missed)

/-- After the payload was sent, those that it missed are taken out. -/
theorem registry_sendOrEvict {targets : List Client} :
    (s.sendOrEvict p targets).registry =
      s.registry.unregisterAll (s.sendAll p targets).2 := by
  rw [← registry_sendAll s p targets, sendOrEvict]
  rcases s.sendAll p targets with ⟨t, missed⟩
  cases missed with
  | nil => rfl
  | cons c missed => exact registry_evictAll _ (c :: missed)

/-- Who of the targets of a message does not take it. -/
def missed (m : RoutedMessage) (s : Switch) : List Client :=
  (s.registry.resolve m.audience).filter fun c => !(s.connection c.connection).accepts

theorem mem_missed_iff : c ∈ s.missed m ↔
    c ∈ s.registry.resolve m.audience ∧ ¬ (s.connection c.connection).accepts := by
  rw [missed, List.mem_filter]
  simp

/-- The payload is sent to the targets, and the connections of those that it
missed are closed. -/
theorem connection_deliver_eq_sendAll (h : s.registry.Consistent P) :
    (s.deliver m).connection id =
      if id ∈ (s.missed m).map Client.connection
      then ((s.sendAll m.payload (s.registry.resolve m.audience)).1.connection id).close
      else (s.sendAll m.payload (s.registry.resolve m.audience)).1.connection id := by
  have hn := h.nodup_resolve m.audience
  show ((s.count _ 1).sendOrEvict m.payload (s.registry.resolve m.audience)).connection id = _
  rw [connection_sendOrEvict, missed_sendAll hn, connection_sendAll hn, connection_sendAll hn]
  rfl

/-- **Every target's connection takes the payload or is closed**, and no other
connection changes. -/
theorem connection_deliver (h : s.registry.Consistent P) :
    (s.deliver m).connection id =
      if id ∈ (s.registry.resolve m.audience).map Client.connection
      then (s.connection id).deliver m.payload else s.connection id := by
  rw [connection_deliver_eq_sendAll h, connection_sendAll (h.nodup_resolve m.audience)]
  by_cases hid : id ∈ (s.registry.resolve m.audience).map Client.connection
  · have hmissed : id ∈ (s.missed m).map Client.connection ↔ ¬ (s.connection id).accepts := by
      rw [List.mem_map]
      constructor
      · rintro ⟨c, hc, rfl⟩
        exact (mem_missed_iff.mp hc).2
      · intro ha
        obtain ⟨c, hc, rfl⟩ := List.mem_map.mp hid
        exact ⟨c, mem_missed_iff.mpr ⟨hc, ha⟩, rfl⟩
    rw [if_pos hid, if_pos hid, Connection.deliver]
    by_cases ha : (s.connection id).accepts
    · rw [if_neg fun hx => hmissed.mp hx ha, if_pos ha]
    · rw [if_pos (hmissed.mpr ha), if_neg ha]
  · rw [if_neg hid, if_neg hid, if_neg]
    intro hx
    obtain ⟨c, hc, he⟩ := List.mem_map.mp hx
    exact hid (List.mem_map.mpr ⟨c, List.mem_of_mem_filter hc, he⟩)

theorem registry_deliver (h : s.registry.Consistent P) :
    (s.deliver m).registry = s.registry.unregisterAll (s.missed m) := by
  show ((s.count _ 1).sendOrEvict m.payload (s.registry.resolve m.audience)).registry = _
  rw [registry_sendOrEvict, missed_sendAll (h.nodup_resolve m.audience)]
  rfl

theorem mem_of_mem_missed (h : s.registry.Consistent P) : c ∈ s.missed m → c ∈ P :=
  fun hc => h.population c (h.mem_resolve_iff.mp (mem_missed_iff.mp hc).1).1

/-- **Who does not take a payload is registered no more**, and everybody else
stays. -/
theorem registered_deliver (h : s.registry.Reachable P) :
    (s.deliver m).registry.Registered c ↔ s.registry.Registered c ∧ c ∉ s.missed m := by
  rw [registry_deliver h.consistent]
  exact h.registered_unregisterAll fun d hd => mem_of_mem_missed h.consistent hd

/-! ## Shutting down -/

theorem connection_shutDown : s.shutDown.connection id =
    if id ∈ s.registry.clients.map Client.connection then (s.connection id).close
    else s.connection id :=
  connection_foldl_close (s := { s with registry := s.registry.drain.1 })
    (fun _ _ id => connection_close id) s.registry.clients

theorem registry_shutDown : s.shutDown.registry = s.registry.drain.1 := by
  have hfold : ∀ (cs : List Client) (t : Switch),
      (cs.foldl (fun (s : Switch) c => s.close c.connection) t).registry = t.registry := by
    intro cs
    induction cs with
    | nil => exact fun _ => rfl
    | cons c cs ih => exact fun t => ih (t.close c.connection)
  exact hfold s.registry.clients { s with registry := s.registry.drain.1 }

end Switch
end Switchboard
