import Switchboard.Proofs.Switch.GapFree

/-! # What a switch counts

A switch counts the payloads that were queued and those that were dropped, the
clients that were put out and those that were superseded, and it shows how many
are registered.  The numbers are written in several places, some of them only
when there is something to write.  They add up nevertheless (`Balanced`), because
no message has a target twice, because every target is registered when it is put
out, and because a client that comes again over its connection supersedes nobody.

What an act does to the numbers is said by lists of clients: the targets of a
message, those that the message missed, who was superseded, who was added and who
was taken out (`tallied_next`, `size_next`, `dropped_next`). -/
namespace Switchboard

namespace Registry
open Std

variable {P : Population} {r : Registry} {c : Client}

theorem contains_of_isRegistered (h : r.isRegistered c) : r.byUser.contains c.user := by
  obtain ⟨d, hd, -⟩ := isRegistered_iff.mp h
  rw [ExtTreeMap.contains_eq_isSome_getElem?, hd]
  rfl

theorem length_clients (r : Registry) : r.clients.length = r.size :=
  FiniteMap.length_values r.byUser

/-- Who registers again over the same connection changes no number and supersedes
nobody. -/
theorem size_register_of_isRegistered (h : r.isRegistered c) :
    (r.register c).1.size = r.size ∧ (r.register c).2 = none := by
  constructor
  · have hin := contains_of_isRegistered h
    rw [size, byUser_register, ExtTreeMap.size_insert, if_pos hin]
    rfl
  · obtain ⟨d, hd, he⟩ := isRegistered_iff.mp h
    rw [previous_register, hd]
    simp [he]

/-- **Who registers anew** comes in addition, or in the place of the client that it
supersedes. -/
theorem size_register (h : ¬ r.isRegistered c) :
    (r.register c).1.size + (r.register c).2.toList.length = r.size + 1 := by
  rw [size, byUser_register, ExtTreeMap.size_insert, previous_register,
    ExtTreeMap.contains_eq_isSome_getElem?]
  cases hp : r.byUser[c.user]? with
  | none => rfl
  | some p =>
    have hne : p.connection ≠ c.connection := fun he => h (isRegistered_iff.mpr ⟨p, hp, he⟩)
    simp [hne, size]

theorem size_unregister (h : r.isRegistered c) : (r.unregister c).1.size + 1 = r.size := by
  have hin := contains_of_isRegistered h
  have hpos : 0 < r.byUser.size := by
    rw [← ExtTreeMap.length_keys]
    exact List.length_pos_of_mem (ExtTreeMap.mem_keys.mpr hin)
  rw [unregister_of_isRegistered h]
  show (r.byUser.erase c.user).size + 1 = r.byUser.size
  rw [ExtTreeMap.size_erase, if_pos hin]
  omega

/-- Each of several registered clients that are taken out counts. -/
theorem Reachable.size_unregisterAll {cs : List Client} (h : Reachable P r) (hn : cs.Nodup)
    (hreg : ∀ c ∈ cs, r.Registered c) : (r.unregisterAll cs).size + cs.length = r.size := by
  induction cs generalizing r with
  | nil => rfl
  | cons c cs ih =>
    obtain ⟨hc, hn⟩ := List.nodup_cons.mp hn
    have hcreg := hreg c List.mem_cons_self
    have hcP := h.consistent.population c hcreg
    have hrest := ih (h.unregister hcP) hn fun d hd =>
      (h.consistent.registered_unregister hcP).mpr
        ⟨hreg d (List.mem_cons_of_mem c hd), fun he => hc (he ▸ hd)⟩
    have hone := size_unregister ((h.consistent.isRegistered_iff hcP).mpr hcreg)
    show ((r.unregister c).1.unregisterAll cs).size + (cs.length + 1) = r.size
    omega

end Registry

namespace Switch

variable {P : Population} {s t : Switch} {a : Act} {c : Client} {id : ConnectionId} {p : Payload}
  {m : RoutedMessage} {series : Series} {record : List (Switch × Act)}

/-! ## Whom an act is about -/

namespace Act

/-- The targets of a message that an act delivers. -/
def targets (s : Switch) : Act → List Client
  | apply (.deliver m) => s.registry.resolve m.audience
  | _ => []

/-- Those of the targets that have no place for the message. -/
def missed (s : Switch) : Act → List Client
  | apply (.deliver m) => s.missed m
  | _ => []

/-- The client that an act registers, if its connection was not registered before. -/
def added (s : Switch) : Act → List Client
  | apply (.register c) =>
    if !s.registry.isRegistered c && (s.register c).registry.isRegistered c then [c] else []
  | _ => []

/-- Who is superseded by the client that an act registers. -/
def superseded (s : Switch) : Act → List Client
  | apply (.register c) =>
    if (s.connection c.connection).closed then [] else (s.registry.register c).2.toList
  | _ => []

/-- The client that an act takes out on request. -/
def removed (s : Switch) : Act → List Client
  | apply (.unregister c) => if s.registry.isRegistered c then [c] else []
  | _ => []

/-- Those who are taken out when the switch is shut down. -/
def drained (s : Switch) : Act → List Client
  | shutDown => s.registry.clients
  | _ => []

end Act

/-! ## What the connections dropped -/

/-- How many payloads the connections have dropped, all together. -/
def dropped (s : Switch) : Nat := FiniteMap.total (fun c => c.drops.toNat) s.connections

theorem dropped_setConnection (id : ConnectionId) (c : Connection) (s : Switch) :
    (s.setConnection id c).dropped + (s.connection id).drops.toNat =
      s.dropped + c.drops.toNat := by
  have h : _ = s.dropped + c.drops.toNat :=
    FiniteMap.total_insert (t := s.connections) (k := id) (v := c)
  rw [dropped, ← h, connection, Std.ExtTreeMap.getD_eq_getD_getElem?]
  cases s.connections[id]? <;> rfl

theorem dropped_setConnection_of_drops {c : Connection} (h : c.drops = (s.connection id).drops) :
    (s.setConnection id c).dropped = s.dropped := by
  have hset := dropped_setConnection id c s
  rw [h] at hset
  omega

@[simp] theorem dropped_close : (s.close id).dropped = s.dropped :=
  dropped_setConnection_of_drops rfl

theorem dropped_foldl {f : Switch → Client → Switch} (hf : ∀ s c, (f s c).dropped = s.dropped)
    (cs : List Client) : (cs.foldl f s).dropped = s.dropped := by
  induction cs generalizing s with
  | nil => rfl
  | cons c cs ih => rw [List.foldl_cons, ih, hf]

/-- A use of a connection drops nothing. -/
theorem dropped_use {u : Use} (ha : u.Allowed id s) : (u.next id s).dropped = s.dropped := by
  cases u with
  | read => exact dropped_setConnection_of_drops Connection.drops_receive
  | abandon | close => exact dropped_setConnection_of_drops rfl
  | connect capacity =>
    refine dropped_setConnection_of_drops ?_
    rw [connection_of_not_mem ha]
    rfl

/-- A payload that is sent is dropped if it finds no place. -/
theorem dropped_send (h : (s.connection id).drops = 0) :
    (s.send p id).2.dropped =
      s.dropped + if (s.send p id).1 = .queued then 0 else 1 := by
  show (s.setConnection id ((s.connection id).send p).2).dropped =
    s.dropped + if ((s.connection id).send p).1 = .queued then 0 else 1
  have hset := dropped_setConnection id ((s.connection id).send p).2 s
  rw [h] at hset
  revert hset
  unfold Connection.send
  split
  · rw [h]
    exact fun hset => hset
  · rw [h]
    exact fun hset => hset

/-- Whoever has dropped nothing before drops what it is missed by. -/
theorem dropped_sendAll {targets : List Client} (hn : (targets.map Client.connection).Nodup)
    (h : ∀ c ∈ targets, (s.connection c.connection).drops = 0) :
    (s.sendAll p targets).1.dropped = s.dropped + (s.sendAll p targets).2.length := by
  induction targets generalizing s with
  | nil => rfl
  | cons c targets ih =>
    rw [List.map_cons, List.nodup_cons] at hn
    have hsend := dropped_send (p := p) (h c List.mem_cons_self)
    have hrest : (((s.send p c.connection).2.sendAll p targets).1).dropped = _ :=
      ih hn.2 fun d hd => by
        rw [connection_send, if_neg fun he => hn.1 (List.mem_map.mpr ⟨d, hd, he⟩)]
        exact h d (List.mem_cons_of_mem c hd)
    show ((s.send p c.connection).2.sendAll p targets).1.dropped = s.dropped +
      (if (s.send p c.connection).1 = .queued then ((s.send p c.connection).2.sendAll p targets).2
        else c :: ((s.send p c.connection).2.sendAll p targets).2).length
    rw [hrest, hsend]
    split
    · omega
    · rw [List.length_cons]
      omega

/-- **A delivery drops one payload for each client that it misses.** -/
theorem dropped_deliver (h : s.registry.Consistent P)
    (hd : ∀ c ∈ s.registry.resolve m.audience, (s.connection c.connection).drops = 0) :
    (s.deliver m).dropped = s.dropped + (s.missed m).length := by
  have hn := h.nodup_resolve m.audience
  have hsent := dropped_sendAll (s := s.count (.hubMessagesRouted m.audience.kind) 1)
    (p := m.payload) hn hd
  rw [missed_sendAll hn] at hsent
  refine Eq.trans ?_ hsent
  unfold deliver sendOrEvict
  rcases sendAll _ _ (s.count (.hubMessagesRouted m.audience.kind) 1) with ⟨t, missed⟩
  cases missed with
  | nil => rfl
  | cons c missed =>
    refine dropped_foldl (fun s c => ?_) (c :: missed)
    exact dropped_close (s := { s with registry := (s.registry.unregister c).1 })

/-! ## What is counted -/

theorem value_count {n : Nat} {other : Series} :
    (s.count other n).metrics.value series =
      s.metrics.value series + if series = other then n else 0 :=
  Metrics.value_add other series n s.metrics

theorem value_recordClients : s.recordClients.metrics.value series =
    if series = .hubClients then s.registry.size else s.metrics.value series :=
  Metrics.value_set .hubClients series s.registry.size s.metrics

theorem metrics_use (u : Use) : (u.next id s).metrics = s.metrics := by
  cases u <;> rfl

theorem metrics_foldl_close (cs : List Client) :
    (cs.foldl (fun (s : Switch) c => s.close c.connection) s).metrics = s.metrics := by
  induction cs generalizing s with
  | nil => rfl
  | cons c cs ih => exact ih

theorem metrics_sendAll {targets : List Client} :
    (s.sendAll p targets).1.metrics = s.metrics := by
  induction targets generalizing s with
  | nil => rfl
  | cons c targets ih => exact ih

/-- Each client that is put out is counted. -/
theorem value_evictAll (cs : List Client) :
    (cs.foldl (fun s c => s.evict c) s).metrics.value series =
      s.metrics.value series + if series = .hubEvictions then cs.length else 0 := by
  induction cs generalizing s with
  | nil => simp
  | cons c cs ih =>
    have hone : (s.evict c).metrics.value series = _ :=
      value_count (s := close c.connection { s with registry := (s.registry.unregister c).1 })
    rw [List.foldl_cons, ih, hone]
    show s.metrics.value series + _ + _ = s.metrics.value series + _
    split
    · rw [List.length_cons]
      omega
    · rfl

/-- A registration shows how many clients there are, and counts who is superseded. -/
theorem value_register (h : ¬ (s.connection c.connection).closed) :
    (s.register c).metrics.value series =
      if series = .hubClients then (s.registry.register c).1.size
      else s.metrics.value series +
        if series = .hubSuperseded then (s.registry.register c).2.toList.length else 0 := by
  rw [register, if_neg h]
  rcases s.registry.register c with ⟨registry, previous⟩
  cases previous with
  | none =>
    refine value_recordClients.trans ?_
    simp
  | some p =>
    refine value_recordClients.trans ?_
    rw [value_count]
    rfl

theorem value_unregister : (s.unregister c).metrics.value series =
    if series = .hubClients ∧ s.registry.isRegistered c then (s.registry.unregister c).1.size
    else s.metrics.value series := by
  unfold unregister
  by_cases h : s.registry.isRegistered c
  · rw [Registry.unregister_of_isRegistered h]
    refine value_recordClients.trans ?_
    simp [h]
  · rw [Registry.unregister_of_not_isRegistered h]
    simp [h]

/-- What is counted when a payload is sent to clients. -/
theorem value_sendOrEvict {targets : List Client} :
    (s.sendOrEvict p targets).metrics.value series =
      if series = .hubClients ∧ (s.sendAll p targets).2 ≠ []
      then (s.sendOrEvict p targets).registry.size
      else s.metrics.value series +
        (if series = .hubDeliveries then targets.length - (s.sendAll p targets).2.length else 0) +
        if series = .hubDrops ∨ series = .hubEvictions then (s.sendAll p targets).2.length
        else 0 := by
  have hsent : (s.sendAll p targets).1.metrics = s.metrics := metrics_sendAll
  rw [← hsent]
  unfold sendOrEvict
  rcases s.sendAll p targets with ⟨t, missed⟩
  cases missed with
  | nil =>
    refine value_count.trans ?_
    simp
  | cons c missed =>
    refine value_recordClients.trans ?_
    by_cases hc : series = .hubClients
    · rw [if_pos hc, if_pos ⟨hc, List.cons_ne_nil _ _⟩]
      rfl
    · rw [if_neg hc, if_neg fun h => hc h.1, value_evictAll, value_count, value_count,
        Nat.add_assoc (_ + _)]
      congr 1
      by_cases hd : series = .hubDrops
      · simp [hd]
      · simp [hd]

/-- **A delivery** counts what was queued and what was not, and who was put out; it
shows how many clients are left if somebody was. -/
theorem value_deliver (h : s.registry.Consistent P) (hk : ∀ kind, series ≠ .hubMessagesRouted kind) :
    (s.deliver m).metrics.value series =
      if series = .hubClients ∧ s.missed m ≠ [] then (s.deliver m).registry.size
      else s.metrics.value series +
        (if series = .hubDeliveries
          then (s.registry.resolve m.audience).length - (s.missed m).length else 0) +
        if series = .hubDrops ∨ series = .hubEvictions then (s.missed m).length else 0 := by
  have hcount : (s.count (.hubMessagesRouted m.audience.kind) 1).metrics.value series =
      s.metrics.value series := by
    rw [value_count, if_neg (hk _)]
    rfl
  have hsent : (s.deliver m).metrics.value series = _ :=
    value_sendOrEvict (s := s.count (.hubMessagesRouted m.audience.kind) 1)
  rw [missed_sendAll (h.nodup_resolve m.audience), hcount] at hsent
  exact hsent

/-- When everybody is taken out, nobody is shown any more. -/
theorem value_shutDown : s.shutDown.metrics.value series =
    if series = .hubClients then 0 else s.metrics.value series := by
  have hrest : (s.registry.drain.2.foldl (fun (s : Switch) c => s.close c.connection)
      { s with registry := s.registry.drain.1 }).metrics = s.metrics := metrics_foldl_close _
  have hsize : s.shutDown.registry.size = 0 := by
    rw [registry_shutDown]
    rfl
  rw [← hsize, ← hrest]
  exact value_recordClients

/-! ## What an act does to the numbers -/

/-- **How much is counted** from one moment to another. -/
structure Tallied (s t : Switch) (targets missed superseded : Nat) : Prop where
  deliveries : t.metrics.value .hubDeliveries + missed = s.metrics.value .hubDeliveries + targets
  drops : t.metrics.value .hubDrops = s.metrics.value .hubDrops + missed
  evictions : t.metrics.value .hubEvictions = s.metrics.value .hubEvictions + missed
  superseded : t.metrics.value .hubSuperseded = s.metrics.value .hubSuperseded + superseded

theorem Tallied.of_eq (h : ∀ series, series ≠ .hubClients →
    t.metrics.value series = s.metrics.value series) : Tallied s t 0 0 0 :=
  ⟨h _ (by simp), h _ (by simp), h _ (by simp), h _ (by simp)⟩

/-- **Every act counts whom it is about.** -/
theorem tallied_next (h : s.registry.Consistent P) :
    Tallied s (a.next s) (a.targets s).length (a.missed s).length (a.superseded s).length := by
  cases a with
  | use id u => exact .of_eq fun series _ => congrArg _ (metrics_use u)
  | shutDown =>
    exact .of_eq fun series hne => value_shutDown.trans (if_neg hne)
  | apply e =>
    cases e with
    | stats => exact .of_eq fun _ _ => rfl
    | unregister c =>
      exact .of_eq fun series hne => value_unregister.trans (if_neg fun h => hne h.1)
    | register c =>
      by_cases hc : (s.connection c.connection).closed
      · have hsame : (Act.apply (.register c)).next s = s := register_of_closed hc
        rw [hsame, Act.superseded, if_pos hc]
        exact .of_eq fun _ _ => rfl
      · rw [Act.superseded, if_neg hc]
        constructor <;> exact value_register hc
    | deliver m =>
      have hle : (s.missed m).length ≤ (s.registry.resolve m.audience).length :=
        List.length_filter_le _ _
      constructor
      · have hval : (s.deliver m).metrics.value .hubDeliveries = _ := value_deliver h (by simp)
        simp only [reduceCtorEq, false_and, if_false, if_true, or_self] at hval
        show (s.deliver m).metrics.value .hubDeliveries + (s.missed m).length =
          s.metrics.value .hubDeliveries + (s.registry.resolve m.audience).length
        omega
      · exact (value_deliver h (by simp)).trans (by simp [Act.missed])
      · exact (value_deliver h (by simp)).trans (by simp [Act.missed])
      · exact (value_deliver h (by simp)).trans (by simp [Act.superseded])

/-- **The balance of one act**: who is registered afterwards, and who is not any
more, makes up for who was registered before and who was added. -/
theorem size_next (h : s.registry.Reachable P) (ha : a.Allowed P s) :
    (a.next s).registry.size + (a.superseded s).length + (a.missed s).length +
        (a.removed s).length + (a.drained s).length =
      s.registry.size + (a.added s).length := by
  cases a with
  | use id u =>
    show (u.next id s).registry.size + 0 + 0 + 0 + 0 = s.registry.size + 0
    rw [registry_use]
  | shutDown =>
    show s.shutDown.registry.size + 0 + 0 + 0 + s.registry.clients.length = s.registry.size + 0
    rw [registry_shutDown, Registry.length_clients]
    show 0 + 0 + 0 + 0 + s.registry.size = _
    omega
  | apply e =>
    cases e with
    | stats => rfl
    | register c =>
      show (s.register c).registry.size + _ + 0 + 0 + 0 = _
      by_cases hc : (s.connection c.connection).closed
      · -- nobody is added over a closed connection
        have hnone : (Act.apply (.register c)).added s = [] := by
          rw [Act.added, register_of_closed hc]
          simp
        rw [hnone, Act.superseded, if_pos hc, register_of_closed hc]
        rfl
      · rw [Act.superseded, if_neg hc, Act.added, registry_register hc]
        by_cases hreg : s.registry.isRegistered c
        · obtain ⟨hsize, hprev⟩ := Registry.size_register_of_isRegistered hreg
          rw [hsize, hprev]
          simp [hreg]
        · have hsize := Registry.size_register hreg
          have hin : (s.registry.register c).1.isRegistered c :=
            ((h.consistent.register ha).isRegistered_iff ha).mpr
              (Registry.registered_register.mpr (Or.inr rfl))
          simp only [hreg, hin, Bool.not_false, Bool.and_self, if_true, List.length_singleton]
          omega
    | unregister c =>
      show (s.unregister c).registry.size + 0 + 0 + _ + 0 = s.registry.size + 0
      rw [registry_unregister, Act.removed]
      by_cases hreg : s.registry.isRegistered c
      · have hsize := Registry.size_unregister hreg
        rw [if_pos hreg, List.length_singleton]
        omega
      · rw [if_neg hreg, Registry.unregister_of_not_isRegistered hreg]
        rfl
    | deliver m =>
      show (s.deliver m).registry.size + 0 + (s.missed m).length + 0 + 0 = s.registry.size + 0
      have hn : (s.missed m).Nodup :=
        ((h.consistent.nodup_resolve m.audience).of_map _).filter _
      have hsize := h.size_unregisterAll hn fun c hc =>
        (h.consistent.mem_resolve_iff.mp (mem_missed_iff.mp hc).1).1
      rw [registry_deliver h.consistent]
      omega

/-- What is shown of the number of clients is that number. -/
theorem clients_next (h : s.registry.Consistent P)
    (hs : s.metrics.value .hubClients = s.registry.size) :
    (a.next s).metrics.value .hubClients = (a.next s).registry.size := by
  cases a with
  | use id u =>
    show (u.next id s).metrics.value .hubClients = (u.next id s).registry.size
    rw [metrics_use, registry_use, hs]
  | shutDown =>
    show s.shutDown.metrics.value .hubClients = s.shutDown.registry.size
    rw [value_shutDown, registry_shutDown]
    rfl
  | apply e =>
    cases e with
    | stats => exact hs
    | register c =>
      show (s.register c).metrics.value .hubClients = (s.register c).registry.size
      by_cases hc : (s.connection c.connection).closed
      · rw [register_of_closed hc, hs]
      · rw [value_register hc, if_pos rfl, registry_register hc]
    | unregister c =>
      show (s.unregister c).metrics.value .hubClients = (s.unregister c).registry.size
      rw [value_unregister, registry_unregister]
      by_cases hreg : s.registry.isRegistered c
      · rw [if_pos ⟨rfl, hreg⟩]
      · rw [if_neg fun h => hreg h.2, Registry.unregister_of_not_isRegistered hreg, hs]
    | deliver m =>
      show (s.deliver m).metrics.value .hubClients = (s.deliver m).registry.size
      rw [value_deliver h (by simp)]
      by_cases hm : s.missed m = []
      · rw [if_neg fun h => h.2 hm, registry_deliver h, hm]
        exact hs
      · rw [if_pos ⟨rfl, hm⟩]

/-- Only a payload that misses a client is dropped. -/
theorem dropped_next (hr : Run (Move P) ∅ record s) (ha : a.Allowed P s) :
    (a.next s).dropped = s.dropped + (a.missed s).length := by
  have hcons := (reachable_of_run hr .empty).consistent
  cases a with
  | use id u => exact dropped_use ha
  | shutDown => exact dropped_foldl (fun _ _ => dropped_close) s.registry.clients
  | apply e =>
    cases e with
    | stats => rfl
    | unregister c =>
      show (s.unregister c).dropped = s.dropped
      unfold unregister
      split <;> rfl
    | register c =>
      show (s.register c).dropped = s.dropped
      unfold register
      split
      · rfl
      · rcases s.registry.register c with ⟨registry, previous⟩
        cases previous with
        | none => rfl
        | some p => exact dropped_close (s := { s with registry := registry })
    | deliver m =>
      refine dropped_deliver hcons fun c hc => ?_
      -- who has dropped something is registered no more
      have hreg := (hcons.mem_resolve_iff.mp hc).1
      rcases (kept_of_run hr (hcons.population c hreg)).sent with ⟨-, hdrops⟩ | ⟨-, hout, -⟩
      · exact hdrops
      · exact absurd hreg hout.unregistered

/-! ## The numbers along a run -/

/-- The targets of all messages that were delivered along a run. -/
def targets (record : List (Switch × Act)) : List Client :=
  observe (fun s a => a.targets s) record

/-- Those who were registered anew along a run. -/
def added (record : List (Switch × Act)) : List Client :=
  observe (fun s a => a.added s) record

/-- Those who were taken out on request along a run. -/
def removed (record : List (Switch × Act)) : List Client :=
  observe (fun s a => a.removed s) record

/-- Those who were taken out along a run when the switch was shut down. -/
def drained (record : List (Switch × Act)) : List Client :=
  observe (fun s a => a.drained s) record

/-- **The numbers add up.** -/
structure Balanced (record : List (Switch × Act)) (s : Switch) : Prop where
  /-- What was addressed was queued or dropped. -/
  deliveries : s.metrics.value .hubDeliveries + s.metrics.value .hubDrops =
    (targets record).length
  /-- Who dropped a payload was put out. -/
  evictions : s.metrics.value .hubDrops = s.metrics.value .hubEvictions
  drops : s.metrics.value .hubDrops = s.dropped
  clients : s.metrics.value .hubClients = s.registry.size
  /-- Who was added is registered, or it is known why not. -/
  registrations : (added record).length =
    s.registry.size + s.metrics.value .hubSuperseded + s.metrics.value .hubEvictions +
      (removed record).length + (drained record).length

/-- **The numbers add up at the end of every run.** -/
theorem balanced_of_run (hr : Run (Move P) ∅ record s) : Balanced record s := by
  induction hr with
  | stay => exact ⟨rfl, rfl, rfl, rfl, rfl⟩
  | @move record s t a hbefore hm ih =>
    obtain ⟨ha, rfl⟩ := hm
    have hreach := reachable_of_run hbefore .empty
    have htally := tallied_next (a := a) hreach.consistent
    have hsize := size_next hreach ha
    have hdropped := dropped_next hbefore ha
    refine ⟨?_, ?_, ?_, clients_next hreach.consistent ih.clients, ?_⟩
    · have hd := ih.deliveries
      have hone := htally.deliveries
      have hdrops := htally.drops
      rw [targets, observe_snoc, List.length_append, ← targets]
      omega
    · rw [htally.drops, htally.evictions, ih.evictions]
    · rw [htally.drops, hdropped, ih.drops]
    · have hregs := ih.registrations
      have hsup := htally.superseded
      have hev := htally.evictions
      rw [added, removed, drained, observe_snoc, observe_snoc, observe_snoc, List.length_append,
        List.length_append, List.length_append, ← added, ← removed, ← drained]
      omega

end Switch
end Switchboard
