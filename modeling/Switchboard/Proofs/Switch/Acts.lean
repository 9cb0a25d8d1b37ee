import Switchboard.Proofs.Switch.Effects
import Switchboard.Proofs.Run

/-! # What happens to a switch

A switch is moved by acts: it applies an event, somebody at the far end of a
connection uses it, or it is shut down.  Uses come in any order between events;
only that a connection is opened once, and used only after that, is taken for
granted.

What holds of a client along a run follows from what a single act can do to it.
An act that addresses a payload to the client delivers it
(`connection_next_of_addressed`); any other uses the client's connection, leaves
it as it is or closes it (`connection_next`).  A client becomes registered only
over an open connection (`registered_of_next`), and when it ceases to be, it has
been taken out on request or its connection is closed
(`registered_or_closed_next`).  A connection that was opened and closed stays
closed (`closed_next`). -/
namespace Switchboard

/-- An event is about clients of a population. -/
def Event.About (P : Population) : Event → Prop
  | .register c | .unregister c => c ∈ P
  | _ => True

namespace Switch

/-- What somebody at the far end of a connection does with it. -/
inductive Use
  /-- The connection is opened with so many places. -/
  | connect (capacity : Nat)
  /-- A payload is read from the queue. -/
  | read
  /-- The queue is given up. -/
  | abandon
  | close

namespace Use

/-- A connection after its use. -/
def on : Use → Connection → Connection
  | connect capacity, _ => .ofCapacity capacity
  | read, c => c.receive.2
  | abandon, c => c.abandon
  | close, c => c.close

/-- The switch after a use of one of its connections. -/
def next (id : ConnectionId) : Use → Switch → Switch
  | connect capacity => openConnection id capacity
  | read => fun s => (s.receive id).2
  | abandon => Switch.abandon id
  | close => Switch.close id

/-- A connection is opened once, and used only after that. -/
def Allowed (id : ConnectionId) (s : Switch) : Use → Prop
  | connect _ => id ∉ s.connections
  | _ => id ∈ s.connections

instance (id : ConnectionId) (s : Switch) : (u : Use) → Decidable (u.Allowed id s)
  | connect _ => inferInstanceAs (Decidable (id ∉ s.connections))
  | read | abandon | close => inferInstanceAs (Decidable (id ∈ s.connections))

end Use

/-- What happens to a switch. -/
inductive Act
  | apply (e : Event)
  | use (id : ConnectionId) (u : Use)
  | shutDown

namespace Act

/-- The switch after an act. -/
def next : Act → Switch → Switch
  | apply e, s => s.apply e
  | use id u, s => u.next id s
  | shutDown, s => s.shutDown

/-- Whether an act can happen. -/
def Allowed (P : Population) (s : Switch) : Act → Prop
  | apply e => e.About P
  | use id u => u.Allowed id s
  | shutDown => True

/-- The payload that an act addresses to a client: that of a message which is
resolved to the client. -/
def addressed? (c : Client) (s : Switch) : Act → Option Payload
  | apply (.deliver m) =>
    if c.connection ∈ (s.registry.resolve m.audience).map Client.connection then some m.payload
    else none
  | _ => none

end Act

/-- Which switch an act leads to, with the clients of a population. -/
def Move (P : Population) (s : Switch) (a : Act) (t : Switch) : Prop :=
  a.Allowed P s ∧ t = a.next s

variable {P : Population} {s t : Switch} {a : Act} {c d : Client} {id : ConnectionId}

/-! ## The registry is one that calls lead to -/

@[simp] theorem registry_use (u : Use) : (u.next id s).registry = s.registry := by
  cases u <;> rfl

theorem reachable_next (h : s.registry.Reachable P) (ha : a.Allowed P s) :
    (a.next s).registry.Reachable P := by
  cases a with
  | use id u =>
    show (u.next id s).registry.Reachable P
    rwa [registry_use]
  | shutDown =>
    show s.shutDown.registry.Reachable P
    rw [registry_shutDown]
    exact h.drain
  | apply e =>
    cases e with
    | stats => exact h
    | register c =>
      show (s.register c).registry.Reachable P
      by_cases hc : (s.connection c.connection).closed
      · rwa [register_of_closed hc]
      · rw [registry_register hc]
        exact h.register ha
    | unregister c =>
      show (s.unregister c).registry.Reachable P
      rw [registry_unregister]
      exact h.unregister ha
    | deliver m =>
      show (s.deliver m).registry.Reachable P
      rw [registry_deliver h.consistent]
      exact h.unregisterAll fun d hd => mem_of_mem_missed h.consistent hd

theorem reachable_move (h : s.registry.Reachable P) (hm : Move P s a t) :
    t.registry.Reachable P := by
  obtain ⟨ha, rfl⟩ := hm
  exact reachable_next h ha

/-- The registry of a switch is one that calls lead to, at every moment. -/
theorem reachable_of_run {record : List (Switch × Act)} (h : Run (Move P) s record t)
    (hs : s.registry.Reachable P) : t.registry.Reachable P :=
  h.invariant (I := fun s => s.registry.Reachable P) (fun _ _ _ => reachable_move) hs

/-! ## What becomes of a connection -/

theorem connection_use (u : Use) (other : ConnectionId) :
    (u.next id s).connection other =
      if other = id then u.on (s.connection id) else s.connection other := by
  cases u <;> exact connection_setConnection id other _ s

/-- A client is among the targets of a message if its connection is. -/
theorem connection_mem_targets_iff (h : s.registry.Consistent P) (hc : c ∈ P)
    {audience : Audience} :
    c.connection ∈ (s.registry.resolve audience).map Client.connection ↔
      c ∈ s.registry.resolve audience := by
  refine ⟨fun hin => ?_, fun hin => List.mem_map.mpr ⟨c, hin, rfl⟩⟩
  obtain ⟨d, hd, he⟩ := List.mem_map.mp hin
  rwa [h.eq_of_connection hc d (h.mem_resolve_iff.mp hd).1 he] at hd

/-- A client is among those who are registered if its connection is. -/
theorem connection_mem_clients_iff (h : s.registry.Consistent P) (hc : c ∈ P) :
    c.connection ∈ s.registry.clients.map Client.connection ↔ s.registry.Registered c := by
  have hiff : c.connection ∈ (s.registry.resolve .everyone).map Client.connection ↔ _ :=
    connection_mem_targets_iff h hc
  exact hiff.trans h.mem_clients_iff

/-- **A payload is addressed to a client** by the delivery of a message that is
resolved to the client. -/
theorem addressed?_eq_some_iff (h : s.registry.Consistent P) (hc : c ∈ P) {p : Payload} :
    a.addressed? c s = some p ↔
      ∃ m, a = .apply (.deliver m) ∧ c ∈ s.registry.resolve m.audience ∧ m.payload = p := by
  constructor
  · intro hp
    cases a with
    | use id u => cases hp
    | shutDown => cases hp
    | apply e =>
      cases e with
      | stats | register d | unregister d => cases hp
      | deliver m =>
        simp only [Act.addressed?] at hp
        split at hp
        · next hin =>
          exact ⟨m, rfl, (connection_mem_targets_iff h hc).mp hin, Option.some.inj hp⟩
        · cases hp
  · rintro ⟨m, rfl, hin, rfl⟩
    exact if_pos ((connection_mem_targets_iff h hc).mpr hin)

/-- An act that addresses a payload to a client delivers it. -/
theorem connection_next_of_addressed (h : s.registry.Consistent P) (hc : c ∈ P) {p : Payload}
    (hp : a.addressed? c s = some p) :
    (a.next s).connection c.connection = (s.connection c.connection).deliver p := by
  obtain ⟨m, rfl, hin, rfl⟩ := (addressed?_eq_some_iff h hc).mp hp
  show (s.deliver m).connection c.connection = _
  rw [connection_deliver h, if_pos (List.mem_map.mpr ⟨c, hin, rfl⟩)]

/-- **What an act can do to a connection** if it addresses no payload to its
client: it uses the connection, or it leaves it as it is, or it closes it. -/
theorem connection_next (h : s.registry.Consistent P) (hp : a.addressed? c s = none) :
    (∃ u, a = .use c.connection u ∧
      (a.next s).connection c.connection = u.on (s.connection c.connection)) ∨
    (∀ u, a ≠ .use c.connection u) ∧
      ((a.next s).connection c.connection = s.connection c.connection ∨
        (a.next s).connection c.connection = (s.connection c.connection).close) := by
  cases a with
  | use id u =>
    by_cases hid : id = c.connection
    · subst hid
      exact Or.inl ⟨u, rfl, (connection_use u c.connection).trans (if_pos rfl)⟩
    · refine Or.inr ⟨fun u' he => hid (Act.use.inj he).1, Or.inl ?_⟩
      exact (connection_use u c.connection).trans (if_neg fun he => hid he.symm)
  | shutDown =>
    refine Or.inr ⟨fun _ he => (nomatch he), ?_⟩
    show s.shutDown.connection c.connection = _ ∨ s.shutDown.connection c.connection = _
    rw [connection_shutDown]
    split
    · exact Or.inr rfl
    · exact Or.inl rfl
  | apply e =>
    refine Or.inr ⟨fun _ he => (nomatch he), ?_⟩
    cases e with
    | stats => exact Or.inl rfl
    | unregister d => exact Or.inl connection_unregister
    | register d =>
      show (s.register d).connection c.connection = _ ∨ (s.register d).connection c.connection = _
      by_cases hd : (s.connection d.connection).closed
      · exact Or.inl (by rw [register_of_closed hd])
      · rw [connection_register hd]
        split
        · exact Or.inr rfl
        · exact Or.inl rfl
    | deliver m =>
      left
      show (s.deliver m).connection c.connection = _
      rw [connection_deliver h, if_neg]
      intro hin
      rw [Act.addressed?, if_pos hin] at hp
      cases hp

/-! ## Who is registered -/

/-- **A client becomes registered over an open connection only.** -/
theorem registered_of_next (h : s.registry.Reachable P) (ha : a.Allowed P s)
    (hreg : (a.next s).registry.Registered c) :
    s.registry.Registered c ∨
      a = .apply (.register c) ∧ ¬ (s.connection c.connection).closed := by
  cases a with
  | use id u =>
    have hreg' : (u.next id s).registry.Registered c := hreg
    rw [registry_use] at hreg'
    exact Or.inl hreg'
  | shutDown =>
    have hreg' : s.shutDown.registry.Registered c := hreg
    rw [registry_shutDown] at hreg'
    exact absurd hreg' Registry.not_registered_empty
  | apply e =>
    cases e with
    | stats => exact Or.inl hreg
    | register d =>
      have hreg' : (s.register d).registry.Registered c := hreg
      by_cases hd : (s.connection d.connection).closed
      · rw [register_of_closed hd] at hreg'
        exact Or.inl hreg'
      · rw [registry_register hd] at hreg'
        rcases Registry.registered_register.mp hreg' with ⟨hc, -⟩ | rfl
        · exact Or.inl hc
        · exact Or.inr ⟨rfl, hd⟩
    | unregister d =>
      have hreg' : (s.unregister d).registry.Registered c := hreg
      rw [registry_unregister] at hreg'
      exact Or.inl ((h.consistent.registered_unregister ha).mp hreg').1
    | deliver m => exact Or.inl ((registered_deliver h).mp hreg).1

/-- Who is superseded was registered for the same user. -/
theorem registered_of_superseded (h : s.registry.Consistent P) (hc : c ∈ P)
    (hp : (s.registry.register d).2.map Client.connection = some c.connection) :
    s.registry.Registered c ∧ c.user = d.user := by
  obtain ⟨p, hp, hpc⟩ := Option.map_eq_some_iff.mp hp
  rw [Registry.previous_register] at hp
  have hfound : s.registry.byUser[d.user]? = some p := (Option.filter_eq_some_iff.mp hp).1
  have hpu : p.user = d.user := h.user _ p hfound
  have hreg : s.registry.Registered p := by rwa [Registry.Registered, hpu]
  obtain rfl := h.eq_of_connection hc p hreg hpc
  exact ⟨hreg, hpu⟩

/-- **Nothing becomes of the connection of who is not registered**, unless the
connection is used. -/
theorem connection_next_of_not_registered (h : s.registry.Consistent P) (hc : c ∈ P)
    (hn : ¬ s.registry.Registered c) (hu : ∀ u, a ≠ .use c.connection u) :
    (a.next s).connection c.connection = s.connection c.connection := by
  cases a with
  | use id u =>
    refine (connection_use u c.connection).trans (if_neg ?_)
    rintro rfl
    exact hu u rfl
  | shutDown =>
    have hin : c.connection ∉ s.registry.clients.map Client.connection :=
      mt (connection_mem_clients_iff h hc).mp hn
    exact connection_shutDown.trans (if_neg hin)
  | apply e =>
    cases e with
    | stats => rfl
    | unregister d => exact connection_unregister
    | register d =>
      show (s.register d).connection c.connection = _
      by_cases hd : (s.connection d.connection).closed
      · rw [register_of_closed hd]
      · rw [connection_register hd, if_neg fun hp => hn (registered_of_superseded h hc hp).1]
    | deliver m =>
      have hin : c.connection ∉ (s.registry.resolve m.audience).map Client.connection := fun hin =>
        hn (h.mem_resolve_iff.mp ((connection_mem_targets_iff h hc).mp hin)).1
      exact (connection_deliver h).trans (if_neg hin)

/-- The client that another one supersedes has its connection closed. -/
theorem closed_of_superseded (hc : ¬ (s.connection c.connection).closed)
    (hd : s.registry.Registered d) (hu : d.user = c.user) (hne : d.connection ≠ c.connection) :
    ((s.register c).connection d.connection).closed := by
  have hprev : (s.registry.register c).2 = some d := by
    rw [Registry.Registered, hu] at hd
    rw [Registry.previous_register, hd]
    simp [hne]
  rw [connection_register hc, hprev, if_pos (by rfl)]
  rfl

/-- **When a client ceases to be registered**, it has been taken out on request,
or its connection is closed. -/
theorem registered_or_closed_next (h : s.registry.Reachable P) (ha : a.Allowed P s)
    (hreg : s.registry.Registered c) :
    (a.next s).registry.Registered c ∨ ((a.next s).connection c.connection).closed ∨
      a = .apply (.unregister c) := by
  have hcons := h.consistent
  have hc : c ∈ P := hcons.population c hreg
  cases a with
  | use id u =>
    left
    show (u.next id s).registry.Registered c
    rwa [registry_use]
  | shutDown =>
    right
    left
    have hin : c.connection ∈ s.registry.clients.map Client.connection :=
      List.mem_map.mpr ⟨c, hcons.mem_clients_iff.mpr hreg, rfl⟩
    show (s.shutDown.connection c.connection).closed
    rw [connection_shutDown, if_pos hin]
    rfl
  | apply e =>
    cases e with
    | stats => exact Or.inl hreg
    | register d =>
      by_cases hd : (s.connection d.connection).closed
      · left
        show (s.register d).registry.Registered c
        rwa [register_of_closed hd]
      by_cases hcd : c = d
      · left
        show (s.register d).registry.Registered c
        rw [registry_register hd]
        exact Registry.registered_register.mpr (Or.inr hcd)
      by_cases hu : c.user = d.user
      · -- another client of the user: this one is superseded
        right
        left
        exact closed_of_superseded hd hreg hu fun he =>
          hcd (Population.eq_of_connection hc ha he)
      · left
        show (s.register d).registry.Registered c
        rw [registry_register hd]
        exact Registry.registered_register.mpr (Or.inl ⟨hreg, hu⟩)
    | unregister d =>
      by_cases hcd : c = d
      · exact Or.inr (Or.inr (hcd ▸ rfl))
      · left
        show (s.unregister d).registry.Registered c
        rw [registry_unregister]
        exact (hcons.registered_unregister ha).mpr ⟨hreg, hcd⟩
    | deliver m =>
      by_cases hm : c ∈ s.missed m
      · -- the payload found no place: the client is put out
        right
        left
        obtain ⟨hin, hna⟩ := mem_missed_iff.mp hm
        have hcon : ((s.deliver m).connection c.connection) = _ := connection_deliver hcons
        rw [if_pos (List.mem_map.mpr ⟨c, hin, rfl⟩), Connection.deliver_of_not_accepts hna] at hcon
        show ((s.deliver m).connection c.connection).closed
        rw [hcon]
      · exact Or.inl ((registered_deliver h).mpr ⟨hreg, hm⟩)

/-! ## Connections once opened -/

theorem connection_of_not_mem (h : id ∉ s.connections) : s.connection id = .gone :=
  Std.ExtTreeMap.getD_eq_fallback h

theorem mem_connections_of_open (h : ¬ (s.connection id).closed) : id ∈ s.connections := by
  by_contra hmem
  exact h (by rw [connection_of_not_mem hmem]; rfl)

/-- Every connection of one switch is one of another. -/
def Grows (s t : Switch) : Prop := ∀ id ∈ s.connections, id ∈ t.connections

theorem Grows.trans {u : Switch} (h : Grows s t) (h' : Grows t u) : Grows s u :=
  fun id hid => h' id (h id hid)

theorem grows_setConnection (c : Connection) : Grows s (s.setConnection id c) :=
  fun _ hid => Std.ExtTreeMap.mem_insert.mpr (Or.inr hid)

theorem grows_evict (s : Switch) (c : Client) : Grows s (s.evict c) :=
  grows_setConnection (s := { s with registry := (s.registry.unregister c).1 }) _

theorem grows_foldl {f : Switch → Client → Switch} (hf : ∀ s c, Grows s (f s c))
    (cs : List Client) (h : Grows s t) : Grows s (cs.foldl f t) := by
  induction cs generalizing t with
  | nil => exact h
  | cons c cs ih => exact ih (h.trans (hf t c))

theorem grows_sendAll {p : Payload} {targets : List Client} :
    Grows s (s.sendAll p targets).1 := by
  induction targets generalizing s with
  | nil => exact fun _ hid => hid
  | cons c targets ih => exact (grows_setConnection _).trans ih

theorem grows_sendOrEvict {p : Payload} {targets : List Client} :
    Grows s (s.sendOrEvict p targets) := by
  have hsent : Grows s (s.sendAll p targets).1 := grows_sendAll
  revert hsent
  unfold sendOrEvict
  rcases s.sendAll p targets with ⟨t, missed⟩
  intro hsent
  cases missed with
  | nil => exact hsent
  | cons c missed => exact grows_foldl grows_evict (c :: missed) hsent

theorem grows_next : Grows s (a.next s) := by
  cases a with
  | use id u => cases u <;> exact grows_setConnection _
  | shutDown =>
    exact grows_foldl (f := fun s c => s.close c.connection) (fun _ _ => grows_setConnection _)
      s.registry.clients fun _ hid => hid
  | apply e =>
    cases e with
    | stats => exact fun _ hid => hid
    | register c =>
      show Grows s (s.register c)
      unfold register
      split
      · exact fun _ hid => hid
      · rcases s.registry.register c with ⟨registry, previous⟩
        cases previous with
        | none => exact fun _ hid => hid
        | some p => exact grows_setConnection (s := { s with registry := registry }) _
    | unregister c =>
      show Grows s (s.unregister c)
      unfold unregister
      split <;> exact fun _ hid => hid
    | deliver m => exact grows_sendOrEvict (s := s.count _ 1)

/-- Only who has a connection that was opened is registered, at every moment. -/
theorem opened_of_run {record : List (Switch × Act)} (hr : Run (Move P) ∅ record s)
    (hreg : s.registry.Registered c) : c.connection ∈ s.connections := by
  induction hr with
  | stay => exact absurd hreg Registry.not_registered_empty
  | move hbefore hm ih =>
    obtain ⟨ha, rfl⟩ := hm
    refine grows_next c.connection ?_
    rcases registered_of_next (reachable_of_run hbefore .empty) ha hreg with hreg | ⟨-, hopen⟩
    · exact ih hreg
    · exact mem_connections_of_open hopen

/-- What is set is no new connection if there was one before. -/
theorem setConnection_grows (c : Connection) (h : id ∈ s.connections) :
    Grows (s.setConnection id c) s := by
  intro other hmem
  rcases Std.ExtTreeMap.mem_insert.mp hmem with he | hmem
  · obtain rfl : id = other := Std.LawfulEqCmp.eq_of_compare he
    exact h
  · exact hmem

theorem sendAll_grows {p : Payload} {targets : List Client}
    (h : ∀ c ∈ targets, c.connection ∈ s.connections) : Grows (s.sendAll p targets).1 s := by
  induction targets generalizing s with
  | nil => exact fun _ hid => hid
  | cons c targets ih =>
    have hsent : Grows s (s.send p c.connection).2 := grows_setConnection _
    refine Grows.trans (ih fun d hd => hsent _ (h d (List.mem_cons_of_mem c hd))) ?_
    exact setConnection_grows _ (h c List.mem_cons_self)

theorem foldl_grows {f : Switch → Client → Switch} (hf : ∀ s c, Grows s (f s c))
    (hf' : ∀ s c, c.connection ∈ s.connections → Grows (f s c) s) (cs : List Client)
    (h : ∀ c ∈ cs, c.connection ∈ s.connections) : Grows (cs.foldl f s) s := by
  induction cs generalizing s with
  | nil => exact fun _ hid => hid
  | cons c cs ih =>
    refine Grows.trans (ih fun d hd => hf s c _ (h d (List.mem_cons_of_mem c hd))) ?_
    exact hf' s c (h c List.mem_cons_self)

theorem sendOrEvict_grows {p : Payload} {targets : List Client}
    (hn : (targets.map Client.connection).Nodup)
    (h : ∀ c ∈ targets, c.connection ∈ s.connections) : Grows (s.sendOrEvict p targets) s := by
  have hsent : Grows s (s.sendAll p targets).1 := grows_sendAll
  have hback : Grows (s.sendAll p targets).1 s := sendAll_grows h
  have hmissed : ∀ c ∈ (s.sendAll p targets).2, c.connection ∈ (s.sendAll p targets).1.connections := by
    intro c hc
    rw [missed_sendAll hn] at hc
    exact hsent _ (h c (List.mem_of_mem_filter hc))
  revert hback hmissed
  unfold sendOrEvict
  rcases s.sendAll p targets with ⟨t, missed⟩
  intro hback hmissed
  cases missed with
  | nil => exact hback
  | cons c missed =>
    refine Grows.trans (foldl_grows grows_evict (fun s c hc => ?_) (c :: missed) hmissed) hback
    exact setConnection_grows (s := { s with registry := (s.registry.unregister c).1 }) _ hc

/-- **Only the opening of a connection adds one.** -/
theorem mem_connections_of_next {record : List (Switch × Act)} (hr : Run (Move P) ∅ record s)
    (ha : a.Allowed P s) (hid : id ∈ (a.next s).connections) :
    id ∈ s.connections ∨ ∃ places, a = .use id (.connect places) := by
  have hcons := (reachable_of_run hr .empty).consistent
  suffices hgrows : Grows (a.next s) s ∨ ∃ other places, a = .use other (.connect places) by
    rcases hgrows with hgrows | ⟨other, places, rfl⟩
    · exact Or.inl (hgrows id hid)
    · rcases Std.ExtTreeMap.mem_insert.mp hid with he | hmem
      · obtain rfl : other = id := Std.LawfulEqCmp.eq_of_compare he
        exact Or.inr ⟨places, rfl⟩
      · exact Or.inl hmem
  cases a with
  | use other u =>
    cases u with
    | connect places => exact Or.inr ⟨other, places, rfl⟩
    | read | abandon | close => exact Or.inl (setConnection_grows _ ha)
  | shutDown =>
    have hopened : ∀ c ∈ s.registry.clients, c.connection ∈ s.connections :=
      fun c hc => opened_of_run hr (hcons.mem_clients_iff.mp hc)
    exact Or.inl (foldl_grows (f := fun (s : Switch) (c : Client) => s.close c.connection)
      (s := { s with registry := s.registry.drain.1 }) (fun _ _ => grows_setConnection _)
      (fun _ _ hc => setConnection_grows _ hc) s.registry.clients hopened)
  | apply e =>
    left
    cases e with
    | stats => exact fun _ hid => hid
    | unregister c =>
      show Grows (s.unregister c) s
      unfold unregister
      split <;> exact fun _ hid => hid
    | deliver m =>
      have hopened : ∀ c ∈ s.registry.resolve m.audience, c.connection ∈ s.connections :=
        fun c hc => opened_of_run hr (hcons.mem_resolve_iff.mp hc).1
      exact sendOrEvict_grows (s := s.count _ 1) (hcons.nodup_resolve m.audience) hopened
    | register c =>
      show Grows (s.register c) s
      have hprev : ∀ p, (s.registry.register c).2 = some p → p.connection ∈ s.connections := by
        intro p hp
        rw [Registry.previous_register] at hp
        have hfound : s.registry.byUser[c.user]? = some p := (Option.filter_eq_some_iff.mp hp).1
        refine opened_of_run hr ?_
        rwa [Registry.Registered, hcons.user _ p hfound]
      revert hprev
      unfold register
      split
      · exact fun _ _ hid => hid
      · rcases s.registry.register c with ⟨registry, previous⟩
        intro hprev
        cases previous with
        | none => exact fun _ hid => hid
        | some p => exact setConnection_grows (s := { s with registry := registry }) _ (hprev p rfl)

/-- **A connection that was opened and closed stays closed.** -/
theorem closed_next (h : s.registry.Consistent P) (hc : c ∈ P) (ha : a.Allowed P s)
    (ho : c.connection ∈ s.connections) (hcl : (s.connection c.connection).closed) :
    ((a.next s).connection c.connection).closed := by
  cases hp : a.addressed? c s with
  | some p =>
    have hna : ¬ (s.connection c.connection).accepts := by simp [Connection.accepts, hcl]
    rw [connection_next_of_addressed h hc hp, Connection.deliver_of_not_accepts hna]
  | none =>
    rcases connection_next h hp with ⟨u, rfl, he⟩ | ⟨-, he | he⟩
    · rw [he]
      cases u with
      | connect capacity => exact absurd ho ha
      | abandon => exact hcl
      | close => rfl
      | read => exact Connection.closed_receive.trans hcl
    · rwa [he]
    · rw [he]
      rfl

end Switch
end Switchboard
