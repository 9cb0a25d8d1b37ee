import Switchboard.Proofs.Switch.Acts

/-! # Delivery without gaps

A run shows three sequences of payloads for every client: those that were
addressed to it, those that were put at the end of its queue, and those that
were read from it.  `Kept` says how the three stand to each other at every
moment: what was queued is what was addressed, until one payload finds no place.
That payload is the last one; with it the client is put out, and stays out
(`PutOut`). -/
namespace Switchboard
namespace Switch

variable {P : Population} {s t : Switch} {a : Act} {c : Client} {id : ConnectionId}
  {record record' : List (Switch × Act)}

/-- The payloads that an act puts at the end of the queue of a connection. -/
def Act.queued (id : ConnectionId) (s : Switch) (a : Act) : List Payload :=
  ((a.next s).connection id).queue.drop (s.connection id).queue.length

/-- The payloads that an act reads from the queue of a connection. -/
def Act.readOut (id : ConnectionId) (s : Switch) : Act → List Payload
  | use other .read => if other = id then Connection.payloads (s.receive id).1 else []
  | _ => []

/-- The payloads that were addressed to a client along a run. -/
def addressed (c : Client) (record : List (Switch × Act)) : List Payload :=
  observe (fun s a => (a.addressed? c s).toList) record

/-- The payloads that were queued for a client along a run. -/
def queued (c : Client) (record : List (Switch × Act)) : List Payload :=
  observe (Act.queued c.connection) record

/-- The payloads that were read from the queue of a client along a run. -/
def readOut (c : Client) (record : List (Switch × Act)) : List Payload :=
  observe (Act.readOut c.connection) record

theorem addressed_snoc : addressed c (record ++ [(s, a)]) =
    addressed c record ++ (a.addressed? c s).toList :=
  observe_snoc _ record s a

theorem queued_snoc : queued c (record ++ [(s, a)]) =
    queued c record ++ a.queued c.connection s :=
  observe_snoc _ record s a

theorem readOut_snoc : readOut c (record ++ [(s, a)]) =
    readOut c record ++ a.readOut c.connection s :=
  observe_snoc _ record s a

/-! ## Who is out stays out -/

/-- A client is out: not registered, and its connection is closed. -/
structure PutOut (c : Client) (s : Switch) : Prop where
  opened : c.connection ∈ s.connections
  closed : (s.connection c.connection).closed
  unregistered : ¬ s.registry.Registered c

theorem PutOut.next (h : s.registry.Reachable P) (hc : c ∈ P) (ha : a.Allowed P s)
    (ho : PutOut c s) : PutOut c (a.next s) where
  opened := grows_next c.connection ho.opened
  closed := closed_next h.consistent hc ha ho.opened ho.closed
  unregistered := by
    intro hreg
    rcases registered_of_next h ha hreg with hbefore | ⟨-, hopen⟩
    · exact ho.unregistered hbefore
    · exact hopen ho.closed

/-- Nothing is ever resolved to a client again that is out. -/
theorem PutOut.not_mem_resolve (h : s.registry.Reachable P) (hc : c ∈ P) (ho : PutOut c s)
    (hr : Run (Move P) s record t) (audience : Audience) :
    c ∉ t.registry.resolve audience := by
  have hkept : t.registry.Reachable P ∧ PutOut c t := by
    refine hr.invariant (I := fun s => s.registry.Reachable P ∧ PutOut c s) ?_ ⟨h, ho⟩
    rintro s a t ⟨h, ho⟩ ⟨ha, rfl⟩
    exact ⟨reachable_next h ha, ho.next h hc ha⟩
  intro hin
  exact hkept.2.unregistered (hkept.1.consistent.mem_resolve_iff.mp hin).1

/-! ## What acts do to a queue that they do not deliver to -/

/-- Only a delivery counts drops. -/
theorem drops_next (h : s.registry.Consistent P) (ha : a.Allowed P s)
    (hp : a.addressed? c s = none) :
    ((a.next s).connection c.connection).drops = (s.connection c.connection).drops := by
  rcases connection_next h hp with ⟨u, rfl, he⟩ | ⟨-, he | he⟩
  · rw [he]
    cases u with
    | connect capacity =>
      rw [connection_of_not_mem ha]
      rfl
    | abandon | close => rfl
    | read => exact Connection.drops_receive
  · rw [he]
  · rw [he]
    rfl

/-- Only a delivery puts anything into a queue. -/
theorem queued_of_not_addressed (h : s.registry.Consistent P)
    (hp : a.addressed? c s = none) : a.queued c.connection s = [] := by
  refine List.drop_eq_nil_of_le ?_
  rcases connection_next h hp with ⟨u, rfl, he⟩ | ⟨-, he | he⟩
  · rw [he]
    cases u with
    | connect capacity | abandon => exact Nat.zero_le _
    | close => exact Nat.le_refl _
    | read =>
      have hq := congrArg List.length (s.connection c.connection).receive_append_queue
      rw [List.length_append] at hq
      exact hq ▸ Nat.le_add_left _ _
  · exact Nat.le_of_eq (by rw [he])
  · exact Nat.le_of_eq (by rw [he]; rfl)

/-- **What is read, followed by what is left, is what stood in the queue**, at
every act but the opening of the connection and deliveries. -/
theorem readOut_append_queue (h : s.registry.Consistent P) (ha : a.Allowed P s)
    (hp : a.addressed? c s = none) (hr : ((a.next s).connection c.connection).read) :
    c.connection ∉ s.connections ∧ a.readOut c.connection s = [] ∧
        ((a.next s).connection c.connection).queue = [] ∨
      (s.connection c.connection).read ∧
        a.readOut c.connection s ++ ((a.next s).connection c.connection).queue =
          (s.connection c.connection).queue := by
  rcases connection_next h hp with ⟨u, rfl, he⟩ | ⟨hu, he⟩
  · rw [he] at hr ⊢
    cases u with
    | connect capacity => exact Or.inl ⟨ha, rfl, rfl⟩
    | abandon => exact absurd hr Bool.false_ne_true
    | close => exact Or.inr ⟨hr, rfl⟩
    | read =>
      refine Or.inr ⟨Connection.read_receive ▸ hr, ?_⟩
      rw [Act.readOut, if_pos rfl]
      exact Connection.receive_append_queue
  · have hread : a.readOut c.connection s = [] := by
      unfold Act.readOut
      split
      · next other => exact if_neg fun he => hu .read (by rw [he])
      · rfl
    right
    rw [hread]
    rcases he with he | he
    · rw [he] at hr ⊢
      exact ⟨hr, rfl⟩
    · rw [he] at hr ⊢
      exact ⟨hr, rfl⟩

/-- What has never been opened is not read from. -/
theorem readOut_of_not_mem (ha : a.Allowed P s) (h : id ∉ s.connections) :
    a.readOut id s = [] := by
  cases a with
  | apply e | shutDown => rfl
  | use other u =>
    cases u with
    | connect capacity | abandon | close => rfl
    | read =>
      rw [Act.readOut, if_neg]
      rintro rfl
      exact h ha

/-! ## The three sequences -/

/-- How the sequences of a client stand to each other. -/
structure Kept (c : Client) (record : List (Switch × Act)) (s : Switch) : Prop where
  /-- Before the connection is opened, nothing has been queued or read. -/
  unopened : c.connection ∉ s.connections → queued c record = [] ∧ readOut c record = []
  /-- What was queued is what was addressed, or all of it but the last payload,
  and with that one the client was put out. -/
  sent : queued c record = addressed c record ∧ (s.connection c.connection).drops = 0 ∨
    (∃ p, addressed c record = queued c record ++ [p]) ∧ PutOut c s ∧
      (s.connection c.connection).drops = 1
  /-- What was read, followed by what stands in the queue, is what was queued. -/
  readOut_append : (s.connection c.connection).read →
    readOut c record ++ (s.connection c.connection).queue = queued c record

theorem Kept.start : Kept c [] ∅ where
  unopened := fun _ => ⟨rfl, rfl⟩
  sent := Or.inl ⟨rfl, rfl⟩
  readOut_append := fun h => absurd h Bool.false_ne_true

/-- An act that addresses a payload to the client queues it, or puts the client
out. -/
theorem Kept.deliver (h : Kept c record s) (hr : Run (Move P) ∅ record s) (hc : c ∈ P) {p : Payload}
    (hp : a.addressed? c s = some p) : Kept c (record ++ [(s, a)]) (a.next s) := by
  have hreach := reachable_of_run hr .empty
  have hcon := connection_next_of_addressed hreach.consistent hc hp
  have haddr : addressed c (record ++ [(s, a)]) = addressed c record ++ [p] := by
    rw [addressed_snoc, hp]
    rfl
  obtain ⟨m, rfl, hin, rfl⟩ := (addressed?_eq_some_iff hreach.consistent hc).mp hp
  have hreg : s.registry.Registered c := (hreach.consistent.mem_resolve_iff.mp hin).1
  have hopened : c.connection ∈ (s.deliver m).connections :=
    grows_next (a := .apply (.deliver m)) c.connection (opened_of_run hr hreg)
  have hread : readOut c (record ++ [(s, .apply (.deliver m))]) = readOut c record := by
    rw [readOut_snoc]
    exact List.append_nil _
  -- who is out is not registered, so nothing was dropped before
  obtain ⟨hsent, hdrops⟩ := h.sent.resolve_right fun hcut => hcut.2.1.unregistered hreg
  by_cases hacc : (s.connection c.connection).accepts
  · rw [Connection.deliver_of_accepts hacc] at hcon
    have hqueued : queued c (record ++ [(s, .apply (.deliver m))]) =
        queued c record ++ [m.payload] := by
      rw [queued_snoc, Act.queued, hcon, List.drop_left]
    refine ⟨fun hn => absurd hopened hn, ?_, ?_⟩
    · left
      rw [hqueued, haddr, hsent, hcon]
      exact ⟨rfl, hdrops⟩
    · rw [hqueued, hread, hcon, ← List.append_assoc]
      exact fun hr => congrArg (· ++ [m.payload]) (h.readOut_append hr)
  · rw [Connection.deliver_of_not_accepts hacc] at hcon
    have hqueued : queued c (record ++ [(s, .apply (.deliver m))]) = queued c record := by
      rw [queued_snoc, Act.queued, hcon, List.drop_length, List.append_nil]
    have hout : PutOut c (s.deliver m) := by
      refine ⟨hopened, ?_, fun hafter => ?_⟩
      · exact congrArg Connection.closed hcon
      · exact ((registered_deliver hreach).mp hafter).2 (mem_missed_iff.mpr ⟨hin, hacc⟩)
    refine ⟨fun hn => absurd hopened hn, ?_, ?_⟩
    · right
      rw [hqueued, haddr, hsent, hcon, hdrops]
      exact ⟨⟨_, rfl⟩, hout, rfl⟩
    · rw [hqueued, hread, hcon]
      exact h.readOut_append

/-- An act that addresses nothing to the client queues nothing for it. -/
theorem Kept.skip (h : Kept c record s) (hreach : s.registry.Reachable P) (hc : c ∈ P)
    (ha : a.Allowed P s) (hp : a.addressed? c s = none) :
    Kept c (record ++ [(s, a)]) (a.next s) := by
  have hcons := hreach.consistent
  have haddr : addressed c (record ++ [(s, a)]) = addressed c record := by
    rw [addressed_snoc, hp]
    exact List.append_nil _
  have hqueued : queued c (record ++ [(s, a)]) = queued c record := by
    rw [queued_snoc, queued_of_not_addressed hcons hp, List.append_nil]
  refine ⟨?_, ?_, ?_⟩
  · intro hmem
    have hbefore : c.connection ∉ s.connections := fun hin => hmem (grows_next _ hin)
    rw [hqueued, readOut_snoc, readOut_of_not_mem ha hbefore, List.append_nil]
    exact h.unopened hbefore
  · rw [haddr, hqueued, drops_next hcons ha hp]
    rcases h.sent with hall | ⟨hcut, hout, hdrops⟩
    · exact Or.inl hall
    · exact Or.inr ⟨hcut, hout.next hreach hc ha, hdrops⟩
  · intro hr
    rw [hqueued, readOut_snoc]
    rcases readOut_append_queue hcons ha hp hr with ⟨hmem, hnone, hempty⟩ | ⟨hr, happend⟩
    · rw [hnone, hempty, (h.unopened hmem).1, (h.unopened hmem).2]
      rfl
    · rw [List.append_assoc, happend]
      exact h.readOut_append hr

/-- **The three sequences stand to each other as they should, at the end of
every run.** -/
theorem kept_of_run (hr : Run (Move P) ∅ record s) (hc : c ∈ P) : Kept c record s := by
  induction hr with
  | stay => exact Kept.start
  | @move record s t a hbefore hm ih =>
    obtain ⟨ha, rfl⟩ := hm
    cases hp : a.addressed? c s with
    | some p => exact ih.deliver hbefore hc hp
    | none => exact ih.skip (reachable_of_run hbefore .empty) hc ha hp

/-- A queue that nobody reads is empty. -/
theorem queue_of_not_read (hr : Run (Move P) ∅ record s) (hc : c ∈ P)
    (hn : ¬ (s.connection c.connection).read) : (s.connection c.connection).queue = [] := by
  induction hr with
  | stay => rfl
  | @move record s t a hbefore hm ih =>
    obtain ⟨ha, rfl⟩ := hm
    have hcons := (reachable_of_run hbefore .empty).consistent
    cases hp : a.addressed? c s with
    | some p =>
      rw [connection_next_of_addressed hcons hc hp] at hn ⊢
      by_cases hacc : (s.connection c.connection).accepts
      · rw [Connection.deliver_of_accepts hacc] at hn
        simp only [Connection.accepts, Bool.and_eq_true] at hacc
        exact absurd hacc.1.2 hn
      · rw [Connection.deliver_of_not_accepts hacc] at hn ⊢
        exact ih hn
    | none =>
      rcases connection_next hcons hp with ⟨u, rfl, he⟩ | ⟨-, he | he⟩
      · rw [he] at hn ⊢
        cases u with
        | connect | abandon => rfl
        | close => exact ih hn
        | read =>
          have hempty := ih (Connection.read_receive ▸ hn)
          have happend := (s.connection c.connection).receive_append_queue
          rw [hempty] at happend
          exact (List.append_eq_nil_iff.mp happend).2
      · rw [he] at hn ⊢
        exact ih hn
      · rw [he] at hn ⊢
        exact ih hn

/-- **What is read is the first of what is queued**, whether the queue is still
read or not. -/
theorem readOut_begins_queued (hr : Run (Move P) ∅ record s) (hc : c ∈ P) :
    readOut c record <+: queued c record := by
  induction hr with
  | stay => exact List.prefix_rfl
  | @move record s t a hbefore hm ih =>
    by_cases hread : (t.connection c.connection).read
    · exact ⟨_, (kept_of_run (hbefore.move hm) hc).readOut_append hread⟩
    · -- a queue that nobody reads has nothing that could be read out
      have hnone : a.readOut c.connection s = [] := by
        cases a with
        | apply | shutDown => rfl
        | use id u =>
          cases u with
          | connect | abandon | close => rfl
          | read =>
            rw [Act.readOut]
            split
            · next hid =>
              obtain ⟨-, rfl⟩ := hm
              subst hid
              have hcon : ((Act.use c.connection .read).next s).connection c.connection =
                  (s.connection c.connection).receive.2 :=
                (connection_use .read c.connection).trans (if_pos rfl)
              rw [hcon, Connection.read_receive] at hread
              have happend := (s.connection c.connection).receive_append_queue
              rw [queue_of_not_read hbefore hc hread] at happend
              exact (List.append_eq_nil_iff.mp happend).1
            · rfl
      rw [readOut_snoc, queued_snoc, hnone, List.append_nil]
      exact ih.trans (List.prefix_append _ _)

/-- **What is read is the first of what is addressed.** -/
theorem readOut_begins_addressed (hr : Run (Move P) ∅ record s) (hc : c ∈ P) :
    readOut c record <+: addressed c record := by
  refine (readOut_begins_queued hr hc).trans ?_
  rcases (kept_of_run hr hc).sent with ⟨hall, -⟩ | ⟨⟨p, hcut⟩, -⟩
  · exact hall ▸ List.prefix_rfl
  · exact ⟨[p], hcut.symm⟩

/-- **Delivery has no gaps.**  Along every run, what was queued for a client is
what was addressed to it, or all of that but the last payload; and then the
client's connection is closed, no index knows the client, and no message is ever
resolved to it again.  As long as the queue is read from, what was read followed
by what stands in it is what was queued.  No client has more than one payload
dropped. -/
theorem delivered_without_gaps (hr : Run (Move P) ∅ record s) (hc : c ∈ P) :
    (queued c record = addressed c record ∨
      (∃ p, addressed c record = queued c record ++ [p]) ∧
        (s.connection c.connection).closed ∧ s.registry.Absent c ∧
        ∀ record' t, Run (Move P) s record' t →
          ∀ audience, c ∉ t.registry.resolve audience) ∧
    ((s.connection c.connection).read →
      readOut c record ++ (s.connection c.connection).queue = queued c record) ∧
    (s.connection c.connection).drops ≤ 1 := by
  have h := kept_of_run hr hc
  have hreach := reachable_of_run hr .empty
  refine ⟨?_, h.readOut_append, ?_⟩
  · rcases h.sent with ⟨hall, -⟩ | ⟨hcut, hout, -⟩
    · exact Or.inl hall
    · refine Or.inr ⟨hcut, hout.closed, hreach.consistent.absent hc hout.unregistered, ?_⟩
      exact fun record' t hr' audience => hout.not_mem_resolve hreach hc hr' audience
  · rcases h.sent with ⟨-, hdrops⟩ | ⟨-, -, hdrops⟩
    · rw [hdrops]
      decide
    · rw [hdrops]
      decide

/-- Anna has one place and reads nothing: the first payload is queued, and with
the second she is put out. -/
theorem delivered_without_gaps_eviction :
    let anna : Client := ⟨⟨1⟩, .ofParts "anna" "acme" []⟩
    let P := Population.ofIdentities fun _ => anna.identity
    let opening : Act := .use anna.connection (.connect 1)
    let coming : Act := .apply (.register anna)
    let sending (text : String) : Act := .apply (.broadcast (.ofText text))
    let s₁ := opening.next ∅
    let s₂ := coming.next s₁
    let s₃ := (sending "one").next s₂
    let s₄ := (sending "two").next s₃
    let record := [(∅, opening), (s₁, coming), (s₂, sending "one"), (s₃, sending "two")]
    Run (Move P) ∅ record s₄ ∧
      (∃ p, addressed anna record = queued anna record ++ [p]) ∧
      (s₄.connection anna.connection).closed ∧
      ∀ audience, anna ∉ s₄.registry.resolve audience := by
  intro anna P opening coming sending s₁ s₂ s₃ s₄ record
  have hopening : opening.Allowed P ∅ := Std.ExtTreeMap.not_mem_empty
  have hopened : Run (Move P) ∅ [(∅, opening)] s₁ := .move .stay ⟨hopening, rfl⟩
  have hcame : Run (Move P) ∅ [(∅, opening), (s₁, coming)] s₂ := .move hopened ⟨rfl, rfl⟩
  have hone : Run (Move P) ∅ [(∅, opening), (s₁, coming), (s₂, sending "one")] s₃ :=
    .move hcame ⟨trivial, rfl⟩
  have hr : Run (Move P) ∅ record s₄ := .move hone ⟨trivial, rfl⟩
  obtain ⟨hsent, -, -⟩ := delivered_without_gaps hr rfl
  have hne : queued anna record ≠ addressed anna record := by decide +kernel
  obtain ⟨hcut, hclosed, -, hnever⟩ := hsent.resolve_left hne
  exact ⟨hr, hcut, hclosed, hnever [] s₄ .stay⟩

end Switch
end Switchboard
