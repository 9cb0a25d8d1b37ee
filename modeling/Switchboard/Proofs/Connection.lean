import Switchboard.Connection
import Switchboard.Proofs.Run

/-! # A connection is a bounded queue

Payloads are sent over a connection, and at its other end it is read, closed and given
up, in any order.  What a connection is at the end of a run is told by the acts of the
run alone: whether it has been closed and whether its queue has been given up, which
payloads were queued and which were dropped, and how many of the queued ones have been
read (`Follows`).  Each act keeps that, whatever came before it; so a connection is a
queue of so many places, first in and first out, that drops what comes when it is full,
closed or given up (`bounded_fifo`). -/
namespace Switchboard.Connection

/-- What is done with a connection. -/
inductive Act
  | send (p : Payload)
  | receive
  | close
  | abandon
  deriving DecidableEq

namespace Act

/-- The connection after an act. -/
def next : Act → Connection → Connection
  | send p, c => (c.send p).2
  | receive, c => c.receive.2
  | close, c => c.close
  | abandon, c => c.abandon

/-- The payload that an act sends, if this is what becomes of it. -/
def sent (outcome : SendOutcome) (c : Connection) : Act → List Payload
  | send p => if (c.send p).1 = outcome then [p] else []
  | _ => []

/-- The payload that an act reads. -/
def received (c : Connection) : Act → List Payload
  | receive => payloads c.receive.1
  | _ => []

end Act

/-- Which connection an act leads to. -/
def Move (c : Connection) (a : Act) (d : Connection) : Prop := d = a.next c

/-- The acts of a run, in order. -/
def acts (record : List (Connection × Act)) : List Act := record.map Prod.snd

/-- The payloads that were sent along a run and had this outcome, in order. -/
def sent (outcome : SendOutcome) (record : List (Connection × Act)) : List Payload :=
  observe (fun c a => a.sent outcome c) record

/-- The payloads that were read along a run, in order. -/
def received (record : List (Connection × Act)) : List Payload :=
  observe (fun c a => a.received c) record

variable {c d : Connection} {a : Act} {p : Payload} {capacity : Nat}
  {record record' : List (Connection × Act)} {outcome : SendOutcome}

theorem mem_acts_snoc {b : Act} : b ∈ acts (record ++ [(c, a)]) ↔ b ∈ acts record ∨ b = a := by
  simp [acts]

theorem sent_snoc : sent outcome (record ++ [(c, a)]) = sent outcome record ++ a.sent outcome c :=
  observe_snoc _ record c a

theorem received_snoc : received (record ++ [(c, a)]) = received record ++ a.received c :=
  observe_snoc _ record c a

/-! ## What one act does -/

theorem send_of_accepts (h : c.accepts) :
    c.send p = (.queued, { c with queue := c.queue ++ [p] }) := if_pos h

theorem send_of_not_accepts (h : ¬ c.accepts) :
    c.send p = (.dropped, { c with drops := c.drops + 1 }) := if_neg h

/-- What is sent is dropped for one of three reasons. -/
theorem send_eq_dropped_iff :
    (c.send p).1 = .dropped ↔ c.closed ∨ ¬ c.read ∨ c.places ≤ c.queue.length := by
  have hreasons : ¬ c.accepts ↔ c.closed ∨ ¬ c.read ∨ c.places ≤ c.queue.length := by
    cases hclosed : c.closed <;> cases hread : c.read <;> simp [accepts, hclosed, hread]
  rw [← hreasons]
  by_cases h : c.accepts
  · simp [send_of_accepts h, h]
  · simp [send_of_not_accepts h, h]

@[simp] theorem read_send : (c.send p).2.read = c.read := by
  unfold send; split <;> rfl

@[simp] theorem places_receive : c.receive.2.places = c.places := by
  unfold receive; split <;> rfl

theorem places_next : (a.next c).places = c.places := by
  cases a with
  | send p => exact places_send
  | receive => exact places_receive
  | close | abandon => rfl

/-- A connection is closed by being closed, and stays so. -/
theorem closed_next : (a.next c).closed ↔ c.closed ∨ .close = a := by
  cases a <;> simp [Act.next, abandon]

/-- A queue is held until it is given up. -/
theorem read_next : (a.next c).read ↔ c.read ∧ .abandon ≠ a := by
  cases a <;> simp [Act.next, close, abandon]

theorem drops_next : (a.next c).drops = c.drops + UInt64.ofNat (a.sent .dropped c).length := by
  cases a with
  | send p =>
    by_cases h : c.accepts
    · simp [Act.next, Act.sent, send_of_accepts h]
    · simp [Act.next, Act.sent, send_of_not_accepts h]
  | receive => simp [Act.next, Act.sent]
  | close | abandon => simp [Act.next, Act.sent, close, abandon]

/-- **What is read stands first, and what is queued comes last.** -/
theorem received_append_queue_next (h : (a.next c).read) :
    a.received c ++ (a.next c).queue = c.queue ++ a.sent .queued c := by
  cases a with
  | send p =>
    by_cases hacc : c.accepts
    · simp [Act.next, Act.received, Act.sent, send_of_accepts hacc]
    · simp [Act.next, Act.received, Act.sent, send_of_not_accepts hacc]
  | receive => exact receive_append_queue.trans (List.append_nil _).symm
  | close => exact (List.append_nil _).symm
  | abandon => exact absurd h Bool.false_ne_true

/-- Nothing comes into a queue that has been given up. -/
theorem queue_next_of_not_read (h : ¬ (a.next c).read) (hc : ¬ c.read → c.queue = []) :
    (a.next c).queue = [] := by
  cases a with
  | abandon => rfl
  | close => exact hc h
  | receive =>
    have happend := c.receive_append_queue
    rw [hc (fun hread => h (read_receive.trans hread))] at happend
    exact (List.append_eq_nil_iff.mp happend).2
  | send p =>
    have hn : ¬ c.read := fun hread => h (read_send.trans hread)
    have hacc : ¬ c.accepts := by simp [accepts, hn]
    show (c.send p).2.queue = []
    rw [send_of_not_accepts hacc]
    exact hc hn

theorem length_queue_next (h : c.queue.length ≤ c.places) :
    (a.next c).queue.length ≤ (a.next c).places := by
  rw [places_next]
  cases a with
  | send p => exact length_queue_send h
  | receive =>
    have hlength := congrArg List.length c.receive_append_queue
    rw [List.length_append] at hlength
    exact Nat.le_trans (hlength ▸ Nat.le_add_left _ _) h
  | close => exact h
  | abandon => exact Nat.zero_le _

/-! ## What a run tells of its connection -/

/-- A connection is what the run that led to it says. -/
structure Follows (capacity : Nat) (record : List (Connection × Act)) (c : Connection) :
    Prop where
  places : c.places = max capacity 1
  closed : c.closed ↔ .close ∈ acts record
  read : c.read ↔ .abandon ∉ acts record
  /-- As long as the queue is held, what was read and what stands in it is what was
  queued. -/
  received_append : c.read → received record ++ c.queue = sent .queued record
  queue_of_not_read : ¬ c.read → c.queue = []
  length_le : c.queue.length ≤ c.places
  drops : c.drops = UInt64.ofNat (sent .dropped record).length

theorem Follows.start : Follows capacity [] (ofCapacity capacity) where
  places := rfl
  closed := by simp [ofCapacity, acts]
  read := by simp [ofCapacity, acts]
  received_append _ := rfl
  queue_of_not_read _ := rfl
  length_le := Nat.zero_le _
  drops := rfl

theorem Follows.next (h : Follows capacity record c) (a : Act) :
    Follows capacity (record ++ [(c, a)]) (a.next c) where
  places := places_next.trans h.places
  closed := by rw [closed_next, mem_acts_snoc, h.closed]
  read := by rw [read_next, mem_acts_snoc, h.read, not_or]
  received_append hread := by
    rw [received_snoc, sent_snoc, List.append_assoc, received_append_queue_next hread,
      ← List.append_assoc, h.received_append (read_next.mp hread).1]
  queue_of_not_read hn := queue_next_of_not_read hn h.queue_of_not_read
  length_le := length_queue_next h.length_le
  drops := by rw [drops_next, sent_snoc, List.length_append, h.drops, UInt64.ofNat_add]

/-- **A connection is what every run that leads to it says.** -/
theorem follows_of_run (h : Run Move (ofCapacity capacity) record c) :
    Follows capacity record c := by
  induction h with
  | stay => exact Follows.start
  | @move record c d a _ hm ih =>
    obtain rfl := hm
    exact ih.next a

/-! ## Reading to the end -/

/-- **All that stands in a queue can be read**, in its order, whether the connection is
closed or not. -/
theorem exists_read_out (c : Connection) :
    ∃ record d, Run Move c record d ∧ received record = c.queue ∧ d.queue = [] ∧
      d.closed = c.closed := by
  generalize hqueue : c.queue = waiting
  induction waiting generalizing c with
  | nil => exact ⟨[], c, .stay, rfl, hqueue, rfl⟩
  | cons p waiting ih =>
    have hreceive : c.receive = (.payload p, { c with queue := waiting }) := by
      unfold Connection.receive
      rw [hqueue]
    obtain ⟨record, d, hr, hread, hempty, hclosed⟩ := ih { c with queue := waiting } rfl
    have hfirst : Run Move c [(c, .receive)] { c with queue := waiting } :=
      .move .stay (congrArg Prod.snd hreceive).symm
    refine ⟨_, d, hfirst.append hr, ?_, hempty, hclosed⟩
    have hone : received [(c, Act.receive)] = [p] := by
      simp [received, observe, Act.received, hreceive, payloads]
    rw [← hread, ← List.singleton_append (l := received record), ← hone]
    exact List.flatMap_append

/-- **A connection is a bounded queue.**  At the end of every run over a connection that
was opened with some capacity (`ofCapacity?` says which ones a queue can be made with):
a payload that is sent is dropped if and only if the connection has been closed, its
queue given up, or all its places are taken;
as long as the queue is held, what was read followed by what stands in the queue is what
was queued, in order;
the queue never holds more than its places;
the drops that are counted are the payloads that were dropped;
the connection is closed if and only if it has been closed at some time, and closing it
again changes nothing; what stands in the queue then can still be read, and after that
the end is seen;
and as long as the queue is held, its end is seen exactly when the connection has been
closed and all that was queued has been read. -/
theorem bounded_fifo (h : Run Move (ofCapacity capacity) record c) :
    (∀ p, (c.send p).1 = .dropped ↔
      .close ∈ acts record ∨ .abandon ∈ acts record ∨ max capacity 1 ≤ c.queue.length) ∧
    (.abandon ∉ acts record → received record ++ c.queue = sent .queued record) ∧
    c.queue.length ≤ max capacity 1 ∧
    c.drops.toNat = (sent .dropped record).length % UInt64.size ∧
    (c.closed ↔ .close ∈ acts record) ∧
    (c.closed → ∀ record' d, Run Move c record' d → d.closed) ∧
    c.close.close = c.close ∧
    (∃ record' d, Run Move c.close record' d ∧ received record' = c.queue ∧
      d.receive.1 = .ended) ∧
    (.abandon ∉ acts record →
      (c.receive.1 = .ended ↔ .close ∈ acts record ∧ received record = sent .queued record)) := by
  have hf := follows_of_run h
  refine ⟨fun p => ?_, fun hheld => hf.received_append (hf.read.mpr hheld),
    hf.places ▸ hf.length_le, ?_, hf.closed, fun hclosed record' d hr => ?_, rfl, ?_,
    fun hheld => ?_⟩
  · rw [send_eq_dropped_iff, hf.closed, hf.read, Decidable.not_not, hf.places]
  · rw [hf.drops]
    exact UInt64.toNat_ofNat'
  · have hlater := follows_of_run (h.append hr)
    refine hlater.closed.mpr ?_
    rw [acts, List.map_append]
    exact List.mem_append_left _ (hf.closed.mp hclosed)
  · obtain ⟨record', d, hr, hread, hempty, hclosed⟩ := exists_read_out c.close
    exact ⟨record', d, hr, hread, receive_eq_ended_iff.mpr ⟨hclosed, hempty⟩⟩
  · have happend := hf.received_append (hf.read.mpr hheld)
    rw [receive_eq_ended_iff, hf.closed, ← happend]
    simp

/-- A connection of one place: a payload is queued, the next one dropped, the first one
read, and the connection closed. -/
theorem bounded_fifo_one_place :
    let one : Payload := .ofText "1"
    let two : Payload := .ofText "2"
    let c₁ := (Act.send one).next (ofCapacity 0)
    let c₂ := (Act.send two).next c₁
    let c₃ := Act.receive.next c₂
    let c := Act.close.next c₃
    let record := [(ofCapacity 0, .send one), (c₁, .send two), (c₂, .receive), (c₃, .close)]
    Run Move (ofCapacity 0) record c ∧ (c.send two).1 = .dropped ∧
      received record = [one] ∧ received record ++ c.queue = sent .queued record ∧
      c.drops.toNat = 1 ∧ c.receive.1 = .ended := by
  intro one two c₁ c₂ c₃ c record
  have hr : Run Move (ofCapacity 0) record c :=
    .move (.move (.move (.move .stay rfl) rfl) rfl) rfl
  obtain ⟨hsend, hfifo, -, hdrops, -, -, -, -, hended⟩ := bounded_fifo hr
  have hclosed : .close ∈ acts record := by decide
  have hheld : .abandon ∉ acts record := by decide
  have hread : received record = [one] := by decide +kernel
  have hqueued : sent .queued record = [one] := by decide +kernel
  have hdropped : (sent .dropped record).length = 1 := by decide +kernel
  rw [hdropped] at hdrops
  exact ⟨hr, (hsend two).mpr (Or.inl hclosed), hread, hfifo hheld, hdrops,
    (hended hheld).mpr ⟨hclosed, hread.trans hqueued.symm⟩⟩

end Switchboard.Connection
