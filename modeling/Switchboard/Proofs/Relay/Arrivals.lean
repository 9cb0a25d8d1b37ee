import Switchboard.Proofs.Relay.Submitters

/-! # Where messages come from

What a task takes up was sent from outside: to a read pump by the peer over its
socket, and to a bridge by the publisher over its channel.  In between it waits in
a queue, which is emptied at one end and filled at the other; the relay itself puts
no message into it, since a peer that answers what was written to it answers with
frames that hold none.  So what a task receives is some of what was sent to it, in
the same order (`received_sublist_sent`). -/
namespace Switchboard
open scoped List

/-- The message that a record holds. -/
def Bus.Record.message? (record : Bus.Record) : Option RoutedMessage :=
  (RoutedMessage.ofRecord record.payload).toOption

/-! ## Sockets -/

namespace Socket

variable {k : Socket} {f : Frame}

/-- The messages that wait to be read from a socket. -/
def waiting (k : Socket) : List RoutedMessage := k.arrivals.filterMap Incoming.message?

theorem arrivals_take (k : Socket) : k.take.arrivals = k.arrivals.tail := by
  rcases k with ⟨_ | ⟨i, rest⟩, p | p⟩
  · rfl
  · rfl
  · cases i <;> rfl
  · cases i <;> rfl

/-- What waits first is taken first. -/
theorem waiting_eq {i : Incoming} (hi : k.arrivals.head? = some i) :
    k.waiting = i.message?.toList ++ k.take.waiting := by
  rw [waiting, waiting, arrivals_take]
  obtain ⟨rest, hrest⟩ := List.head?_eq_some_iff.mp hi
  rw [hrest, List.tail_cons, List.filterMap_cons]
  cases i.message? <;> rfl

/-- What a peer answers holds no message. -/
theorem waiting_offer (f : Frame) (k : Socket) : (k.offer f).2.waiting = k.waiting := by
  rcases k with ⟨arrivals, p | p⟩
  · rfl
  · have hnone : (p.offer f).2.2.filterMap Incoming.message? = [] := by
      unfold RemotePeer.offer
      split
      · rfl
      · cases f <;> rfl
    show (arrivals ++ (p.offer f).2.2).filterMap Incoming.message? = _
    rw [List.filterMap_append, hnone, List.append_nil]
    rfl

theorem waiting_finish (k : Socket) : k.finish.2.waiting = k.waiting := by
  rcases k with ⟨arrivals, p | p⟩ <;> rfl

/-- Writing to a socket leaves alone what waits to be read. -/
theorem waiting_writing (acts : List WritePump.Act) (k : Socket) :
    (acts.foldl (fun k x => Relay.onWriting x k) k).waiting = k.waiting :=
  Relay.keeps_writing (I := fun k' => k'.waiting = k.waiting)
    (fun f k' h => (waiting_offer f k').trans h) (fun k' h => (waiting_finish k').trans h) acts rfl

/-- A message that is too long for the socket does not come to wait. -/
theorem waiting_arrive (i : Incoming) (k : Socket) :
    (k.arrive i).waiting <+ k.waiting ++ i.message?.toList := by
  have hput : ∀ i' : Incoming, i'.message? = i.message? ∨ i'.message? = none →
      (k.arrivals ++ [i']).filterMap Incoming.message? <+ k.waiting ++ i.message?.toList := by
    intro i' hi'
    rw [List.filterMap_append, List.filterMap_cons, List.filterMap_nil]
    refine List.Sublist.append_left ?_ _
    rcases hi' with he | he
    · rw [he]
      cases i.message? <;> exact List.Sublist.refl _
    · rw [he]
      exact List.nil_sublist _
  rcases k with ⟨arrivals, p | p⟩
  · cases i <;> exact hput _ (Or.inl rfl)
  · cases i with
    | fault | finished | breakdown => exact hput _ (Or.inl rfl)
    | frame f =>
      refine hput (p.arrival f) ?_
      unfold RemotePeer.arrival
      split
      · split
        · exact Or.inr rfl
        · exact Or.inl rfl
      · exact Or.inl rfl

theorem waiting_setMode (mode : PeerMode) (k : Socket) : (k.setMode mode).waiting = k.waiting := by
  rcases k with ⟨arrivals, p | p⟩ <;> rfl

end Socket

/-- **A read pump takes up what waits first** at its socket. -/
theorem ReadPump.takes_up {p q : ReadPump} {t : Timing} {c : Client} {s : Sight}
    {acts : List Act} {k : Socket} (hk : s.arrival = k.arrivals.head?)
    (h : p.step t c s = some (q, acts)) :
    (p.message? s).toList ++ (acts.foldl (fun k x => Relay.onReading x k) k).waiting <+
      k.waiting := by
  have htake : ∀ i deadline, ¬ s.notices deadline → s.arrival = some i →
      ((reading deadline).message? s).toList ++ k.take.waiting <+ k.waiting := by
    intro i deadline hstays harrival
    have htaken : (reading deadline).message? s = i.message? := by
      rw [message?, if_neg hstays, harrival]
      cases i <;> rfl
    have hwaiting : k.waiting = i.message?.toList ++ k.take.waiting :=
      Socket.waiting_eq (hk ▸ harrival)
    rw [htaken, hwaiting]
  cases step_iff.mp h with
  | message hstays harrival | skip hstays harrival | pong hstays harrival | ping hstays harrival
  | farewell hstays harrival | fault hstays harrival | finished hstays harrival
  | breakdown hstays harrival => exact htake _ _ hstays harrival
  | @notice deadline hnotices =>
    have hnone : (reading deadline).message? s = none := if_pos hnotices
    rw [hnone]
    exact List.Sublist.refl _
  | @timeout deadline hstays harrival =>
    have hnone : (reading deadline).message? s = none := by
      rw [message?, if_neg hstays, harrival]
    rw [hnone]
    exact List.Sublist.refl _
  | submit | refused | depart | vanish => exact List.Sublist.refl _

/-! ## Channels -/

/-- The message that a consumer finds in an item of a channel. -/
def Bus.itemMessage? : Except Bus.Failure Bus.Record → Option RoutedMessage
  | .ok record => record.message?
  | .error _ => none

namespace Bus.Channel

variable {c : Channel}

/-- The messages that wait to be taken from a channel. -/
def waiting (c : Channel) : List RoutedMessage := c.items.filterMap itemMessage?

theorem waiting_take (c : Channel) : c.take.waiting <+ c.waiting :=
  (List.tail_sublist c.items).filterMap _

/-- What waits first is taken first. -/
theorem waiting_eq {record : Record} (hc : c.front? = some (.ok record)) :
    c.waiting = record.message?.toList ++ c.take.waiting := by
  unfold front? at hc
  split at hc
  · next item rest hitems =>
    obtain rfl := Option.some.inj hc
    rw [waiting, waiting, take, hitems, List.tail_cons, List.filterMap_cons, itemMessage?]
    cases record.message? <;> rfl
  · split at hc <;> cases hc

/-- What finds no place does not come to wait. -/
theorem waiting_put (item : Except Failure Record) (c : Channel) :
    (c.put item).2.waiting <+ c.waiting ++ (itemMessage? item).toList := by
  unfold put
  split
  · split
    · show (c.items ++ [item]).filterMap itemMessage? <+ _
      rw [List.filterMap_append, List.filterMap_cons, List.filterMap_nil]
      cases itemMessage? item <;> exact List.Sublist.refl _
    · exact List.sublist_append_left _ _
  · exact List.sublist_append_left _ _

end Bus.Channel

/-- **A bridge takes up what waits first** in its channel. -/
theorem Bridge.takes_up {b b' : Bridge} {s : Sight} {acts : List Act} {pause : Nat}
    {c : Bus.Channel} (hc : s.arrival = c.front?) (h : b.step pause s = some (b', acts)) :
    (b.message? s).toList ++ (acts.foldl (fun c x => Relay.onReceiving x c) c).waiting <+
      c.waiting := by
  have htake : ∀ record, ¬ s.cancelled → s.arrival = some (.ok record) →
      (receiving.message? s).toList ++ c.take.waiting <+ c.waiting := by
    intro record hrunning harrival
    have htaken : receiving.message? s = record.message? := by
      rw [message?, if_neg hrunning, harrival]
      rfl
    have hwaiting : c.waiting = record.message?.toList ++ c.take.waiting :=
      Bus.Channel.waiting_eq (hc ▸ harrival)
    rw [htaken, hwaiting]
  have hfailed : ∀ f, ¬ s.cancelled → s.arrival = some (.error f) →
      receiving.message? s = none := by
    intro f hrunning harrival
    rw [message?, if_neg hrunning, harrival]
  cases step_iff.mp h with
  | message hrunning harrival | skip hrunning harrival => exact htake _ hrunning harrival
  | closed hrunning harrival | fatal hrunning harrival =>
    rw [hfailed _ hrunning harrival]
    exact List.nil_sublist _
  | transient hrunning harrival =>
    rw [hfailed _ hrunning harrival]
    exact c.waiting_take
  | cancel hcancelled =>
    have hnone : receiving.message? s = none := if_pos hcancelled
    rw [hnone]
    exact List.nil_sublist _
  | submit | resume => exact List.Sublist.refl _
  | refused | interrupt => exact List.nil_sublist _

namespace Relay

variable {P : Population} {r r' : Relay} {a : Act} {t : Task} {n : Nat}
  {record : List (Relay × Act)} {settings : Settings}

/-- The messages that wait to be taken up by a task. -/
def waiting (r : Relay) : Task → List RoutedMessage
  | .reader n => (r.sessions[n]?.map fun s => s.socket.waiting).getD []
  | .bridge n => (r.inlets[n]?.map fun i => i.channel.waiting).getD []
  | _ => []

/-- The message that is sent to a task by an act. -/
def Act.sent (t : Task) : Act → List RoutedMessage
  | useSocket n (.arrive i) => if t = .reader n then i.message?.toList else []
  | useInlet n (.publish payload) =>
    if t = .bridge n then (RoutedMessage.ofRecord payload).toOption.toList else []
  | _ => []

/-- **The messages that were sent to a task** along a run, in order: to a read pump
by its peer, and to a bridge by its publisher. -/
def sent (t : Task) (record : List (Relay × Act)) : List RoutedMessage :=
  observe (fun _ a => a.sent t) record

/-- What waits at a socket does so until the read pump takes it up. -/
theorem waiting_reader_of_move (hq : r.Joined) (hm : Move P r a r') (ha : a ≠ .step (.reader n)) :
    r'.waiting (.reader n) <+ r.waiting (.reader n) ++ a.sent (.reader n) := by
  rw [waiting, waiting]
  cases hs' : r'.sessions[n]? with
  | none => exact List.nil_sublist _
  | some s' =>
    rcases session_of_move hq hm hs' with ⟨s, hs, ht⟩ | ⟨identity, socket, rfl, -, rfl⟩
    · rw [hs]
      have hsame : s'.socket.waiting = s.socket.waiting →
          s'.socket.waiting <+ s.socket.waiting ++ a.sent (.reader n) :=
        fun he => he ▸ List.sublist_append_left _ _
      cases ht with
      | read => exact absurd rfl ha
      | @write p q acts hp hstep => exact hsame (Socket.waiting_writing acts s.socket)
      | keep hstep =>
        cases Session.step_iff.mp hstep with
        | register | refuse | finish => exact hsame rfl
      | still => exact hsame rfl
      | peer u =>
        cases u with
        | setMode mode => exact hsame (Socket.waiting_setMode mode s.socket)
        | arrive i =>
          have hsent : (Act.useSocket n (.arrive i)).sent (.reader n) = i.message?.toList :=
            if_pos rfl
          rw [hsent]
          exact Socket.waiting_arrive i s.socket
    · -- at a fresh socket nothing waits
      obtain ⟨⟨-, -, hsocket⟩, -⟩ := hm
      cases hsocket <;> exact List.nil_sublist _

/-- What waits in a channel does so until the bridge takes it up. -/
theorem waiting_bridge_of_move (hm : Move P r a r') (ha : a ≠ .step (.bridge n)) :
    r'.waiting (.bridge n) <+ r.waiting (.bridge n) ++ a.sent (.bridge n) := by
  rw [waiting, waiting]
  cases hi' : r'.inlets[n]? with
  | none => exact List.nil_sublist _
  | some i' =>
    rcases inlet_of_move hm hi' with ⟨i, hi, hpass⟩ | ⟨topic, capacity, pause, -, -, rfl⟩
    · rw [hi]
      cases hpass with
      | receive => exact absurd rfl ha
      | still => exact List.sublist_append_left _ _
      | outside u =>
        cases u with
        | publish payload =>
          have hsent : (Act.useInlet n (.publish payload)).sent (.bridge n) =
              (RoutedMessage.ofRecord payload).toOption.toList := if_pos rfl
          rw [hsent]
          exact Bus.Channel.waiting_put _ _
        | fail f => exact Bus.Channel.waiting_put (.error f) i.channel
        | dropPublisher | cancel => exact List.sublist_append_left _ _
    · exact List.nil_sublist _

/-- **What a task takes up waited for it**, and what waits was sent to it. -/
theorem received_append_waiting (hq : r.Joined) (hm : Move P r a r') (t : Task) :
    a.received t r ++ r'.waiting t <+ r.waiting t ++ a.sent t := by
  by_cases ha : a = .step t
  · subst ha
    have hreceived : (Act.step t).received t r = (r.message? t).toList := if_pos rfl
    have hsent : (Act.step t).sent t = [] := rfl
    rw [hreceived, hsent, List.append_nil]
    cases t with
    | hub | session | writer => exact List.nil_sublist _
    | reader n =>
      obtain ⟨s, p, q, acts, hs, hp, hdo, hsessions⟩ := sessions_stepReader (move_step_iff.mp hm)
      have htaken : r.message? (.reader n) = p.message? (r.readSight s) := by
        simp [message?, hs, hp]
      have hbefore : r.waiting (.reader n) = s.socket.waiting := by simp [waiting, hs]
      have hafter : r'.waiting (.reader n) =
          (acts.foldl (fun k x => onReading x k) s.socket).waiting := by
        simp [waiting, hsessions, hs]
      rw [htaken, hbefore, hafter]
      exact ReadPump.takes_up rfl hdo
    | bridge n =>
      obtain ⟨i, b, acts, hi, hdo, hinlets⟩ := inlets_stepBridge (move_step_iff.mp hm)
      have htaken : r.message? (.bridge n) = i.bridge.message? (r.bridgeSight i) := by
        simp [message?, hi]
      have hbefore : r.waiting (.bridge n) = i.channel.waiting := by simp [waiting, hi]
      have hafter : r'.waiting (.bridge n) =
          (acts.foldl (fun c x => onReceiving x c) i.channel).waiting := by
        simp [waiting, hinlets, hi]
      rw [htaken, hbefore, hafter]
      exact Bridge.takes_up rfl hdo
  · rw [received_of_ne ha, List.nil_append]
    cases t with
    | hub | session | writer => exact List.nil_sublist _
    | reader n => exact waiting_reader_of_move hq hm ha
    | bridge n => exact waiting_bridge_of_move hm ha

/-- **What a task receives is some of what was sent to it**, in the same order. -/
theorem received_sublist_sent (hr : Run (Move P) (.start settings) record r) (t : Task) :
    received t record <+ sent t record := by
  refine hr.observe_sublist (fun r => r.waiting t) ?_ fun record r a r' hbefore hm =>
    received_append_waiting (run_hub hbefore).2.joined hm t
  cases t <;> rfl

end Relay
end Switchboard
