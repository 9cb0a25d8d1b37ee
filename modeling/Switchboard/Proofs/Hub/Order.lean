import Switchboard.Proofs.Hub.Stopping
import Switchboard.Proofs.Switch.GapFree

/-! # The order of events

A hub applies events in the order in which they were submitted: what was applied,
followed by what waits, is what was submitted (`fifo`), and a hub that stops
leaves the rest undone.  So the event that is applied as the n-th is the one that
was submitted as the n-th.

What is read from the queue of a client is the first of what was delivered to it
(`readOut_begins_delivered`). -/
namespace Switchboard

/-- The message that is to be delivered. -/
def Event.message? : Event → Option RoutedMessage
  | deliver m => some m
  | _ => none

/-- The message that is to be delivered to a client, among others. -/
def Event.messageFor? (c : Client) (s : Switch) : Event → Option RoutedMessage
  | deliver m =>
    if c.connection ∈ (s.registry.resolve m.audience).map Client.connection then some m else none
  | _ => none

namespace Hub

variable {P : Population} {capacity : Nat} {h h' : Hub} {a : Act} {c : Client} {e : Event}
  {record : List (Hub × Act)} {acts : List Act}

/-- The event that an act submits. -/
def Act.event? : Act → Option Event
  | submit e => some e
  | _ => none

/-- The event that an act applies. -/
def Act.applied? (h : Hub) : Act → Option Event
  | work => h.next?
  | _ => none

/-- The events that were submitted along a run. -/
def submitted (record : List (Hub × Act)) : List Event :=
  observe (fun _ a => a.event?.toList) record

/-- The events that were applied along a run. -/
def applied (record : List (Hub × Act)) : List Event :=
  observe (fun h a => (a.applied? h).toList) record

/-- The events that were applied along a run, each with the hub that did it. -/
def works (record : List (Hub × Act)) : List (Hub × Event) :=
  observe (fun h a => ((a.applied? h).map (Prod.mk h)).toList) record

/-- The messages that were delivered to a client along a run. -/
def delivered (c : Client) (record : List (Hub × Act)) : List RoutedMessage :=
  observe (fun h a => ((a.applied? h).bind (Event.messageFor? c h.switch)).toList) record

/-- **First in, first out.**  What was applied, followed by what waits, is what
was submitted; after the hub has stopped, what was applied is the first of it. -/
theorem fifo (hr : Run (Move P) (.ofCapacity capacity) record h) :
    applied record ++ h.mailbox = submitted record ∨
      h.stopped ∧ applied record <+: submitted record := by
  induction hr with
  | stay => exact Or.inl rfl
  | @move record h h' a hbefore hm ih =>
    have happlied : applied (record ++ [(h, a)]) = applied record ++ (a.applied? h).toList :=
      observe_snoc _ record h a
    have hsubmitted : submitted (record ++ [(h, a)]) = submitted record ++ a.event?.toList :=
      observe_snoc _ record h a
    rw [happlied, hsubmitted]
    cases a with
    | submit e =>
      obtain ⟨hadmitted, -, -, -, rfl⟩ := hm
      have hall := ih.resolve_right fun hs => not_stopped_of_admitted hadmitted hs.1
      left
      show applied record ++ [] ++ (h.mailbox ++ [e]) = submitted record ++ [e]
      rw [List.append_nil, ← List.append_assoc, hall]
    | work =>
      have hall := ih.resolve_right fun hs => not_stopped_of_step hm hs.1
      show applied record ++ h.next?.toList ++ h'.mailbox = submitted record ++ [] ∨
        h'.stopped ∧ applied record ++ h.next?.toList <+: submitted record ++ []
      rw [List.append_nil]
      rcases step_eq_some hm with ⟨e, rest, hnext, hbox, rfl⟩ | ⟨hnext, rfl⟩
      · left
        rw [hnext, ← hall, hbox]
        simp
      · -- what still waited is given up
        right
        rw [hnext, ← hall]
        exact ⟨rfl, (List.append_nil _).symm ▸ List.prefix_append _ _⟩
    | askStop | abandon =>
      obtain rfl := hm
      show applied record ++ [] ++ h.mailbox = submitted record ++ [] ∨
        h.stopped ∧ applied record ++ [] <+: submitted record ++ []
      rwa [List.append_nil, List.append_nil]
    | use id u =>
      obtain ⟨-, rfl⟩ := hm
      show applied record ++ [] ++ h.mailbox = submitted record ++ [] ∨
        h.stopped ∧ applied record ++ [] <+: submitted record ++ []
      rwa [List.append_nil, List.append_nil]

theorem applied_begins_submitted (hr : Run (Move P) (.ofCapacity capacity) record h) :
    applied record <+: submitted record := by
  rcases fifo hr with hall | ⟨-, hbegins⟩
  · exact ⟨h.mailbox, hall⟩
  · exact hbegins

theorem map_snd_works : (works record).map Prod.snd = applied record := by
  rw [works, applied, observe, observe, List.map_flatMap]
  congr 1
  funext m
  obtain ⟨h, a⟩ := m
  show (((a.applied? h).map (Prod.mk h)).toList).map Prod.snd = (a.applied? h).toList
  cases a.applied? h <;> rfl

/-- What was delivered to a client are the messages for it among what was
applied. -/
theorem delivered_eq : delivered c record =
    (works record).filterMap fun w => Event.messageFor? c w.1.switch w.2 := by
  rw [works, delivered, observe, observe, List.filterMap_flatMap]
  congr 1
  funext m
  obtain ⟨h, a⟩ := m
  show ((a.applied? h).bind (Event.messageFor? c h.switch)).toList =
    (((a.applied? h).map (Prod.mk h)).toList).filterMap fun w => Event.messageFor? c w.1.switch w.2
  cases a.applied? h with
  | none => rfl
  | some e =>
    show (Event.messageFor? c h.switch e).toList = [(h, e)].filterMap _
    rw [List.filterMap_cons, List.filterMap_nil]
    cases Event.messageFor? c h.switch e <;> rfl

/-- A message for a client is a message. -/
theorem message?_of_messageFor? {s : Switch} {m : RoutedMessage}
    (hm : Event.messageFor? c s e = some m) : e.message? = some m := by
  cases e with
  | register | unregister | stats => cases hm
  | deliver m' =>
    rw [Event.messageFor?] at hm
    split at hm
    · exact hm
    · cases hm

/-- **Whoever a message is delivered to, it was resolved to**, when it was
applied. -/
theorem exists_of_mem_delivered (hr : Run (Move P) (.ofCapacity capacity) record h) (hc : c ∈ P)
    {m : RoutedMessage} (hm : m ∈ delivered c record) :
    ∃ g, (g, Act.work) ∈ record ∧ g.next? = some (.deliver m) ∧
      c ∈ g.switch.registry.resolve m.audience := by
  obtain ⟨⟨g, a⟩, hin, hshown⟩ := List.mem_flatMap.mp hm
  obtain ⟨e, he, hfor⟩ := Option.bind_eq_some_iff.mp (Option.mem_toList.mp hshown)
  cases a with
  | submit | askStop | abandon | use => cases he
  | work =>
    cases e with
    | register | unregister | stats => cases hfor
    | deliver m' =>
      rw [Event.messageFor?] at hfor
      split at hfor
      · next htarget =>
        cases hfor
        obtain ⟨before, hbefore, -⟩ := hr.of_mem hin
        have hcons := (Switch.reachable_of_run (run_switch hbefore) .empty).consistent
        exact ⟨g, hin, he, (Switch.connection_mem_targets_iff hcons hc).mp htarget⟩
      · cases hfor

/-! ## What the switch of the hub shows -/

theorem observe_switchRecord {Shown : Type} (sight : Switch → Switch.Act → List Shown) :
    observe sight (switchRecord record) =
      observe (fun h a => (a.onSwitch h).toList.flatMap (sight h.switch)) record := by
  rw [switchRecord, observe, observe, observe, List.flatMap_assoc]
  congr 1
  funext m
  cases m.2.onSwitch m.1 <;> rfl

/-- What is addressed to a client are the payloads of the messages that are
delivered to it. -/
theorem addressed_switchRecord :
    Switch.addressed c (switchRecord record) = (delivered c record).map RoutedMessage.payload := by
  rw [Switch.addressed, observe_switchRecord, delivered, observe, observe, List.map_flatMap]
  congr 1
  funext m
  obtain ⟨h, a⟩ := m
  cases a with
  | submit | askStop | abandon | use => rfl
  | work =>
    show (Act.onSwitch h .work).toList.flatMap (fun b => (b.addressed? c h.switch).toList) =
      ((h.next?.bind (Event.messageFor? c h.switch)).toList).map RoutedMessage.payload
    rw [Act.onSwitch]
    cases h.next? with
    | none => rfl
    | some e =>
      cases e with
      | register | unregister | stats => rfl
      | deliver m =>
        simp only [Option.map_some, Option.getD_some, Option.toList_some, List.flatMap_cons,
          List.flatMap_nil, List.append_nil, Switch.Act.addressed?, Option.bind_some,
          Event.messageFor?]
        split <;> rfl

/-- The payloads that an act reads from the queue of a connection. -/
def Act.readOut (id : ConnectionId) (h : Hub) : Act → List Payload
  | use other .read => if other = id then Connection.payloads (h.switch.receive id).1 else []
  | _ => []

/-- The payloads that were read from the queue of a client along a run. -/
def readOut (c : Client) (record : List (Hub × Act)) : List Payload :=
  observe (fun h a => a.readOut c.connection h) record

theorem readOut_switchRecord : Switch.readOut c (switchRecord record) = readOut c record := by
  rw [Switch.readOut, observe_switchRecord, readOut]
  congr 1
  funext h a
  cases a with
  | submit | askStop | abandon => rfl
  | work =>
    show (Act.onSwitch h .work).toList.flatMap _ = []
    rw [Act.onSwitch]
    cases h.next? <;> rfl
  | use id u =>
    show Switch.Act.readOut c.connection h.switch (.use id u) ++ [] = _
    rw [List.append_nil]
    cases u with
    | connect | abandon | close => rfl
    | read =>
      rfl

theorem readOut_append (record more : List (Hub × Act)) :
    readOut c (record ++ more) = readOut c record ++ readOut c more :=
  List.flatMap_append

/-- Acts that do not read from a client's queue read nothing out. -/
theorem readOut_trail_eq_nil (hn : .use c.connection .read ∉ acts) :
    readOut c (h.trail acts) = [] := by
  induction acts generalizing h with
  | nil => rfl
  | cons a acts ih =>
    obtain ⟨hne, hrest⟩ := not_or.mp (List.mem_cons.not.mp hn)
    have hnone : a.readOut c.connection h = [] := by
      unfold Act.readOut
      split
      · exact if_neg fun he => hne (by rw [he])
      · rfl
    show a.readOut c.connection h ++ readOut c ((a.next h).trail acts) = []
    rw [hnone, ih hrest]
    rfl

/-- **What is read from a queue is the first of what is delivered.** -/
theorem readOut_begins_delivered (hr : Run (Move P) (.ofCapacity capacity) record h) (hc : c ∈ P) :
    readOut c record <+: (delivered c record).map RoutedMessage.payload := by
  rw [← readOut_switchRecord, ← addressed_switchRecord]
  exact Switch.readOut_begins_addressed (run_switch hr) hc

end Hub
end Switchboard
