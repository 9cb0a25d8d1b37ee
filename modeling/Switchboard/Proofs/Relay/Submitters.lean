import Switchboard.Proofs.Pump.Readings
import Switchboard.Proofs.Relay.Runs

/-! # Submitters

Messages come to the hub from the read pumps, which find them in the frames of
their clients, and from the bridges, which find them in the records of their
topics.  Such a task takes up a message, holds it until the hub admits it, and
takes up the next one only after that.  What cannot be decoded is skipped, and
the message that a task holds when the hub refuses it is lost.  So what a task
hands over is some of what it takes up, in the same order
(`handed_sublist_received`).  No other task hands over messages. -/
namespace Switchboard
open scoped List

namespace ReadPump

variable {p q : ReadPump} {t : Timing} {c : Client} {s : Sight} {acts : List Act}

/-- The message that a read pump takes up next. -/
def message? (s : Sight) : ReadPump → Option RoutedMessage
  | reading deadline =>
    if s.notices deadline then none
    else match s.arrival with
      | some (.frame f) => f.message?
      | _ => none
  | _ => none

/-- **A read pump hands over what it takes up**, one message after the other. -/
theorem handed_sublist (h : p.step t c s = some (q, acts)) :
    (acts.filterMap (Act.onHub c)).filterMap Hub.Act.message? ++ q.inHand <+
      p.inHand ++ (p.message? s).toList := by
  cases step_iff.mp h with
  | @message deadline f bytes m hstays harrival hdata hparse =>
    have htaken : (reading deadline).message? s = some m.routed := by
      rw [message?, if_neg hstays, harrival]
      exact Frame.message?_eq_some hdata hparse
    rw [htaken]
    exact List.Sublist.refl _
  | submit => exact List.Sublist.refl _
  -- the message that the hub refuses is lost, and in all other steps there is none
  | refused | notice | skip | pong | ping | farewell | fault | finished | breakdown | timeout
  | depart | vanish => exact List.nil_sublist _

end ReadPump

namespace Bridge

variable {b b' : Bridge} {s : Sight} {acts : List Act} {pause : Nat}

/-- The message that a bridge takes up next. -/
def message? (s : Sight) : Bridge → Option RoutedMessage
  | receiving =>
    if s.cancelled then none
    else match s.arrival with
      | some (.ok record) => (RoutedMessage.ofRecord record.payload).toOption
      | _ => none
  | _ => none

/-- **A bridge hands over what it takes up**, one message after the other. -/
theorem handed_sublist (h : b.step pause s = some (b', acts)) :
    (acts.filterMap Act.onHub).filterMap Hub.Act.message? ++ b'.inHand <+
      b.inHand ++ (b.message? s).toList := by
  cases step_iff.mp h with
  | @message record m hrunning harrival hdecode =>
    have htaken : receiving.message? s = some m := by
      rw [message?, if_neg hrunning, harrival]
      show (RoutedMessage.ofRecord record.payload).toOption = some m
      rw [hdecode]
      rfl
    rw [htaken]
    exact List.Sublist.refl _
  | submit => exact List.Sublist.refl _
  -- the message that the hub refuses is lost, and in all other steps there is none
  | refused | cancel | skip | closed | fatal | transient | interrupt | resume =>
    exact List.nil_sublist _

end Bridge

namespace Relay

variable {P : Population} {r r' : Relay} {a : Act} {t : Task} {n : Nat}
  {record : List (Relay × Act)} {settings : Settings}

/-- The message that a task takes up next: that of a frame of a client, or of a
record of a topic. -/
def message? (r : Relay) : Task → Option RoutedMessage
  | .reader n => r.sessions[n]?.bind fun s => s.reader.bind fun p => p.message? (r.readSight s)
  | .bridge n => r.inlets[n]?.bind fun i => i.bridge.message? (r.bridgeSight i)
  | _ => none

/-- The message that a task takes up by an act. -/
def Act.received (t : Task) (r : Relay) : Act → List RoutedMessage
  | step t' => if t' = t then (r.message? t).toList else []
  | _ => []

/-- The messages that a task hands over to the hub by an act. -/
def Act.handed (t : Task) (r : Relay) : Act → List RoutedMessage
  | step t' => if t' = t then (r.stepOnHub t).filterMap Hub.Act.message? else []
  | _ => []

/-- **The messages that a task has received** along a run, in the order in which
it took them up. -/
def received (t : Task) (record : List (Relay × Act)) : List RoutedMessage :=
  observe (Act.received t) record

/-- The messages that a task has handed over to the hub along a run. -/
def handed (t : Task) (record : List (Relay × Act)) : List RoutedMessage :=
  observe (Act.handed t) record

theorem handed_snoc : handed t (record ++ [(r, a)]) = handed t record ++ a.handed t r :=
  observe_snoc _ record r a

/-! ## What a task holds -/

/-- A bridge holds what it held while it takes no step. -/
theorem inHand_bridge_of_move (hm : Move P r a r') (ha : a ≠ .step (.bridge n)) :
    r'.inHand (.bridge n) <+ r.inHand (.bridge n) := by
  rw [inHand, inHand]
  cases hi' : r'.inlets[n]? with
  | none => exact List.nil_sublist _
  | some i' =>
    rcases inlet_of_move hm hi' with ⟨i, hi, hpass⟩ | ⟨topic, capacity, pause, -, -, rfl⟩
    · rw [hi]
      cases hpass with
      | receive => exact absurd rfl ha
      | outside u => cases u <;> exact List.Sublist.refl _
      | still => exact List.Sublist.refl _
    · exact List.nil_sublist _

/-- A read pump holds what it held while it takes no step. -/
theorem inHand_reader_of_move (hq : r.Joined) (hm : Move P r a r') (ha : a ≠ .step (.reader n)) :
    r'.inHand (.reader n) <+ r.inHand (.reader n) := by
  rw [inHand, inHand]
  cases hs' : r'.sessions[n]? with
  | none => exact List.nil_sublist _
  | some s' =>
    rcases session_of_move hq hm hs' with ⟨s, hs, ht⟩ | ⟨identity, socket, -, -, rfl⟩
    · rw [hs]
      cases ht with
      | read => exact absurd rfl ha
      | write | peer | still => exact List.Sublist.refl _
      | keep hstep =>
        cases Session.step_iff.mp hstep with
        | register => exact List.nil_sublist _
        | refuse | finish => exact List.Sublist.refl _
    · exact List.nil_sublist _

/-- Only read pumps and bridges hand over messages. -/
theorem handed_eq_nil (hm : Move P r a r') (ht : r.inHand t = []) : a.handed t r = [] := by
  cases a with
  | step t' =>
    rw [Act.handed]
    split
    · next he =>
      subst he
      refine List.filterMap_eq_nil_iff.mpr fun b hb => ?_
      cases part_of_mem hm hb with
      | work | register | unregister | close | ofQueue | askStop => rfl
      | deliver hin =>
        rw [ht] at hin
        cases hin
    · rfl
  | arm | wait | join | reject | useSocket | beginBridge | useInlet | ask | stopHub | shutDown
  | draw => rfl

theorem handed_of_ne (ha : a ≠ .step t) : a.handed t r = [] := by
  unfold Act.handed
  split
  · exact if_neg fun he => ha (by rw [he])
  · rfl

theorem received_of_ne (ha : a ≠ .step t) : a.received t r = [] := by
  unfold Act.received
  split
  · exact if_neg fun he => ha (by rw [he])
  · rfl

/-- **A task hands over what it takes up**, and holds what it has not handed over
yet. -/
theorem handed_append_inHand (hq : r.Joined) (hm : Move P r a r') (t : Task) :
    a.handed t r ++ r'.inHand t <+ r.inHand t ++ a.received t r := by
  -- only by a step of its own does a task take up or hand over anything
  by_cases ha : a = .step t
  · subst ha
    have hhanded : (Act.step t).handed t r = (r.stepOnHub t).filterMap Hub.Act.message? :=
      if_pos rfl
    have hreceived : (Act.step t).received t r = (r.message? t).toList := if_pos rfl
    cases t with
    | hub | session | writer =>
      rw [handed_eq_nil hm rfl]
      exact List.nil_sublist _
    | bridge n =>
      obtain ⟨i, b, acts, hi, hdo, hinlets⟩ := inlets_stepBridge (move_step_iff.mp hm)
      have hbefore : r.inHand (.bridge n) = i.bridge.inHand := by simp [inHand, hi]
      have hafter : r'.inHand (.bridge n) = b.inHand := by simp [inHand, hinlets, hi]
      have htaken : r.message? (.bridge n) = i.bridge.message? (r.bridgeSight i) := by
        simp [message?, hi]
      rw [hhanded, hreceived, hbefore, hafter, htaken, stepOnHub_bridge hi hdo]
      exact Bridge.handed_sublist hdo
    | reader n =>
      obtain ⟨s, p, q, acts, hs, hp, hdo, hsessions⟩ := sessions_stepReader (move_step_iff.mp hm)
      have hbefore : r.inHand (.reader n) = p.inHand := by simp [inHand, hs, hp]
      have hafter : r'.inHand (.reader n) = q.inHand := by simp [inHand, hsessions, hs]
      have htaken : r.message? (.reader n) = p.message? (r.readSight s) := by
        simp [message?, hs, hp]
      rw [hhanded, hreceived, hbefore, hafter, htaken, stepOnHub_reader hs hp hdo]
      exact ReadPump.handed_sublist hdo
  · rw [handed_of_ne ha, received_of_ne ha, List.nil_append, List.append_nil]
    cases t with
    | hub | session | writer => exact List.nil_sublist _
    | bridge n => exact inHand_bridge_of_move hm ha
    | reader n => exact inHand_reader_of_move hq hm ha

/-- **What a task hands over is some of what it has received**, in the same
order. -/
theorem handed_sublist_received (hr : Run (Move P) (.start settings) record r) (t : Task) :
    handed t record <+ received t record := by
  refine hr.observe_sublist (fun r => r.inHand t) ?_ fun record r a r' hbefore hm =>
    handed_append_inHand (run_hub hbefore).2.joined hm t
  cases t <;> rfl

/-! ## All that is submitted -/

/-- The task that acts, if it is one. -/
def Act.task? : Act → Option Task
  | step t => some t
  | _ => none

/-- The events that were submitted along a run, each with the task that did
it. -/
def posted (record : List (Relay × Act)) : List (Option Task × Event) :=
  observe (fun r a => ((a.onHub r).filterMap Hub.Act.event?).map (Prod.mk a.task?)) record

/-- The messages that were submitted along a run, each with the task that did
it. -/
def submissions (record : List (Relay × Act)) : List (Option Task × RoutedMessage) :=
  (posted record).filterMap fun p => p.2.message?.map (Prod.mk p.1)

theorem filterMap_event (o : Option Task) (acts : List Hub.Act) :
    (((acts.filterMap Hub.Act.event?).map (Prod.mk o)).filterMap
      fun p => p.2.message?.map (Prod.mk p.1)) =
        (acts.filterMap Hub.Act.message?).map (Prod.mk o) := by
  rw [List.filterMap_map, List.filterMap_filterMap, List.map_filterMap]
  congr 1
  funext b
  show (b.event?.bind fun e => e.message?.map (Prod.mk o)) =
    (b.event?.bind Event.message?).map (Prod.mk o)
  cases b.event? <;> rfl

/-- What one task has submitted is what it has handed over. -/
theorem submissions_of_task (t : Task) :
    ((submissions record).filter fun d => d.1 = some t).map Prod.snd = handed t record := by
  rw [submissions, posted, handed, observe, observe, List.filterMap_flatMap, List.filter_flatMap,
    List.map_flatMap]
  congr 1
  funext m
  obtain ⟨r, a⟩ := m
  rw [filterMap_event]
  cases a with
  | arm | wait | join | reject | useSocket | beginBridge | useInlet | ask | stopHub | shutDown
  | draw => rfl
  | step t' =>
    show ((((r.stepOnHub t').filterMap Hub.Act.message?).map (Prod.mk (some t'))).filter
      fun d => d.1 = some t).map Prod.snd = (Act.step t').handed t r
    by_cases ht : t' = t
    · subst ht
      rw [Act.handed, if_pos rfl, List.filter_map, List.map_map]
      simp [Function.comp_def]
    · rw [handed_of_ne fun he => ht (Act.step.inj he), List.filter_map]
      simp [Function.comp_def, ht]

/-- Every message was submitted by a task. -/
theorem exists_task_of_mem_submissions {d : Option Task × RoutedMessage}
    (hd : d ∈ submissions record) : ∃ t, d.1 = some t := by
  rw [submissions, posted, observe, List.filterMap_flatMap] at hd
  obtain ⟨⟨r, a⟩, -, hin⟩ := List.mem_flatMap.mp hd
  rw [filterMap_event] at hin
  obtain ⟨m, hm, rfl⟩ := List.mem_map.mp hin
  cases a with
  | step t => exact ⟨t, rfl⟩
  | arm | wait | join | reject | useSocket | beginBridge | useInlet | ask | stopHub | shutDown
  | draw =>
    cases hm

/-- What acts in a row submit. -/
theorem submitted_trail (h : Hub) (acts : List Hub.Act) :
    Hub.submitted (h.trail acts) = acts.filterMap Hub.Act.event? := by
  induction acts generalizing h with
  | nil => rfl
  | cons b acts ih =>
    show b.event?.toList ++ Hub.submitted ((b.next h).trail acts) = _
    rw [ih, List.filterMap_cons]
    cases b.event? <;> rfl

/-- What was submitted to the hub was submitted by the relay. -/
theorem map_snd_posted : (posted record).map Prod.snd = Hub.submitted (hubRecord record) := by
  have hflat : Hub.submitted (hubRecord record) =
      observe (fun r a => Hub.submitted (r.hub.trail (a.onHub r))) record :=
    List.flatMap_assoc
  rw [hflat, posted, observe, observe, List.map_flatMap]
  congr 1
  funext m
  obtain ⟨r, a⟩ := m
  rw [submitted_trail, List.map_map]
  simp [Function.comp_def]

end Relay
end Switchboard
