import Switchboard.Proofs.Relay.Arrivals
import Switchboard.Proofs.Relay.Ghosts
import Switchboard.Proofs.Relay.Tallies

/-! # What bridges make of what they receive

A bridge receives results: records, which can be decoded or not, and failures,
after which there may be more or not.  It hands over the messages of the records,
each once and in order, whatever comes in between (`Bridge.Ingested`).  It goes on
until it receives that there is nothing more, or is refused by the hub, or is
cancelled.  A bridge looks whether it is cancelled where it waits for records or
rests; a message that it holds it submits first.

What bridges receive is counted by topic, and what they cannot use by its kind. -/
namespace Switchboard

/-- What a consumer receives. -/
abbrev Bus.Result := Except Bus.Failure Bus.Record

namespace Bus.Result

/-- The message that a result holds, if it is a record that can be decoded. -/
def message? : Bus.Result → Option RoutedMessage
  | .ok record => record.message?
  | .error _ => none

/-- The failure that was received instead of a record. -/
def failure? : Bus.Result → Option Bus.Failure
  | .ok _ => none
  | .error f => some f

/-- What is wrong with a record that cannot be decoded. -/
def fault? : Bus.Result → Option CodecError
  | .ok record =>
    match RoutedMessage.ofRecord record.payload with
    | .ok _ => none
    | .error e => some e
  | .error _ => none

/-- How a bridge is over that receives a result, if it is over then. -/
def exit? : Bus.Result → Option BridgeExit
  | .ok _ | .error (.transient _) => none
  | .error .closed => some .consumerClosed
  | .error (.fatal reason) => some (.consumerFailed reason)

end Bus.Result

/-! ## One bridge -/

namespace Bridge

variable {b b' : Bridge} {s : Sight} {acts : List Act} {pause : Nat}
  {results : List Bus.Result} {messages : List RoutedMessage} {m : RoutedMessage}

/-- What a bridge receives by its next step. -/
def received (s : Sight) : Bridge → List Bus.Result
  | receiving => if s.cancelled then [] else s.arrival.toList
  | _ => []

/-- **Even**: nothing ended the bridge, and the messages are those of all results. -/
structure Even (results : List Bus.Result) (messages : List RoutedMessage) : Prop where
  goesOn : ∀ x ∈ results, x.exit? = none
  messages_eq : messages = results.filterMap Bus.Result.message?

/-- Even, but for the message of the last result. -/
def Behind (m : RoutedMessage) (results : List Bus.Result) (messages : List RoutedMessage) : Prop :=
  ∃ earlier record, results = earlier ++ [.ok record] ∧ record.message? = some m ∧
    Even earlier messages

/-- Even, until a result that ends the bridge. -/
def OverBy (exit : BridgeExit) (results : List Bus.Result) (messages : List RoutedMessage) : Prop :=
  ∃ earlier x, results = earlier ++ [x] ∧ x.exit? = some exit ∧ Even earlier messages

/-- **How a bridge stands** to the results that it has received and to the messages
that it has handed over. -/
def Ingested (results : List Bus.Result) (messages : List RoutedMessage) : Bridge → Prop
  | receiving | pausing _ | ended .cancelled => Even results messages
  | forwarding m => Behind m results messages
  | ended .hubStopped => ∃ m, Behind m results messages
  | ended exit => OverBy exit results messages

theorem Even.start : Even [] [] := ⟨fun _ hx => absurd hx List.not_mem_nil, rfl⟩

/-- A result without a message that ends nothing leaves a bridge even. -/
theorem Even.skip {x : Bus.Result} (h : Even results messages) (hx : x.exit? = none)
    (hm : x.message? = none) : Even (results ++ [x]) messages where
  goesOn := by
    intro y hy
    rcases List.mem_append.mp hy with hy | hy
    · exact h.goesOn y hy
    · exact List.mem_singleton.mp hy ▸ hx
  messages_eq := by
    rw [List.filterMap_append, ← h.messages_eq, List.filterMap_cons_none hm]
    exact (List.append_nil messages).symm

/-- A bridge that was behind is even when it has handed over the message. -/
theorem Behind.even (h : Behind m results messages) : Even results (messages ++ [m]) := by
  obtain ⟨earlier, record, rfl, hm, heven⟩ := h
  refine ⟨fun x hx => ?_, ?_⟩
  · rcases List.mem_append.mp hx with hx | hx
    · exact heven.goesOn x hx
    · rw [List.mem_singleton.mp hx]
      rfl
  · have hlast : Bus.Result.message? (.ok record) = some m := hm
    rw [List.filterMap_append, ← heven.messages_eq, List.filterMap_cons_some hlast]
    rfl

/-- **A step of a bridge**, whatever it receives and whenever it is cancelled or
refused, keeps how it stands. -/
theorem Ingested.step (h : b.Ingested results messages)
    (hstep : b.step pause s = some (b', acts)) :
    b'.Ingested (results ++ b.received s)
      (messages ++ (acts.filterMap Act.onHub).filterMap Hub.Act.message?) := by
  have hreceived : ∀ x, ¬ s.cancelled → s.arrival = some x → receiving.received s = [x] := by
    intro x hrunning harrival
    rw [received, if_neg hrunning, harrival]
    rfl
  have hquiet : messages ++ [] = messages := List.append_nil messages
  cases step_iff.mp hstep with
  | cancel hcancelled =>
    have hnone : receiving.received s = [] := if_pos hcancelled
    rw [hnone, List.append_nil]
    exact hquiet.symm ▸ h
  | interrupt | resume =>
    show Even (results ++ []) (messages ++ [])
    rw [List.append_nil, List.append_nil]
    exact h
  | @message record m hrunning harrival hdecode =>
    rw [hreceived _ hrunning harrival]
    refine ⟨results, record, rfl, ?_, hquiet.symm ▸ h⟩
    rw [Bus.Record.message?, hdecode]
    rfl
  | @skip record e hrunning harrival hdecode =>
    rw [hreceived _ hrunning harrival]
    refine Even.skip (hquiet.symm ▸ h) rfl ?_
    show record.message? = none
    rw [Bus.Record.message?, hdecode]
    rfl
  | transient hrunning harrival =>
    rw [hreceived _ hrunning harrival]
    exact Even.skip (hquiet.symm ▸ h) rfl rfl
  | closed hrunning harrival =>
    rw [hreceived _ hrunning harrival]
    exact ⟨results, _, rfl, rfl, hquiet.symm ▸ h⟩
  | fatal hrunning harrival =>
    rw [hreceived _ hrunning harrival]
    exact ⟨results, _, rfl, rfl, hquiet.symm ▸ h⟩
  | submit =>
    show Even (results ++ []) _
    rw [List.append_nil]
    exact Behind.even h
  | @refused m =>
    refine ⟨m, ?_⟩
    show Behind m (results ++ []) (messages ++ [])
    rw [List.append_nil, List.append_nil]
    exact h

/-- A bridge that is cancelled receives nothing. -/
theorem received_of_cancelled (h : s.cancelled) : b.received s = [] := by
  cases b with
  | receiving => exact if_pos h
  | forwarding | pausing | ended => rfl

theorem cancelled_of_step (h : b.step pause s = some (ended .cancelled, acts)) : s.cancelled := by
  cases step_iff.mp h with
  | cancel hcancelled | interrupt hcancelled => exact hcancelled

theorem refused_of_step (h : b.step pause s = some (ended .hubStopped, acts)) :
    s.admission = .refused := by
  cases step_iff.mp h with
  | refused hadmission => exact hadmission

end Bridge

/-! ## The bridges of a relay -/

namespace Relay

variable {P : Population} {r r' : Relay} {a : Act} {n : Nat} {i : Inlet} {series : Series}
  {settings : Settings} {record : List (Relay × Act)}

/-- A result that a bridge has received. -/
structure Receipt where
  bridge : Nat
  topic : String
  result : Bus.Result

/-- What the bridges receive by an act. -/
def Act.receipts (r : Relay) : Act → List Receipt
  | step (.bridge n) =>
    match r.inlets[n]? with
    | some i => (i.bridge.received (r.bridgeSight i)).map (Receipt.mk n i.channel.topic)
    | none => []
  | _ => []

/-- What the bridges have received along a run. -/
def receipts (record : List (Relay × Act)) : List Receipt := observe Act.receipts record

/-- What one bridge has received along a run. -/
def results (n : Nat) (record : List (Relay × Act)) : List Bus.Result :=
  ((receipts record).filter fun x => x.bridge = n).map Receipt.result

theorem results_snoc : results n (record ++ [(r, a)]) =
    results n record ++ ((a.receipts r).filter fun x => x.bridge = n).map Receipt.result := by
  rw [results, receipts, observe_snoc, List.filter_append, List.map_append]
  rfl

/-- By another act a bridge receives nothing. -/
theorem receipts_of_ne (ha : a ≠ .step (.bridge n)) :
    (a.receipts r).filter (fun x => x.bridge = n) = [] := by
  refine List.filter_eq_nil_iff.mpr fun x hx => ?_
  unfold Act.receipts at hx
  split at hx
  · next k =>
    split at hx
    · obtain ⟨y, -, rfl⟩ := List.mem_map.mp hx
      intro hk
      obtain rfl : k = n := of_decide_eq_true hk
      exact ha rfl
    · cases hx
  · cases hx

/-- By its own step a bridge receives what it sees, and nobody else does. -/
theorem receipts_step (hi : r.inlets[n]? = some i) :
    (((Act.step (.bridge n)).receipts r).filter fun x => x.bridge = n).map Receipt.result =
      i.bridge.received (r.bridgeSight i) := by
  rw [Act.receipts, hi, List.filter_eq_self.mpr, List.map_map]
  · exact List.map_id _
  · intro x hx
    obtain ⟨y, -, rfl⟩ := List.mem_map.mp hx
    exact decide_eq_true rfl

/-! ### What stays -/

theorem stopping_of_move (hm : Move P r a r') (hs : r.stopping) : r'.stopping := by
  cases a with
  | step t =>
    obtain ⟨-, -, hstopping, -⟩ := unchanged_of_step (move_step_iff.mp hm)
    rwa [hstopping]
  | arm t =>
    obtain ⟨timers, rfl⟩ := arm_of_move hm
    exact hs
  | shutDown =>
    obtain ⟨-, rfl⟩ := hm
    rfl
  | wait | join | reject | useSocket | beginBridge | useInlet | ask | stopHub | draw =>
    obtain ⟨-, rfl⟩ := hm
    exact hs

/-- Whether a bridge is to stop. -/
def Cancelled (i : Inlet) (r : Relay) : Prop := r.stopping ∨ i.cancelled

theorem cancelled_iff : (r.bridgeSight i).cancelled ↔ Cancelled i r := Bool.or_eq_true_iff

theorem cancelled_of_pass {i' : Inlet} (hm : Move P r a r') (hp : Pass r n i a i')
    (hc : Cancelled i r) : Cancelled i' r' := by
  refine hc.imp (stopping_of_move hm) fun hc => ?_
  cases hp with
  | receive | still => exact hc
  | outside u =>
    cases u with
    | publish | fail | dropPublisher => exact hc
    | cancel => rfl

theorem length_inlets_of_move (hm : Move P r a r') : r.inlets.length ≤ r'.inlets.length := by
  have hsame : r'.inlets = r.inlets → r.inlets.length ≤ r'.inlets.length :=
    fun he => Nat.le_of_eq (by rw [he])
  cases a with
  | step t =>
    have hstep := move_step_iff.mp hm
    cases t with
    | bridge n =>
      obtain ⟨i, b, acts, -, -, hinlets⟩ := inlets_stepBridge hstep
      exact Nat.le_of_eq (by rw [hinlets, List.length_modify])
    | hub | reader | writer | session =>
      exact hsame (eq_of_step (v := inlets) (fun _ _ => rfl) (fun _ _ => rfl) (fun _ _ => rfl)
        hstep fun _ => nofun)
  | useInlet n u =>
    obtain ⟨-, rfl⟩ := hm
    exact Nat.le_of_eq (List.length_modify ..).symm
  | beginBridge topic capacity pause =>
    obtain ⟨-, rfl⟩ := hm
    exact (List.prefix_append _ _).length_le
  | arm t =>
    obtain ⟨timers, rfl⟩ := arm_of_move hm
    exact hsame rfl
  | wait | join | reject | useSocket | ask | stopHub | shutDown | draw =>
    obtain ⟨-, rfl⟩ := hm
    exact hsame rfl

/-- **A bridge does not go away.** -/
theorem pass_of_move (hm : Move P r a r') (hi : r.inlets[n]? = some i) :
    ∃ i', r'.inlets[n]? = some i' ∧ Pass r n i a i' := by
  have hn : n < r.inlets.length := (List.getElem?_eq_some_iff.mp hi).1
  have hi' := List.getElem?_eq_getElem (Nat.lt_of_lt_of_le hn (length_inlets_of_move hm))
  refine ⟨_, hi', ?_⟩
  rcases inlet_of_move hm hi' with ⟨i₁, hi₁, hp⟩ | ⟨-, -, -, -, hlen, -⟩
  · obtain rfl : i = i₁ := Option.some.inj (hi.symm.trans hi₁)
    exact hp
  · omega

/-! ### What a bridge has done -/

/-- How a bridge of a relay stands after a run. -/
structure Ingesting (n : Nat) (record : List (Relay × Act)) (r : Relay) (i : Inlet) : Prop where
  ingested : i.bridge.Ingested (results n record) (handed (.bridge n) record)
  cancelled : i.bridge = .ended .cancelled → Cancelled i r
  refused : i.bridge = .ended .hubStopped → r.hub.stopped

theorem Ingesting.pass {i' : Inlet} (h : Ingesting n record r i)
    (hr : Run (Move P) (.start settings) record r) (hm : Move P r a r')
    (hi : r.inlets[n]? = some i) (hp : Pass r n i a i') :
    Ingesting n (record ++ [(r, a)]) r' i' := by
  have hcancelled : Cancelled i r → Cancelled i' r' := cancelled_of_pass hm hp
  have hstopped : r.hub.stopped → r'.hub.stopped := hubStopped_of_move hr hm
  -- only by its own step does a bridge receive anything or hand it over
  have hrest : a ≠ .step (.bridge n) → i'.bridge = i.bridge →
      Ingesting n (record ++ [(r, a)]) r' i' := by
    intro ha hsame
    have hresults : results n (record ++ [(r, a)]) = results n record := by
      rw [results_snoc, receipts_of_ne ha]
      exact List.append_nil _
    have hhanded : handed (.bridge n) (record ++ [(r, a)]) = handed (.bridge n) record := by
      rw [handed_snoc, handed_of_ne ha, List.append_nil]
    refine ⟨?_, fun he => hcancelled (h.cancelled (hsame ▸ he)),
      fun he => hstopped (h.refused (hsame ▸ he))⟩
    rw [hresults, hhanded, hsame]
    exact h.ingested
  cases hp with
  | outside u => exact hrest nofun (by cases u <;> rfl)
  | still ha =>
    refine hrest ?_ rfl
    rintro rfl
    exact ha rfl
  | @receive b acts hstep =>
    refine ⟨?_, ?_, ?_⟩
    · have hhanded : (Act.step (.bridge n)).handed (.bridge n) r =
          (acts.filterMap Bridge.Act.onHub).filterMap Hub.Act.message? := by
        rw [Act.handed, if_pos rfl, stepOnHub_bridge hi hstep]
      rw [results_snoc, receipts_step hi, handed_snoc, hhanded]
      exact h.ingested.step hstep
    · rintro rfl
      exact hcancelled (cancelled_iff.mp (Bridge.cancelled_of_step hstep))
    · rintro rfl
      exact hstopped (Hub.stopped_of_refused (Bridge.refused_of_step hstep))

/-- **How every bridge stands at the end of every run.** -/
theorem ingesting_of_run (hr : Run (Move P) (.start settings) record r) :
    ∀ i, r.inlets[n]? = some i → Ingesting n record r i := by
  suffices hall : (∀ i, r.inlets[n]? = some i → Ingesting n record r i) ∧
      (r.inlets[n]? = none → results n record = [] ∧ handed (.bridge n) record = []) from hall.1
  induction hr with
  | stay => exact ⟨fun i hi => absurd hi (by simp [Relay.start]), fun _ => ⟨rfl, rfl⟩⟩
  | @move record r r' a hbefore hm ih =>
    have hnew : r.inlets[n]? = none → results n (record ++ [(r, a)]) = [] ∧
        handed (.bridge n) (record ++ [(r, a)]) = [] := by
      intro hnone
      have ha : a ≠ .step (.bridge n) := by
        rintro rfl
        obtain ⟨i, -, -, hi, -⟩ := inlets_stepBridge (move_step_iff.mp hm)
        rw [hnone] at hi
        cases hi
      rw [results_snoc, receipts_of_ne ha, handed_snoc, handed_of_ne ha, (ih.2 hnone).1,
        (ih.2 hnone).2]
      exact ⟨rfl, rfl⟩
    constructor
    · intro i' hi'
      rcases inlet_of_move hm hi' with ⟨i, hi, hp⟩ | ⟨topic, capacity, pause, -, hlen, rfl⟩
      · exact (ih.1 i hi).pass hbefore hm hi hp
      · obtain ⟨hresults, hhanded⟩ := hnew (List.getElem?_eq_none (Nat.le_of_eq hlen.symm))
        refine ⟨?_, fun he => ?_, fun he => ?_⟩
        · rw [hresults, hhanded]
          exact Bridge.Even.start
        · cases he
        · cases he
    · intro hnone
      refine hnew ?_
      rw [List.getElem?_eq_none_iff] at hnone ⊢
      exact Nat.le_trans (length_inlets_of_move hm) hnone

/-! ### What a bridge does no more -/

theorem Pass.ended {i' : Inlet} {exit : BridgeExit} (hp : Pass r n i a i')
    (he : i.bridge = .ended exit) : i'.bridge = .ended exit := by
  cases hp with
  | still => exact he
  | outside u => cases u <;> exact he
  | receive hstep =>
    rw [he] at hstep
    cases hstep

/-- A bridge that is over stays so. -/
theorem ended_of_run {later : List (Relay × Act)} {exit : BridgeExit}
    (hi : r.inlets[n]? = some i) (he : i.bridge = .ended exit) (hr : Run (Move P) r later r') :
    ∃ i', r'.inlets[n]? = some i' ∧ i'.bridge = .ended exit := by
  refine hr.invariant (I := fun r => ∃ i, r.inlets[n]? = some i ∧ i.bridge = .ended exit) ?_
    ⟨i, hi, he⟩
  rintro r a r' ⟨i, hi, he⟩ hm
  obtain ⟨i', hi', hp⟩ := pass_of_move hm hi
  exact ⟨i', hi', hp.ended he⟩

/-- A bridge that is over or cancelled receives nothing any more. -/
theorem results_eq_nil {later : List (Relay × Act)} (hi : r.inlets[n]? = some i)
    (hd : Cancelled i r ∨ ∃ exit, i.bridge = .ended exit) (hr : Run (Move P) r later r') :
    results n later = [] := by
  suffices hall : results n later = [] ∧ ∃ i', r'.inlets[n]? = some i' ∧
      (Cancelled i' r' ∨ ∃ exit, i'.bridge = .ended exit) from hall.1
  induction hr with
  | stay => exact ⟨rfl, i, hi, hd⟩
  | @move later t u a _ hm ih =>
    obtain ⟨hnil, i₁, hi₁, hd₁⟩ := ih
    obtain ⟨i', hi', hp⟩ := pass_of_move hm hi₁
    constructor
    · rw [results_snoc, hnil, List.nil_append]
      by_cases ha : a = .step (.bridge n)
      · subst ha
        rw [receipts_step hi₁]
        rcases hd₁ with hc | ⟨exit, he⟩
        · exact Bridge.received_of_cancelled (cancelled_iff.mpr hc)
        · rw [he]
          rfl
      · rw [receipts_of_ne ha]
        rfl
    · refine ⟨i', hi', ?_⟩
      rcases hd₁ with hc | ⟨exit, he⟩
      · exact Or.inl (cancelled_of_pass hm hp hc)
      · exact Or.inr ⟨exit, hp.ended he⟩

/-- What a bridge can do next it can do in the relay. -/
theorem exists_stepBridge {b : Bridge} {acts : List Bridge.Act} (hi : r.inlets[n]? = some i)
    (hdo : i.bridge.step i.pause (r.bridgeSight i) = some (b, acts)) :
    ∃ r' i', r.step (.bridge n) = some r' ∧ r'.inlets[n]? = some i' ∧ i'.bridge = b := by
  have hstep : r.step (.bridge n) = some (acts.foldl (doBridge n i.channel.topic)
      (r.withInlet n fun i => { i with bridge := b })) := by
    simp [step, stepBridge, hi, hdo]
  obtain ⟨i₁, b₁, acts₁, hi₁, hdo₁, hinlets⟩ := inlets_stepBridge hstep
  obtain rfl : i = i₁ := Option.some.inj (hi.symm.trans hi₁)
  obtain ⟨rfl, rfl⟩ := Prod.mk.inj (Option.some.inj (hdo.symm.trans hdo₁))
  exact ⟨_, _, hstep, by rw [hinlets, List.getElem?_modify_eq, hi]; rfl, rfl⟩

/-! ### What is counted -/

/-- The series in which what a bridge received is counted. -/
def Receipt.counted (x : Receipt) : List Series :=
  match x.result with
  | .ok _ => .busRecords x.topic :: (x.result.fault?.map fun e => .decodeErrors "bus" e.kind).toList
  | .error f => [.busErrors x.topic f.severity]

/-- The series in which a bridge counts by an act of its own. -/
def counted (topic : String) : Bridge.Act → List Series
  | .record => [.busRecords topic]
  | .skip e => [.decodeErrors "bus" e.kind]
  | .failure f => [.busErrors topic f.severity]
  | .take | .submit _ | .leave => []

theorem value_doBridge (topic : String) (r : Relay) (x : Bridge.Act) :
    (r.doBridge n topic x).metrics.value series =
      r.metrics.value series + (counted topic x).count series := by
  cases x with
  | take | submit | leave => rfl
  | record | skip | failure =>
    refine value_count.trans ?_
    simp only [counted, List.count_singleton, beq_iff_eq, eq_comm (a := series)]

/-- A bridge counts what it receives. -/
theorem counted_of_step {s : Bridge.Sight} {b b' : Bridge} {acts : List Bridge.Act} {pause : Nat}
    (topic : String) (hdo : b.step pause s = some (b', acts)) :
    acts.flatMap (counted topic) =
      ((b.received s).map (Receipt.mk n topic)).flatMap Receipt.counted := by
  have hreceived : ∀ x, ¬ s.cancelled → s.arrival = some x → Bridge.receiving.received s = [x] := by
    intro x hrunning harrival
    rw [Bridge.received, if_neg hrunning, harrival]
    rfl
  cases Bridge.step_iff.mp hdo with
  | cancel hcancelled =>
    rw [Bridge.received_of_cancelled hcancelled]
    rfl
  | interrupt | resume | submit | refused => rfl
  | message hrunning harrival hdecode | skip hrunning harrival hdecode =>
    rw [hreceived _ hrunning harrival]
    simp [counted, Receipt.counted, Bus.Result.fault?, hdecode]
  | closed hrunning harrival | fatal hrunning harrival | transient hrunning harrival =>
    rw [hreceived _ hrunning harrival]
    rfl

/-- **What bridges count is what they receive.** -/
theorem value_of_run (hr : Run (Move P) (.start settings) record r)
    (hk : series.keeper = .bridge) :
    r.metrics.value series = ((receipts record).flatMap Receipt.counted).count series := by
  have hall : r.metrics.value series =
      (observe (fun r a => (a.receipts r).flatMap Receipt.counted) record).count series := by
    refine value_eq_count hr fun r a r' hm => ?_
    by_cases ha : ∃ n, a = .step (.bridge n)
    · obtain ⟨n, rfl⟩ := ha
      obtain ⟨i, b, acts, hi, hdo, rfl⟩ := stepBridge_eq_some (move_step_iff.mp hm)
      rw [value_foldl (value_doBridge i.channel.topic), counted_of_step i.channel.topic hdo,
        Act.receipts, hi]
      rfl
    · have hnone : a.receipts r = [] := by
        unfold Act.receipts
        split
        · next n => exact absurd ⟨n, rfl⟩ ha
        · rfl
      rw [hnone, value_of_move hm]
      · rfl
      · rw [hk]
        intro he
        unfold Act.keeper? at he
        split at he
        · cases he
        · cases he
        · cases he
        · next n => exact ha ⟨n, rfl⟩
        · cases he
        · cases he
  rw [hall, receipts, observe, observe, List.flatMap_assoc]

/-- Every record that is received is counted once, with its topic. -/
theorem count_busRecords {topic : String} (x : Receipt) :
    x.counted.count (.busRecords topic) = if x.topic = topic ∧ x.result.isOk then 1 else 0 := by
  obtain ⟨n, t, f | record⟩ := x
  · simp [Receipt.counted, Except.isOk, Except.toBool]
  · cases hf : Bus.Result.fault? (.ok record) <;>
      simp [Receipt.counted, hf, List.count_cons, Except.isOk, Except.toBool]

/-- Every failure that is received is counted once, with its topic and its severity. -/
theorem count_busErrors {topic severity : String} (x : Receipt) :
    x.counted.count (.busErrors topic severity) =
      if x.topic = topic ∧ x.result.failure?.map Bus.Failure.severity = some severity then 1
      else 0 := by
  obtain ⟨n, t, f | record⟩ := x
  · simp [Receipt.counted, List.count_cons, Bus.Result.failure?]
  · cases hf : Bus.Result.fault? (.ok record) <;>
      simp [Receipt.counted, hf, Bus.Result.failure?]

/-- Every record that cannot be decoded is counted once, with what is wrong with it. -/
theorem count_decodeErrors {kind : String} (x : Receipt) :
    x.counted.count (.decodeErrors "bus" kind) =
      if x.result.fault?.map CodecError.kind = some kind then 1 else 0 := by
  obtain ⟨n, t, f | record⟩ := x
  · simp [Receipt.counted, Bus.Result.fault?]
  · cases hf : Bus.Result.fault? (.ok record) <;>
      simp [Receipt.counted, hf, List.count_cons]

/-- **What bridges do with what they receive**, whatever comes, in whatever order, and
whenever a bridge is cancelled or the hub stops.

* The messages that a bridge has handed over are those of the records that it has
  received, in order and once each; it holds one that it has not handed over yet, or
  the hub has refused it (`Bridge.Ingested`).  What cannot be decoded and transient
  failures end nothing: a bridge is over by the first closing or fatal result that it
  receives, by the refusal of its last message, or because it is cancelled.
* A bridge that is cancelled where it waits or rests is over by its next step; so is a
  bridge that is refused a message.
* A bridge that is cancelled or over receives nothing any more, and one that is over
  stays over in the same way.
* The records that were received are counted by topic, the failures by topic and
  severity, and the records that cannot be decoded by what is wrong with them. -/
theorem ingested_exactly (hr : Run (Move P) (.start settings) record r) :
    (∀ n i, r.inlets[n]? = some i →
      i.bridge.Ingested (results n record) (handed (.bridge n) record) ∧
      (i.bridge = .ended .cancelled → Cancelled i r) ∧
      (i.bridge = .ended .hubStopped → r.hub.stopped) ∧
      (Cancelled i r → (i.bridge = .receiving ∨ ∃ wake, i.bridge = .pausing wake) →
        ∃ r' i', r.step (.bridge n) = some r' ∧ r'.inlets[n]? = some i' ∧
          i'.bridge = .ended .cancelled) ∧
      (r.hub.stopped → (∃ m, i.bridge = .forwarding m) →
        ∃ r' i', r.step (.bridge n) = some r' ∧ r'.inlets[n]? = some i' ∧
          i'.bridge = .ended .hubStopped) ∧
      (∀ later r', Run (Move P) r later r' →
        (Cancelled i r ∨ (∃ exit, i.bridge = .ended exit) → results n later = []) ∧
        ∀ exit, i.bridge = .ended exit →
          ∃ i', r'.inlets[n]? = some i' ∧ i'.bridge = .ended exit)) ∧
    (∀ topic, r.metrics.value (.busRecords topic) =
      (receipts record).countP fun x => x.topic = topic ∧ x.result.isOk) ∧
    (∀ topic severity, r.metrics.value (.busErrors topic severity) =
      (receipts record).countP fun x =>
        x.topic = topic ∧ x.result.failure?.map Bus.Failure.severity = some severity) ∧
    (∀ kind, r.metrics.value (.decodeErrors "bus" kind) =
      (receipts record).countP fun x => x.result.fault?.map CodecError.kind = some kind) := by
  refine ⟨fun n i hi => ?_, fun topic => ?_, fun topic severity => ?_, fun kind => ?_⟩
  · have hall := ingesting_of_run hr i hi
    refine ⟨hall.ingested, hall.cancelled, hall.refused, ?_, ?_, ?_⟩
    · intro hc hwaits
      have hsight := cancelled_iff.mpr hc
      have hdo : Bridge.Step i.pause (r.bridgeSight i) i.bridge (.ended .cancelled) [.leave] := by
        rcases hwaits with hb | ⟨wake, hb⟩
        · rw [hb]
          exact .cancel hsight
        · rw [hb]
          exact .interrupt hsight
      exact exists_stepBridge hi (Bridge.step_iff.mpr hdo)
    · rintro hs ⟨m, hb⟩
      have hdo : Bridge.Step i.pause (r.bridgeSight i) i.bridge (.ended .hubStopped) [.leave] := by
        rw [hb]
        exact .refused (if_pos hs)
      exact exists_stepBridge hi (Bridge.step_iff.mpr hdo)
    · exact fun later r' hr' => ⟨fun hd => results_eq_nil hi hd hr', fun exit he =>
        ended_of_run hi he hr'⟩
  · rw [value_of_run hr rfl, count_flatMap_eq_countP]
    simpa using count_busRecords
  · rw [value_of_run hr rfl, count_flatMap_eq_countP]
    simpa using count_busErrors
  · rw [value_of_run hr rfl, count_flatMap_eq_countP]
    simpa using count_decodeErrors

/-- Of two records one can be decoded; then the channel fails for good. -/
theorem ingested_exactly_failed :
    let publish (text : String) : Act := .useInlet 0 (.publish (.ofText text))
    let good := "\x7b\"specversion\":\"1.0\",\"id\":\"1\",\"source\":\"/s\",\"type\":\"t\"," ++
      "\"data\":\x7b\"broadcast\":true,\"payload\":7\x7d\x7d"
    let P := Population.ofIdentities fun _ => .ofParts "bob" "acme" []
    let r₀ : Relay := .start {}
    let r₁ := (Act.beginBridge "orders" 8 200).next r₀
    let r₂ := (publish good).next r₁
    let r₃ := (publish "hello").next r₂
    let r₄ := (Act.useInlet 0 (.fail (.fatal "gone"))).next r₃
    let r₅ := (Act.step (.bridge 0)).next r₄
    let r₆ := (Act.step (.bridge 0)).next r₅
    let r₇ := (Act.step (.bridge 0)).next r₆
    let r₈ := (Act.step (.bridge 0)).next r₇
    let record := [(r₀, .beginBridge "orders" 8 200), (r₁, publish good), (r₂, publish "hello"),
      (r₃, .useInlet 0 (.fail (.fatal "gone"))), (r₄, .step (.bridge 0)), (r₅, .step (.bridge 0)),
      (r₆, .step (.bridge 0)), (r₇, .step (.bridge 0))]
    Run (Move P) r₀ record r₈ ∧
      Bridge.OverBy (.consumerFailed "gone") (results 0 record) (handed (.bridge 0) record) ∧
      (handed (.bridge 0) record).length = 1 ∧
      ((receipts record).countP fun x => x.topic = "orders" ∧ x.result.isOk) = 2 := by
  intro publish good P r₀ r₁ r₂ r₃ r₄ r₅ r₆ r₇ r₈ record
  have hbegin : Move P r₀ (.beginBridge "orders" 8 200) r₁ := ⟨trivial, rfl⟩
  have hgood : Move P r₁ (publish good) r₂ := ⟨trivial, rfl⟩
  have hhello : Move P r₂ (publish "hello") r₃ := ⟨trivial, rfl⟩
  have hgone : Move P r₃ (.useInlet 0 (.fail (.fatal "gone"))) r₄ := ⟨trivial, rfl⟩
  have htake : Move P r₄ (.step (.bridge 0)) r₅ := move_step (by decide +kernel)
  have hsubmit : Move P r₅ (.step (.bridge 0)) r₆ := move_step (by decide +kernel)
  have hskip : Move P r₆ (.step (.bridge 0)) r₇ := move_step (by decide +kernel)
  have hfail : Move P r₇ (.step (.bridge 0)) r₈ := move_step (by decide +kernel)
  have hr : Run (Move P) r₀ record r₈ :=
    (((((((Run.stay.move hbegin).move hgood).move hhello).move hgone).move htake).move
      hsubmit).move hskip).move hfail
  have hover : (r₈.inlets[0]?).any fun i => i.bridge.exit? = some (.consumerFailed "gone") := by
    decide +kernel
  obtain ⟨i, hi, hexit⟩ := (Option.any_eq_true _ _).mp hover
  obtain ⟨hbridges, hrecords, -, -⟩ := ingested_exactly hr
  obtain ⟨hingested, -⟩ := hbridges 0 i hi
  have hended : i.bridge = .ended (.consumerFailed "gone") := by
    revert hexit
    cases i.bridge with
    | receiving | forwarding | pausing => exact nofun
    | ended exit => exact fun he => congrArg Bridge.ended (Option.some.inj (of_decide_eq_true he))
  rw [hended] at hingested
  refine ⟨hr, hingested, by decide +kernel, ?_⟩
  rw [← hrecords "orders"]
  decide +kernel

end Relay
end Switchboard
