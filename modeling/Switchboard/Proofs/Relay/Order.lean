import Switchboard.Proofs.Relay.Frames
import Switchboard.Proofs.Relay.Ghosts
import Switchboard.Proofs.Relay.Submitters

/-! # Order and origin of what reaches a client

Between a submitter and the transport of a client a message passes four queues:
what the submitter has received, the mailbox of the hub, the queue of the
connection and the frame that the write pump is about.  Each of them is emptied
at one end and filled at the other, and what is lost on the way is never brought
back.  So the frames with data that reach the client come from messages that the
submitters have received, and those of one submitter come in the order in which it
received them (`written_in_order`). -/
namespace Switchboard

/-- Where two lists agree as far as the second one goes, what is picked from both
together is some of what can be picked from the first. -/
theorem filterMap_zip_sublist {α β γ δ : Type} {f : α → γ} {g : β → γ} {F : α × β → Option δ}
    {G : α → Option δ} {xs : List α} {ys : List β} (hpre : ys.map g <+: xs.map f)
    (hpick : ∀ x y z, f x = g y → F (x, y) = some z → G x = some z) :
    ((xs.zip ys).filterMap F).Sublist (xs.filterMap G) := by
  induction ys generalizing xs with
  | nil =>
    rw [List.zip_nil_right]
    exact List.nil_sublist _
  | cons y ys ih =>
    cases xs with
    | nil => exact List.nil_sublist _
    | cons x xs =>
      rw [List.map_cons, List.map_cons, List.cons_prefix_cons] at hpre
      obtain ⟨hhead, hrest⟩ := hpre
      rw [List.zip_cons_cons]
      cases hF : F (x, y) with
      | some z =>
        rw [List.filterMap_cons_some hF, List.filterMap_cons_some (hpick x y z hhead.symm hF)]
        exact (ih hrest).cons_cons z
      | none =>
        -- the first may still have something to pick here
        rw [List.filterMap_cons_none hF]
        cases hG : G x with
        | none =>
          rw [List.filterMap_cons_none hG]
          exact ih hrest
        | some z =>
          rw [List.filterMap_cons_some hG]
          exact (ih hrest).cons z

/-- Reading from a socket leaves alone what was written and what is kept. -/
theorem Socket.untouched_by_reading (acts : List ReadPump.Act) (k : Socket) :
    (acts.foldl (fun k x => Relay.onReading x k) k).dataWritten = k.dataWritten ∧
      (k.KeepsNoData → (acts.foldl (fun k x => Relay.onReading x k) k).KeepsNoData) :=
  Relay.keeps_reading
    (I := fun k' => k'.dataWritten = k.dataWritten ∧ (k.KeepsNoData → k'.KeepsNoData))
    (fun k' ⟨hwritten, hkept⟩ =>
      ⟨k'.dataWritten_take.trans hwritten, fun hk => keepsNoData_take (hkept hk)⟩)
    acts ⟨rfl, id⟩

/-- A write pump stays faithful when what was written and what is kept are left
alone. -/
theorem WritePump.Faithful.congr {frames : List Frame} {k k' : Socket} {p : WritePump}
    (hf : p.Faithful frames k) (hwritten : k'.dataWritten = k.dataWritten)
    (hkept : k.KeepsNoData → k'.KeepsNoData) : p.Faithful frames k' := by
  cases p with
  | starting | idle | closingFrame | closingSink => exact ⟨hwritten.trans hf.1, hkept hf.2⟩
  | writing f => exact (congrArg (· ++ [f].filter Frame.isData) hwritten).trans hf
  | leaving | ended | broken =>
    show k'.dataWritten <+: frames
    rw [hwritten]
    exact hf

namespace Relay

variable {P : Population} {r r' : Relay} {a : Act} {n : Nat} {s s' : Session}
  {record : List (Relay × Act)} {settings : Settings}

/-- Only the write pump of a session reads the queue of its client. -/
theorem Part.of_read {b : Hub.Act} {id : ConnectionId} (hpart : Part r a b)
    (hb : b = .use id .read) :
    ∃ (m : Nat) (s : Session), a = .step (.writer m) ∧ r.sessions[m]? = some s ∧
      s.client.connection = id := by
  cases hpart with
  | ofQueue hs hu =>
    cases hb
    exact ⟨_, _, rfl, hs, rfl⟩
  | work | register | unregister | deliver | close | connect | ask | askStop => cases hb

/-- The frames of what the write pump of a session has taken from the queue of
its client. -/
def takenFrames (s : Session) (record : List (Relay × Act)) : List Frame :=
  (Hub.readOut s.client (hubRecord record)).map Payload.frame

/-- The write pump of a session is faithful to what it has taken; one that has
not begun has written nothing. -/
def FaithfulSession (record : List (Relay × Act)) (s : Session) : Prop :=
  (s.writer.getD .starting).Faithful (takenFrames s record) s.socket

/-- While its write pump takes no step, nothing is taken from the queue of a
session's client. -/
theorem takenFrames_snoc_of_ne (hb : Based P r) (hm : Move P r a r')
    (hs : r.sessions[n]? = some s) (ha : a ≠ .step (.writer n)) :
    takenFrames s (record ++ [(r, a)]) = takenFrames s record := by
  have hnone : Hub.readOut s.client (r.hub.trail (a.onHub r)) = [] := by
    refine Hub.readOut_trail_eq_nil fun hin => ?_
    obtain ⟨m, d, rfl, hd, hconnection⟩ := (part_of_mem hm hin).of_read rfl
    obtain rfl := hb.distinct m n d s hd hs hconnection
    exact ha rfl
  rw [takenFrames, hubRecord_snoc, Hub.readOut_append, hnone, List.append_nil]
  rfl

/-- A step of the write pump reads from the queue if it takes something. -/
theorem not_read_of_not_take {c : Client} {acts : List WritePump.Act} (hn : .take ∉ acts) :
    .use c.connection .read ∉ acts.filterMap (WritePump.Act.onHub c) := by
  intro hin
  obtain ⟨x, hx, hread⟩ := List.mem_filterMap.mp hin
  cases x with
  | take => exact hn hx
  | offer | finish | submit | close | abandon => cases hread

/-- A step of the write pump keeps its session faithful. -/
theorem faithful_of_write {p q : WritePump} {acts : List WritePump.Act}
    (hf : FaithfulSession record s) (hq : s.queue = none) (hs : r.sessions[n]? = some s)
    (hp : s.writer = some p)
    (hstep : p.step r.timing s.client (r.writeSight s) = some (q, acts)) :
    FaithfulSession (record ++ [(r, .step (.writer n))])
      { s with writer := some q, socket := acts.foldl (fun k x => onWriting x k) s.socket } := by
  have hpump : p.Faithful (takenFrames s record) s.socket := by
    rw [FaithfulSession, hp] at hf
    exact hf
  have hacts : Act.onHub r (.step (.writer n)) = acts.filterMap (WritePump.Act.onHub s.client) :=
    stepOnHub_writer hs hp hstep
  show q.Faithful (takenFrames s (record ++ [(r, .step (.writer n))])) _
  rw [takenFrames, hubRecord_snoc, Hub.readOut_append, hacts]
  rcases hpump.step ⟨fun _ => rfl, rfl⟩ hstep with
    ⟨hnone, hafter⟩ | ⟨payload, rest, hqueue, rfl, hnone, hafter⟩
  · rw [Hub.readOut_trail_eq_nil (not_read_of_not_take hnone), List.append_nil]
    exact hafter
  · -- the first act takes what the pump has seen in the queue
    have hseen : (r.connection s.client).receive.1 = .payload payload := by
      have hfront : s.front (r.connection s.client) = .payload payload := hqueue
      rwa [Session.front, hq] at hfront
    have hread : Hub.readOut s.client (r.hub.trail ((WritePump.Act.take :: rest).filterMap
        (WritePump.Act.onHub s.client))) = [payload] := by
      show (Hub.Act.use s.client.connection .read).readOut s.client.connection r.hub ++
        Hub.readOut s.client (((Hub.Act.use s.client.connection .read).next r.hub).trail
          (rest.filterMap (WritePump.Act.onHub s.client))) = [payload]
      rw [Hub.readOut_trail_eq_nil (not_read_of_not_take hnone), Hub.Act.readOut, if_pos rfl]
      show Connection.payloads (r.connection s.client).receive.1 ++ [] = [payload]
      rw [hseen]
      rfl
    rw [hread, List.map_append]
    exact hafter

/-- **The write pumps of all sessions are faithful.** -/
theorem faithful_of_run (hr : Run (Move P) (.start settings) record r)
    (hs : r.sessions[n]? = some s) : FaithfulSession record s := by
  induction hr generalizing n s with
  | stay => exact absurd hs not_session_start
  | @move record r r' a hbefore hm ih =>
    obtain ⟨hhub, hb⟩ := run_hub hbefore
    rcases session_of_move hb.joined hm hs with ⟨d, hd, ht⟩ | ⟨identity, socket, rfl, -, rfl⟩
    · have hfaithful := ih hd
      cases ht with
      | write hp hstep => exact faithful_of_write hfaithful (hb.joined n d hd) hd hp hstep
      | @read p q acts hp hstep =>
        obtain ⟨hwritten, hkept⟩ := Socket.untouched_by_reading acts d.socket
        show WritePump.Faithful (takenFrames d _) _ (d.writer.getD .starting)
        rw [takenFrames_snoc_of_ne hb hm hd nofun]
        exact hfaithful.congr hwritten hkept
      | peer u =>
        show WritePump.Faithful (takenFrames d _) (u.on d.socket) (d.writer.getD .starting)
        rw [takenFrames_snoc_of_ne hb hm hd nofun]
        exact hfaithful.congr (Socket.dataWritten_use u d.socket) (Socket.keepsNoData_use u)
      | still ha =>
        rw [FaithfulSession, takenFrames_snoc_of_ne hb hm hd fun he => ha (by rw [he]; rfl)]
        exact hfaithful
      | keep hstep =>
        have hsame : takenFrames d (record ++ [(r, .step (.session n))]) = takenFrames d record :=
          takenFrames_snoc_of_ne hb hm hd nofun
        cases Session.step_iff.mp hstep with
        | register hstage =>
          -- the pump that begins is the first one
          have hnone : d.writer = none := by
            have hphases := (sound_of_run hbefore hd).opening hstage
            simpa [phases] using (List.append_eq_nil_iff.mp hphases).2
          show WritePump.Faithful (takenFrames d _) d.socket .starting
          rw [FaithfulSession, hnone] at hfaithful
          exact hsame ▸ hfaithful
        | refuse | finish =>
          show WritePump.Faithful (takenFrames d _) d.socket (d.writer.getD .starting)
          exact hsame ▸ hfaithful
    · -- nothing was ever taken from a connection that was not opened before
      obtain ⟨⟨hc, hfresh, hsocket⟩, -⟩ := id hm
      have hnone : Hub.readOut (r.newcomer identity) (hubRecord record) = [] := by
        rw [← Hub.readOut_switchRecord]
        exact ((Switch.kept_of_run (Hub.run_switch hhub) hc).unopened hfresh).2
      show socket.dataWritten = takenFrames (.start (r.newcomer identity) socket) _ ∧
        socket.KeepsNoData
      rw [takenFrames, hubRecord_snoc, Hub.readOut_append]
      show socket.dataWritten =
        (Hub.readOut (r.newcomer identity) (hubRecord record) ++ []).map _ ∧ _
      rw [hnone]
      exact hsocket.untouched

/-- What the hub does by itself is a step of it. -/
theorem exists_of_work_mem {g : Hub} (hr : Run (Move P) (.start settings) record r)
    (hin : (g, .work) ∈ hubRecord record) : ∃ u, (u, Act.step .hub) ∈ record ∧ u.hub = g := by
  induction hr with
  | stay => cases hin
  | @move record r r' a hbefore hm ih =>
    rw [hubRecord_snoc] at hin
    rcases List.mem_append.mp hin with hin | hin
    · obtain ⟨u, hu, he⟩ := ih hin
      exact ⟨u, List.mem_append_left _ hu, he⟩
    · cases part_of_mem hm (Hub.mem_of_mem_trail hin) with
      | work =>
        obtain ⟨rfl, -⟩ := Prod.mk.inj (List.mem_singleton.mp hin)
        exact ⟨r, List.mem_append_right _ List.mem_cons_self, rfl⟩

/-! ## Who submitted what is delivered -/

/-- **The messages that were delivered to a client** along a run, in the order in
which they were applied, each with the task that submitted it.  The mailbox is a
queue, so the event that is applied as the n-th is the one that was submitted as
the n-th. -/
def deliveries (c : Client) (record : List (Relay × Act)) : List (Option Task × RoutedMessage) :=
  ((posted record).zip (Hub.works (hubRecord record))).filterMap fun (p, w) =>
    (Event.messageFor? c w.1.switch w.2).map (Prod.mk p.1)

/-- The events that were applied are the first of those that were submitted. -/
theorem works_begin_posted (hr : Run (Move P) (.start settings) record r) :
    (Hub.works (hubRecord record)).map Prod.snd <+: (posted record).map Prod.snd := by
  rw [Hub.map_snd_works, map_snd_posted]
  exact Hub.applied_begins_submitted (run_hub hr).1

theorem map_snd_deliveries (hr : Run (Move P) (.start settings) record r) (c : Client) :
    (deliveries c record).map Prod.snd = Hub.delivered c (hubRecord record) := by
  -- no more was applied than submitted, so the pairs leave out nothing that was applied
  have hlength := (works_begin_posted hr).length_le
  rw [List.length_map, List.length_map] at hlength
  have hzip := List.map_snd_zip hlength
  rw [Hub.delivered_eq, ← hzip, deliveries, List.map_filterMap, List.filterMap_map]
  congr 1
  funext m
  obtain ⟨p, w⟩ := m
  show ((Event.messageFor? c w.1.switch w.2).map (Prod.mk p.1)).map Prod.snd =
    Event.messageFor? c w.1.switch w.2
  cases Event.messageFor? c w.1.switch w.2 <;> rfl

/-- **What is delivered to a client are some of the messages that were
submitted**, in the same order. -/
theorem deliveries_sublist (hr : Run (Move P) (.start settings) record r) (c : Client) :
    (deliveries c record).Sublist (submissions record) := by
  refine filterMap_zip_sublist (works_begin_posted hr) ?_
  rintro ⟨o, e⟩ ⟨h, e'⟩ d rfl hd
  obtain ⟨m, hm, rfl⟩ := Option.map_eq_some_iff.mp hd
  show e.message?.map (Prod.mk o) = some (o, m)
  rw [Hub.message?_of_messageFor? hm]
  rfl

/-- **Order and origin of what reaches a client.**  The frames with data that were
written to the transport of a client are the frames of the first messages that
were delivered to it, each once; and whenever one was applied, it was resolved to
the client.  Those that come from one submitter are some of the messages that it
received, in the order in which it received them.  No frame with data comes from
anywhere else. -/
theorem written_in_order (hr : Run (Move P) (.start settings) record r)
    (hs : r.sessions[n]? = some s) :
    ∃ sent, sent <+: deliveries s.client record ∧
      s.socket.dataWritten = sent.map (fun d => d.2.payload.frame) ∧
      (∀ d ∈ sent, (∃ t, d.1 = some t ∧ d.2 ∈ received t record) ∧
        ∃ u, (u, Act.step .hub) ∈ record ∧ u.hub.next? = some (.deliver d.2) ∧
          s.client ∈ u.hub.switch.registry.resolve d.2.audience) ∧
      ∀ t, ((sent.filter fun d => d.1 = some t).map Prod.snd).Sublist (received t record) := by
  obtain ⟨hhub, hb⟩ := run_hub hr
  have hc := hb.known n s hs
  -- from the transport back over the pump and the queue to the deliveries
  have hwritten : s.socket.dataWritten <+:
      ((Hub.delivered s.client (hubRecord record)).map RoutedMessage.payload).map Payload.frame :=
    (faithful_of_run hr hs).begins.trans ((Hub.readOut_begins_delivered hhub hc).map _)
  rw [← map_snd_deliveries hr, List.map_map, List.map_map, List.prefix_map_iff] at hwritten
  obtain ⟨sent, hsent, hframes⟩ := hwritten
  -- and from there over the mailbox to the submitters
  have hsub : sent.Sublist (submissions record) :=
    hsent.sublist.trans (deliveries_sublist hr s.client)
  have horder : ∀ t, ((sent.filter fun d => d.1 = some t).map Prod.snd).Sublist
      (received t record) := by
    intro t
    refine List.Sublist.trans ?_ (handed_sublist_received hr t)
    rw [← submissions_of_task]
    exact (hsub.filter _).map _
  refine ⟨sent, hsent, hframes, fun d hd => ⟨?_, ?_⟩, horder⟩
  · obtain ⟨t, ht⟩ := exists_task_of_mem_submissions (hsub.subset hd)
    refine ⟨t, ht, (horder t).subset (List.mem_map.mpr ⟨d, ?_, rfl⟩)⟩
    exact List.mem_filter.mpr ⟨hd, decide_eq_true ht⟩
  · have hdelivered : d.2 ∈ Hub.delivered s.client (hubRecord record) := by
      rw [← map_snd_deliveries hr]
      exact List.mem_map.mpr ⟨d, hsent.subset hd, rfl⟩
    obtain ⟨g, hin, hnext, hresolved⟩ := Hub.exists_of_mem_delivered hhub hc hdelivered
    obtain ⟨u, hu, rfl⟩ := exists_of_work_mem hr hin
    exact ⟨u, hu, hnext, hresolved⟩

/-- Bob and Anna come.  Anna sends something that is no message, and then a message
for everyone; and she comes again, so the connection that she had first is closed before
its read pump has taken anything.  The pump turns to the transport first all the same.  One
frame reaches Bob, and it comes from a message that a task has received. -/
theorem written_in_order_skipped :
    let bob : Identity := .ofParts "bob" "acme" []
    let anna : Identity := .ofParts "anna" "acme" []
    let coming (identity : Identity) : Act := .join identity (.toLocal .ready false)
    let text (s : String) : Act := .useSocket 1 (.arrive (.frame (.text s)))
    let r₀ : Relay := .start {}
    let P := Population.ofIdentities fun id =>
      if id = (r₀.newcomer bob).connection then bob else anna
    let r₁ := (coming bob).next r₀
    let r₂ := (coming anna).next r₁
    let r₃ := (Act.step (.session 0)).next r₂
    let r₄ := (Act.step .hub).next r₃
    let r₅ := (Act.step (.session 1)).next r₄
    let r₆ := (Act.step .hub).next r₅
    let r₇ := (text "hello").next r₆
    let r₈ := (text "\x7b\"broadcast\":true,\"payload\":7\x7d").next r₇
    let r₉ := (coming anna).next r₈
    let r₁₀ := (Act.step (.session 2)).next r₉
    let r₁₁ := (Act.step .hub).next r₁₀
    let r₁₂ := (Act.draw true).next r₁₁
    let r₁₃ := (Act.step (.reader 1)).next r₁₂
    let r₁₄ := (Act.step (.reader 1)).next r₁₃
    let r₁₅ := (Act.step (.reader 1)).next r₁₄
    let r₁₆ := (Act.step .hub).next r₁₅
    let r₁₇ := (Act.step (.writer 0)).next r₁₆
    let r₁₈ := (Act.step (.writer 0)).next r₁₇
    let record := [(r₀, coming bob), (r₁, coming anna), (r₂, .step (.session 0)), (r₃, .step .hub),
      (r₄, .step (.session 1)), (r₅, .step .hub), (r₆, text "hello"),
      (r₇, text "\x7b\"broadcast\":true,\"payload\":7\x7d"), (r₈, coming anna),
      (r₉, .step (.session 2)), (r₁₀, .step .hub), (r₁₁, .draw true), (r₁₂, .step (.reader 1)),
      (r₁₃, .step (.reader 1)), (r₁₄, .step (.reader 1)), (r₁₅, .step .hub),
      (r₁₆, .step (.writer 0)), (r₁₇, .step (.writer 0))]
    Run (Move P) r₀ record r₁₈ ∧
      ((r₁₂.sessions[1]?).any fun s => (r₁₂.connection s.client).closed) ∧
      ∃ s, r₁₈.sessions[0]? = some s ∧ s.socket.dataWritten = [.text "7"] ∧
        ∃ m t, m ∈ received t record ∧ m.payload.frame = .text "7" := by
  intro bob anna coming text r₀ P r₁ r₂ r₃ r₄ r₅ r₆ r₇ r₈ r₉ r₁₀ r₁₁ r₁₂ r₁₃ r₁₄ r₁₅ r₁₆ r₁₇ r₁₈
    record
  have hbob : r₀.newcomer bob ∈ P := (if_pos rfl).symm
  have hother : (r₁.newcomer anna).connection ≠ (r₀.newcomer bob).connection := by decide +kernel
  have hanna : r₁.newcomer anna ∈ P := (if_neg hother).symm
  have hthird : (r₈.newcomer anna).connection ≠ (r₀.newcomer bob).connection := by decide +kernel
  have hannaAgain : r₈.newcomer anna ∈ P := (if_neg hthird).symm
  have hbobComes : Move P r₀ (coming bob) r₁ := ⟨⟨hbob, by decide +kernel, .toLocal _ _⟩, rfl⟩
  have hannaComes : Move P r₁ (coming anna) r₂ := ⟨⟨hanna, by decide +kernel, .toLocal _ _⟩, rfl⟩
  have hbobRegisters : Move P r₂ (.step (.session 0)) r₃ := move_step (by decide +kernel)
  have happlyBob : Move P r₃ (.step .hub) r₄ := move_step (by decide +kernel)
  have hannaRegisters : Move P r₄ (.step (.session 1)) r₅ := move_step (by decide +kernel)
  have happlyAnna : Move P r₅ (.step .hub) r₆ := move_step (by decide +kernel)
  have hhello : Move P r₆ (text "hello") r₇ := ⟨trivial, rfl⟩
  have hmessage : Move P r₇ (text "\x7b\"broadcast\":true,\"payload\":7\x7d") r₈ := ⟨trivial, rfl⟩
  have hreturns : Move P r₈ (coming anna) r₉ :=
    ⟨⟨hannaAgain, by decide +kernel, .toLocal _ _⟩, rfl⟩
  have hregistersAgain : Move P r₉ (.step (.session 2)) r₁₀ := move_step (by decide +kernel)
  have hsupersede : Move P r₁₀ (.step .hub) r₁₁ := move_step (by decide +kernel)
  have hdraw : Move P r₁₁ (.draw true) r₁₂ := ⟨trivial, rfl⟩
  have hskip : Move P r₁₂ (.step (.reader 1)) r₁₃ := move_step (by decide +kernel)
  have htake : Move P r₁₃ (.step (.reader 1)) r₁₄ := move_step (by decide +kernel)
  have hsubmit : Move P r₁₄ (.step (.reader 1)) r₁₅ := move_step (by decide +kernel)
  have hdeliver : Move P r₁₅ (.step .hub) r₁₆ := move_step (by decide +kernel)
  have hbegin : Move P r₁₆ (.step (.writer 0)) r₁₇ := move_step (by decide +kernel)
  have hwrite : Move P r₁₇ (.step (.writer 0)) r₁₈ := move_step (by decide +kernel)
  have hcomes : Run (Move P) r₀ (record.take 8) r₈ :=
    (((((((Run.stay.move hbobComes).move hannaComes).move hbobRegisters).move happlyBob).move
      hannaRegisters).move happlyAnna).move hhello).move hmessage
  have hr : Run (Move P) r₀ record r₁₈ :=
    (((((((((hcomes.move hreturns).move hregistersAgain).move hsupersede).move hdraw).move
      hskip).move htake).move hsubmit).move hdeliver).move hbegin).move hwrite
  have hwritten : (r₁₈.sessions[0]?).any fun s => s.socket.dataWritten = [.text "7"] := by
    decide +kernel
  obtain ⟨s, hs, hwritten⟩ := (Option.any_eq_true _ _).mp hwritten
  have hwritten : s.socket.dataWritten = [.text "7"] := of_decide_eq_true hwritten
  refine ⟨hr, by decide +kernel, s, hs, hwritten, ?_⟩
  obtain ⟨sent, -, hframes, horigin, -⟩ := written_in_order hr hs
  rw [hwritten] at hframes
  obtain ⟨d, rfl, hd⟩ := List.map_eq_singleton_iff.mp hframes.symm
  obtain ⟨⟨t, -, hreceived⟩, -⟩ := horigin d List.mem_cons_self
  exact ⟨d.2, t, hreceived, hd⟩

end Relay
end Switchboard
