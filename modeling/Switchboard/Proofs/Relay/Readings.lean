import Switchboard.Proofs.Relay.Ghosts
import Switchboard.Proofs.Relay.Submitters
import Switchboard.Proofs.Relay.Tallies
import Switchboard.Proofs.Relay.Teardown

/-! # The read pumps of a relay

What the read pump of a session takes, sees and submits along a run of a relay makes a
run of a read pump that is fed what it takes (`isReading_of_run`).  So what read pumps
make of what they take is so in every relay, and what they skip is counted there by its
kind (`value_of_readings`). -/
namespace Switchboard
namespace Relay

variable {P : Population} {r r' : Relay} {a : Act} {n : Nat} {s s' : Session} {p : ReadPump}
  {series : Series} {settings : Settings} {record : List (Relay × Act)}

/-- An item that the read pump of a session has taken. -/
structure Reading where
  session : Nat
  item : Incoming

/-- What the read pump of a session takes by its next step. -/
def readNext (n : Nat) (r : Relay) : List Incoming :=
  (r.sessions[n]?.bind fun s => s.reader.map fun p => p.taken (r.readSight s)).getD []

/-- What the read pumps take by an act. -/
def Act.readings (r : Relay) : Act → List Reading
  | step (.reader n) => (r.readNext n).map (Reading.mk n)
  | _ => []

/-- What the read pumps have taken along a run. -/
def readings (record : List (Relay × Act)) : List Reading := observe Act.readings record

/-- What the read pump of a session has taken along a run. -/
def readBy (n : Nat) (record : List (Relay × Act)) : List Incoming :=
  ((readings record).filter fun x => x.session = n).map Reading.item

/-- What the read pump of a session sees when it takes a step. -/
def Act.sights (n : Nat) (r : Relay) : Act → List ReadPump.Sight
  | step t => if t = .reader n then (r.sessions[n]?.map fun s => r.readSight s).toList else []
  | _ => []

/-- What the read pump of a session has seen along a run. -/
def sights (n : Nat) (record : List (Relay × Act)) : List ReadPump.Sight :=
  observe (Act.sights n) record

theorem readBy_snoc : readBy n (record ++ [(r, a)]) =
    readBy n record ++ ((a.readings r).filter fun x => x.session = n).map Reading.item := by
  rw [readBy, readings, observe_snoc, List.filter_append, List.map_append]
  rfl

theorem sights_snoc : sights n (record ++ [(r, a)]) = sights n record ++ a.sights n r :=
  observe_snoc _ record r a

/-- By its own step a read pump takes what it sees. -/
theorem readNext_eq (hs : r.sessions[n]? = some s) (hp : s.reader = some p) :
    r.readNext n = p.taken (r.readSight s) := by
  simp [readNext, hs, hp]

theorem readBy_step : readBy n (record ++ [(r, .step (.reader n))]) =
    readBy n record ++ r.readNext n := by
  rw [readBy_snoc, Act.readings, List.filter_eq_self.mpr, List.map_map]
  · exact congrArg (readBy n record ++ ·) (List.map_id _)
  · intro x hx
    obtain ⟨i, -, rfl⟩ := List.mem_map.mp hx
    exact decide_eq_true rfl

/-- **By other acts** a read pump takes nothing, sees nothing and submits nothing. -/
theorem read_of_ne (ha : a ≠ .step (.reader n)) (r : Relay) (record : List (Relay × Act)) :
    readBy n (record ++ [(r, a)]) = readBy n record ∧
      sights n (record ++ [(r, a)]) = sights n record ∧
      handed (.reader n) (record ++ [(r, a)]) = handed (.reader n) record := by
  have hreadings : (a.readings r).filter (fun x => x.session = n) = [] := by
    refine List.filter_eq_nil_iff.mpr fun x hx => ?_
    unfold Act.readings at hx
    split at hx
    · next k =>
      obtain ⟨i, -, rfl⟩ := List.mem_map.mp hx
      intro hk
      obtain rfl : k = n := of_decide_eq_true hk
      exact ha rfl
    · cases hx
  have hsights : a.sights n r = [] := by
    unfold Act.sights
    split
    · exact if_neg fun he => ha (by rw [he])
    · rfl
  refine ⟨?_, ?_, ?_⟩
  · rw [readBy_snoc, hreadings]
    exact List.append_nil _
  · rw [sights_snoc, hsights, List.append_nil]
  · rw [handed_snoc, handed_of_ne ha, List.append_nil]

/-- A read pump that has begun does not go away. -/
theorem Turn.reader_isSome (ht : Turn r n s a s') (hp : s.reader.isSome) : s'.reader.isSome := by
  cases ht with
  | read => rfl
  | write | peer | still => exact hp
  | keep hstep =>
    cases Session.step_iff.mp hstep with
    | register => rfl
    | refuse | finish => exact hp

/-- What the read pump of a session makes a run of. -/
def IsReading (n : Nat) (record : List (Relay × Act)) (r : Relay) (s : Session) (p : ReadPump) :
    Prop :=
  ∃ now, ∀ rest, ∃ seen,
    Run (ReadPump.Move r.timing s.client) ⟨.start r.timing now, readBy n record ++ rest⟩ seen
      ⟨p, rest⟩ ∧
    seen.map Prod.snd = sights n record ∧
    ReadPump.submitted r.timing s.client seen = handed (.reader n) record

/-- **The read pump of a session goes on as a read pump.** -/
theorem IsReading.step {q : ReadPump} {acts : List ReadPump.Act} (h : IsReading n record r s p)
    (hs : r.sessions[n]? = some s) (hp : s.reader = some p)
    (hdo : p.step r.timing s.client (r.readSight s) = some (q, acts))
    (ht : r'.timing = r.timing) (hc : s'.client = s.client) :
    IsReading n (record ++ [(r, .step (.reader n))]) r' s' q := by
  obtain ⟨now, hrun⟩ := h
  refine ⟨now, fun rest => ?_⟩
  obtain ⟨seen, hr, hsights, hsubmitted⟩ := hrun (p.taken (r.readSight s) ++ rest)
  rw [ht, hc, readBy_step, readNext_eq hs hp, List.append_assoc]
  refine ⟨_, hr.move (a := r.readSight s) (u := ⟨q, rest⟩) ⟨⟨acts, hdo⟩, rfl⟩, ?_, ?_⟩
  · have hsight : (Act.step (.reader n)).sights n r = [r.readSight s] := by
      rw [Act.sights, if_pos rfl, hs]
      rfl
    rw [List.map_append, hsights, sights_snoc, hsight]
    rfl
  · have hhanded : (Act.step (.reader n)).handed (.reader n) r =
        (acts.filterMap (ReadPump.Act.onHub s.client)).filterMap Hub.Act.message? := by
      rw [Act.handed, if_pos rfl, stepOnHub_reader hs hp hdo]
    rw [ReadPump.submitted_snoc hdo, hsubmitted, handed_snoc, hhanded]

theorem IsReading.of_ne (h : IsReading n record r s p) (ha : a ≠ .step (.reader n))
    (ht : r'.timing = r.timing) (hc : s'.client = s.client) :
    IsReading n (record ++ [(r, a)]) r' s' p := by
  obtain ⟨hreadBy, hsights, hhanded⟩ := read_of_ne ha r record
  rw [IsReading, hreadBy, hsights, hhanded, ht, hc]
  exact h

/-- Nothing was taken, seen or submitted by the read pump of a session. -/
def Unread (n : Nat) (record : List (Relay × Act)) : Prop :=
  readBy n record = [] ∧ sights n record = [] ∧ handed (.reader n) record = []

theorem Unread.of_ne (h : Unread n record) (ha : a ≠ .step (.reader n)) (r : Relay) :
    Unread n (record ++ [(r, a)]) := by
  obtain ⟨hreadBy, hsights, hhanded⟩ := read_of_ne ha r record
  exact ⟨hreadBy.trans h.1, hsights.trans h.2.1, hhanded.trans h.2.2⟩

theorem Unread.begins (h : Unread n record) (now : Nat) :
    IsReading n record r s (.start r.timing now) := by
  obtain ⟨hreadBy, hsights, hhanded⟩ := h
  refine ⟨now, fun rest => ⟨[], ?_, ?_, ?_⟩⟩
  · rw [hreadBy]
    exact .stay
  · rw [hsights]
    rfl
  · rw [hhanded]
    rfl

/-- **The read pumps of a relay are read pumps**: what each of them takes, sees and
submits along a run makes a run of a read pump that is fed what it takes.  As long as a
session has no read pump, nothing of this happens. -/
theorem isReading_of_run (hr : Run (Move P) (.start settings) record r) :
    (∀ s p, r.sessions[n]? = some s → s.reader = some p → IsReading n record r s p) ∧
      ((∀ s, r.sessions[n]? = some s → s.reader = none) → Unread n record) := by
  induction hr with
  | stay => exact ⟨fun s p hs => absurd hs not_session_start, fun _ => ⟨rfl, rfl, rfl⟩⟩
  | @move record r r' a hbefore hm ih =>
    obtain ⟨hsome, hnone⟩ := ih
    have hq := (run_hub hbefore).2.joined
    have htiming : r'.timing = r.timing := timing_of_move hm
    constructor
    · intro s' p' hs' hp'
      rcases session_of_move hq hm hs' with ⟨s, hs, ht⟩ | ⟨identity, socket, -, -, rfl⟩
      swap
      · cases hp'
      cases ht with
      | @read p q acts hp hdo =>
        obtain rfl : q = p' := Option.some.inj hp'
        exact (hsome s p hs hp).step hs hp hdo htiming rfl
      | write | peer => exact (hsome s p' hs hp').of_ne nofun htiming rfl
      | still ha =>
        refine (hsome s' p' hs hp').of_ne ?_ htiming rfl
        rintro rfl
        exact ha rfl
      | keep hdo =>
        cases Session.step_iff.mp hdo with
        | refuse | finish => exact (hsome s p' hs hp').of_ne nofun htiming rfl
        | register hopening =>
          -- a session that is about to begin has had no pumps
          have hphases := (sound_of_run hbefore hs).opening hopening
          rw [phases, List.append_eq_nil_iff] at hphases
          have hunread : Unread n record := hnone fun s₁ hs₁ => by
            obtain rfl : s = s₁ := Option.some.inj (hs.symm.trans hs₁)
            simpa using hphases.1
          obtain rfl : ReadPump.start r.timing r.now = p' := Option.some.inj hp'
          have hunread' := hunread.of_ne (a := .step (.session n)) nofun r
          rw [← htiming]
          exact hunread'.begins r.now
    · intro hno
      have hnot : ∀ s, r.sessions[n]? = some s → s.reader = none := by
        intro s hs
        by_contra hne
        obtain ⟨s', hs', ht⟩ := turn_of_move hq hm hs
        have hstays := ht.reader_isSome (Option.ne_none_iff_isSome.mp hne)
        rw [hno s' hs'] at hstays
        cases hstays
      refine (hnone hnot).of_ne ?_ r
      rintro rfl
      obtain ⟨s, p, q, acts, hs, hp, -⟩ := sessions_stepReader (move_step_iff.mp hm)
      rw [hnot s hs] at hp
      cases hp

/-! ### What is counted -/

/-- The series in which a frame that cannot be decoded is counted. -/
def clientFault (e : CodecError) : Series := .decodeErrors "client" e.kind

theorem value_doRead (c : Client) (r : Relay) (x : ReadPump.Act) :
    (r.doRead n c x).metrics.value series = r.metrics.value series +
      ((x.decodeFault?.map clientFault).toList).count series := by
  cases x with
  | take | submit | close => rfl
  | skip e =>
    refine value_count.trans ?_
    simp only [ReadPump.Act.decodeFault?, Option.map_some, Option.toList_some, List.count_singleton,
      beq_iff_eq, eq_comm (a := series), clientFault]

/-- A read pump counts what is wrong with the frames that it takes. -/
theorem counted_of_step_reader {t : Timing} {c : Client} {s : ReadPump.Sight} {q : ReadPump}
    {acts : List ReadPump.Act} (hdo : p.step t c s = some (q, acts)) :
    (acts.flatMap fun x => (x.decodeFault?.map clientFault).toList) =
      ((p.taken s).map (Reading.mk n)).flatMap fun x =>
        (x.item.decodeFault?.map clientFault).toList := by
  rw [List.flatMap_map, ← List.filterMap_eq_flatMap_toList, ← List.filterMap_eq_flatMap_toList,
    ← List.map_filterMap, ← List.map_filterMap, ReadPump.skipped_of_step hdo]

/-- **What read pumps count is what they skip.** -/
theorem value_of_readings (hr : Run (Move P) (.start settings) record r)
    (hk : series.keeper = .reader) :
    r.metrics.value series = ((readings record).flatMap fun x =>
      (x.item.decodeFault?.map clientFault).toList).count series := by
  have hall : r.metrics.value series = (observe (fun r a => (a.readings r).flatMap fun x =>
      (x.item.decodeFault?.map clientFault).toList) record).count series := by
    refine value_eq_count hr fun r a r' hm => ?_
    by_cases ha : ∃ n, a = .step (.reader n)
    · obtain ⟨n, rfl⟩ := ha
      obtain ⟨s, p, q, acts, hs, hp, hdo, rfl⟩ := stepReader_eq_some (move_step_iff.mp hm)
      rw [value_foldl (value_doRead s.client), counted_of_step_reader hdo, Act.readings,
        readNext_eq hs hp]
      rfl
    · have hnone : a.readings r = [] := by
        unfold Act.readings
        split
        · next n => exact absurd ⟨n, rfl⟩ ha
        · rfl
      rw [hnone, value_of_move hm]
      · rfl
      · rw [hk]
        intro he
        unfold Act.keeper? at he
        split at he
        · next n => exact ha ⟨n, rfl⟩
        · cases he
        · cases he
        · cases he
        · cases he
        · cases he
  rw [hall, readings, observe, observe, List.flatMap_assoc]

/-- Every frame that cannot be decoded is counted once, with what is wrong with it. -/
theorem count_clientFault {kind : String} (x : Reading) :
    ((x.item.decodeFault?.map clientFault).toList).count (.decodeErrors "client" kind) =
      if x.item.decodeFault?.map CodecError.kind = some kind then 1 else 0 := by
  cases x.item.decodeFault? with
  | none => rfl
  | some e => simp [clientFault, List.count_singleton]

/-- **What read pumps do with what they take**, whatever comes, in whatever order, and
whenever the connection is closed, the deadline passes or the hub stops.

* A pump takes the items from the front.  The messages that it has submitted are those of
  the items that it has taken, in order and once each; it holds one that it has not
  submitted yet, or the hub has refused it (`ReadPump.Stands`).  Frames that cannot be
  decoded, pings and pongs end nothing: a pump leaves by the first close frame or failure
  that it takes or by the end of the items, when its last message is refused, or because
  the connection is closed or the deadline has passed, and it ends as that way out says.
* It skips the frames that cannot be decoded among those that it has taken.
* When it leaves, it has closed the connection; it has done so before it submits that the
  client be taken out, and it does submit that unless the hub has stopped.
* It waits only for something to come before the deadline, and for a place at the hub.
* The read pumps of a relay do the same, and what they skip is counted by its kind. -/
theorem read_exactly :
    (∀ (t : Timing) (c : Client) (now : Nat) (items : List Incoming)
        (seen : List (Fed ReadPump Incoming × ReadPump.Sight)) (f : Fed ReadPump Incoming),
      Run (ReadPump.Move t c) ⟨.start t now, items⟩ seen f →
        items = ReadPump.takenIn seen ++ f.coming ∧
        f.machine.Stands t (ReadPump.takenIn seen) (ReadPump.submitted t c seen)
          (ReadPump.exits seen) ∧
        ReadPump.skipped t c seen = (ReadPump.takenIn seen).filterMap Incoming.decodeFault? ∧
        (f.machine.phase = .leaving ∨ f.machine.phase = .gone →
          .use c.connection .close ∈ ReadPump.onHub t c seen) ∧
        (∀ before after, ReadPump.onHub t c seen = before ++ .submit (.unregister c) :: after →
          .use c.connection .close ∈ before) ∧
        (∀ result, f.machine = .ended result → .submit (.unregister c) ∈ ReadPump.onHub t c seen ∨
          ∃ m ∈ seen, m.1.machine = .leaving result ∧ m.2.admission = .refused) ∧
        ∀ s, f.machine.step t c s = none ↔ f.machine.isOver ∨ f.machine.Waits s) ∧
    ∀ (P : Population) (settings : Settings) (record : List (Relay × Act)) (r : Relay),
      Run (Move P) (.start settings) record r →
        (∀ n s p, r.sessions[n]? = some s → s.reader = some p → IsReading n record r s p) ∧
        ∀ kind, r.metrics.value (.decodeErrors "client" kind) =
          (readings record).countP fun x =>
            x.item.decodeFault?.map CodecError.kind = some kind := by
  constructor
  · intro t c now items seen f hr
    have hdeparting := ReadPump.departing_of_run hr
    exact ⟨Fed.coming_eq hr, ReadPump.stands_of_run hr, ReadPump.skipped_of_run hr,
      hdeparting.closed, fun _ _ => hdeparting.closed_first,
      fun _ => ReadPump.submitted_of_ended hr, fun _ => ReadPump.step_eq_none_iff⟩
  · intro P settings record r hr
    refine ⟨fun n => (isReading_of_run hr).1, fun kind => ?_⟩
    rw [value_of_readings hr rfl, count_flatMap_eq_countP]
    simpa using count_clientFault

/-- Of two frames one can be decoded; then the peer is gone. -/
theorem read_exactly_finished :
    let arrive (i : Incoming) : Act := .useSocket 0 (.arrive i)
    let junk : Incoming := .frame (.binary [0x61])
    let good : Incoming := .frame (.text "\x7b\"broadcast\":true,\"payload\":7\x7d")
    let anna : Identity := .ofParts "anna" "acme" []
    let P := Population.ofIdentities fun _ => anna
    let r₀ : Relay := .start {}
    let r₁ := (Act.join anna (.toLocal .ready false)).next r₀
    let r₂ := (Act.step (.session 0)).next r₁
    let r₃ := (arrive junk).next r₂
    let r₄ := (arrive good).next r₃
    let r₅ := (arrive .finished).next r₄
    let r₆ := (Act.step (.reader 0)).next r₅
    let r₇ := (Act.step (.reader 0)).next r₆
    let r₈ := (Act.step (.reader 0)).next r₇
    let r₉ := (Act.step (.reader 0)).next r₈
    let record := [(r₀, .join anna (.toLocal .ready false)), (r₁, .step (.session 0)),
      (r₂, arrive junk), (r₃, arrive good), (r₄, arrive .finished), (r₅, .step (.reader 0)),
      (r₆, .step (.reader 0)), (r₇, .step (.reader 0)), (r₈, .step (.reader 0))]
    Run (Move P) r₀ record r₉ ∧
      (∃ m, handed (.reader 0) record = [m] ∧
        ReadPump.Exit.finished.Left (readBy 0 record) [m]) ∧
      r₉.metrics.value (.decodeErrors "client" "malformed_message") = 1 := by
  intro arrive junk good anna P r₀ r₁ r₂ r₃ r₄ r₅ r₆ r₇ r₈ r₉ record
  have hcome : Move P r₀ (.join anna (.toLocal .ready false)) r₁ :=
    ⟨⟨rfl, by decide +kernel, .toLocal _ _⟩, rfl⟩
  have hregister : Move P r₁ (.step (.session 0)) r₂ := move_step (by decide +kernel)
  have hjunk : Move P r₂ (arrive junk) r₃ := ⟨trivial, rfl⟩
  have hgood : Move P r₃ (arrive good) r₄ := ⟨trivial, rfl⟩
  have hend : Move P r₄ (arrive .finished) r₅ := ⟨trivial, rfl⟩
  have hskip : Move P r₅ (.step (.reader 0)) r₆ := move_step (by decide +kernel)
  have htake : Move P r₆ (.step (.reader 0)) r₇ := move_step (by decide +kernel)
  have hsubmit : Move P r₇ (.step (.reader 0)) r₈ := move_step (by decide +kernel)
  have hleave : Move P r₈ (.step (.reader 0)) r₉ := move_step (by decide +kernel)
  have hr : Run (Move P) r₀ record r₉ :=
    ((((((((Run.stay.move hcome).move hregister).move hjunk).move hgood).move hend).move
      hskip).move htake).move hsubmit).move hleave
  obtain ⟨hpumps, hrelays⟩ := read_exactly
  obtain ⟨hreads, hcounted⟩ := hrelays P {} record r₉ hr
  have hleaving : (r₉.sessions[0]?).any fun s => s.reader.any fun p =>
      match p with
      | .leaving result => result = some .unexpectedEnd
      | _ => false := by decide +kernel
  obtain ⟨s, hs, hleaving⟩ := (Option.any_eq_true _ _).mp hleaving
  obtain ⟨p, hp, hleaving⟩ := (Option.any_eq_true _ _).mp hleaving
  obtain ⟨now, hfed⟩ := hreads 0 s p hs hp
  obtain ⟨seen, hrun, -, hsubmitted⟩ := hfed []
  obtain ⟨hcoming, hstands, -⟩ := hpumps _ _ _ _ _ _ hrun
  rw [List.append_nil, List.append_nil] at hcoming
  rw [← hcoming, hsubmitted] at hstands
  have hone : (handed (.reader 0) record).length = 1 := by decide +kernel
  obtain ⟨m, hm⟩ := List.length_eq_one_iff.mp hone
  refine ⟨hr, ⟨m, hm, ?_⟩, ?_⟩
  · rw [← hm]
    cases p with
    | reading | submitting | ended | broken => cases hleaving
    | leaving result =>
      obtain rfl : result = some .unexpectedEnd := of_decide_eq_true hleaving
      obtain ⟨e, -, hresult, hleft⟩ := hstands
      cases e with
      | finished => exact hleft
      | closed | late | farewell | fault | refused => cases hresult
  · rw [hcounted]
    decide +kernel

end Relay
end Switchboard
