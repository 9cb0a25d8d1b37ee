import Switchboard.Proofs.Relay.Turns

/-! # What a write pump writes

The payloads that a write pump takes from the queue go out one by one, each as a
frame that carries data, and no other such frame goes out.  A frame that the peer
does not take at once stays with the pump, which writes nothing else until the
peer has taken it; if it gives up before, nothing is written after it.

`Faithful` says this at every moment: while the pump writes, the frames that have
reached the peer, with the one that is still to be written, are the frames of the
payloads that were taken; and when it has given up, they are the first of them.
A peer that keeps a frame it could not take, and gets it when the socket is
closed, is no exception, because at that time it keeps no frame with data
(`KeepsNoData`). -/
namespace Switchboard

namespace Socket

variable {k : Socket} {f : Frame}

/-- The frames with data that have reached the peer. -/
def dataWritten (k : Socket) : List Frame := k.written.filter Frame.isData

/-- No frame with data is kept that the peer could not take. -/
def KeepsNoData (k : Socket) : Prop :=
  match k.peer with
  | .locally p => ∀ f, p.kept = some f → f.isData = false
  | .remote _ => True

/-- An offered frame has reached the peer if the peer says so. -/
theorem dataWritten_offer : (k.offer f).2.dataWritten =
    k.dataWritten ++ if (k.offer f).1 = .done then [f].filter Frame.isData else [] := by
  rcases k with ⟨arrivals, p | p⟩
  · cases hmode : p.mode with
    | ready =>
      simp [Socket.offer, LocalPeer.offer, hmode, PeerMode.reply, dataWritten, written]
    | stalled | failing | breaking =>
      cases hb : p.buffered <;>
        simp [Socket.offer, LocalPeer.offer, hmode, hb, PeerMode.reply, dataWritten, written]
  · by_cases hclosed : p.closeSent ∨ p.closeRead
    · simp [Socket.offer, RemotePeer.offer, hclosed, dataWritten, written]
    · simp [Socket.offer, RemotePeer.offer, hclosed, dataWritten, written]

/-- Nothing is kept when the peer has taken a frame. -/
theorem keepsNoData_offer_done (h : (k.offer f).1 = .done) : (k.offer f).2.KeepsNoData := by
  rcases k with ⟨arrivals, p | p⟩
  · cases hmode : p.mode with
    | ready => simp [Socket.offer, LocalPeer.offer, hmode, PeerMode.reply, KeepsNoData]
    | stalled | failing | breaking =>
      simp [Socket.offer, LocalPeer.offer, hmode, PeerMode.reply] at h
  · exact trivial

/-- What is offered without data leaves no data behind. -/
theorem keepsNoData_offer (hk : k.KeepsNoData) (hf : f.isData = false) :
    (k.offer f).2.KeepsNoData := by
  rcases k with ⟨arrivals, p | p⟩
  · cases hmode : p.mode with
    | ready => simp [Socket.offer, LocalPeer.offer, hmode, PeerMode.reply, KeepsNoData]
    | stalled | failing | breaking =>
      cases hb : p.buffered with
      | true => simp [Socket.offer, LocalPeer.offer, hmode, hb, PeerMode.reply, KeepsNoData, hf]
      | false =>
        simpa [Socket.offer, LocalPeer.offer, hmode, hb, PeerMode.reply, KeepsNoData] using hk
  · exact trivial

/-- Closing a socket writes no data if none is kept. -/
theorem dataWritten_finish (hk : k.KeepsNoData) : k.finish.2.dataWritten = k.dataWritten := by
  rcases k with ⟨arrivals, p | p⟩
  · cases hmode : p.mode with
    | ready =>
      cases hkept : p.kept with
      | none => simp [Socket.finish, LocalPeer.finish, hmode, hkept, PeerMode.reply, dataWritten, written]
      | some g =>
        have hg : g.isData = false := hk g hkept
        simp [Socket.finish, LocalPeer.finish, hmode, hkept, PeerMode.reply, dataWritten, written, hg]
    | stalled | failing | breaking =>
      cases hkept : p.kept <;>
        simp [Socket.finish, LocalPeer.finish, hmode, hkept, PeerMode.reply, dataWritten, written]
  · by_cases hclosed : p.closeRead ∧ ¬ p.closeSent
    · simp [Socket.finish, RemotePeer.finish, hclosed, dataWritten, written, Frame.isData, Frame.data?]
    · have hsame : p.finish = p := if_neg hclosed
      simp [Socket.finish, hsame, dataWritten, written]

/-- Reading from a socket writes no data: at most a pong. -/
theorem dataWritten_take (k : Socket) : k.take.dataWritten = k.dataWritten := by
  rcases k with ⟨arrivals, p | p⟩
  · cases arrivals with
    | nil => rfl
    | cons i rest => cases i <;> rfl
  · cases arrivals with
    | nil => rfl
    | cons i rest =>
      cases i with
      | fault | finished | breakdown => rfl
      | frame f =>
        cases f with
        | text | binary | pong | close => rfl
        | ping data =>
          simp [take, RemotePeer.read, dataWritten, written, Frame.isData, Frame.data?]

theorem keepsNoData_take (hk : k.KeepsNoData) : k.take.KeepsNoData := by
  rcases k with ⟨arrivals, p | p⟩
  · cases arrivals with
    | nil => exact hk
    | cons i rest => cases i <;> exact hk
  · cases arrivals with
    | nil => trivial
    | cons i rest => cases i <;> trivial

theorem dataWritten_use (u : Use) (k : Socket) : (u.on k).dataWritten = k.dataWritten := by
  rcases k with ⟨arrivals, p | p⟩ <;> cases u <;> rfl

theorem keepsNoData_use (u : Use) (hk : k.KeepsNoData) : (u.on k).KeepsNoData := by
  rcases k with ⟨arrivals, p | p⟩ <;> cases u <;> exact hk

/-- Over a fresh socket nothing has gone. -/
theorem Fresh.untouched (h : k.Fresh) : k.dataWritten = [] ∧ k.KeepsNoData := by
  cases h with
  | toLocal mode buffered => exact ⟨rfl, nofun⟩
  | toRemote maxMessageSize => exact ⟨rfl, trivial⟩

end Socket

namespace WritePump

open Relay (onWriting)

variable {k : Socket} {frames : List Frame} {p q : WritePump} {t : Timing} {c : Client} {s : Sight}
  {acts : List Act}

/-- **A write pump writes faithfully** what it takes: the frames with data that
have reached the peer, and the one that is still to be written, are these; when
the pump has given up, those that have reached the peer are the first of them. -/
def Faithful (frames : List Frame) (k : Socket) : WritePump → Prop
  | starting | idle _ | closingFrame _ | closingSink _ => k.dataWritten = frames ∧ k.KeepsNoData
  | writing f _ _ => k.dataWritten ++ [f].filter Frame.isData = frames
  | leaving _ | ended _ | broken => k.dataWritten <+: frames

/-- What is written is always the first of what was taken. -/
theorem Faithful.begins (h : p.Faithful frames k) : k.dataWritten <+: frames := by
  cases p with
  | starting | idle | closingFrame | closingSink => exact h.1 ▸ List.prefix_rfl
  | writing f => exact ⟨[f].filter Frame.isData, h⟩
  | leaving | ended | broken => exact h

/-- A pump that sees a socket sees what the socket answers. -/
structure Sees (s : Sight) (k : Socket) : Prop where
  offer : ∀ f, s.offer f = (k.offer f).1
  finish : s.finish = k.finish.1

/-- An attempt to write a frame keeps faith with it, and takes nothing. -/
theorem faithful_of_attempt {f : Frame} {nextPing : Nat} (hs : Sees s k)
    (hk : k.dataWritten ++ [f].filter Frame.isData = frames) (h : Attempt t s f nextPing q acts) :
    .take ∉ acts ∧ q.Faithful frames (acts.foldl (fun k x => onWriting x k) k) := by
  have hwritten := Socket.dataWritten_offer (k := k) (f := f)
  rw [← hs.offer] at hwritten
  -- a frame that the peer has not taken is still to be written
  have hstill : s.offer f ≠ .done →
      (k.offer f).2.dataWritten ++ [f].filter Frame.isData = frames := by
    intro hreply
    rw [hwritten, if_neg hreply, List.append_nil, hk]
  cases h with
  | done hreply =>
    rw [if_pos hreply] at hwritten
    exact ⟨by simp, hwritten.trans hk, Socket.keepsNoData_offer_done (hs.offer f ▸ hreply)⟩
  | pending hreply => exact ⟨by simp, hstill (by rw [hreply]; exact nofun)⟩
  | failed hreply | breakdown hreply => exact ⟨by simp, _, hstill (by rw [hreply]; exact nofun)⟩

/-- Taking leave of the peer writes no data, and takes nothing. -/
theorem faithful_of_farewell (hk : k.dataWritten = frames ∧ k.KeepsNoData)
    (h : Farewell t s q acts) :
    .take ∉ acts ∧ q.Faithful frames (acts.foldl (fun k x => onWriting x k) k) := by
  have hwritten := Socket.dataWritten_offer (k := k) (f := .close none)
  have hsame : (k.offer (.close none)).2.dataWritten = frames := by
    rw [hwritten, hk.1]
    split <;> exact List.append_nil _
  have hkeeps := Socket.keepsNoData_offer (f := .close none) hk.2 rfl
  cases h with
  | pending | proceed => exact ⟨by simp, hsame, hkeeps⟩
  | breakdown => exact ⟨by simp, hsame ▸ List.prefix_rfl⟩

/-- **A write pump stays faithful**: it takes nothing, or the payload that comes
first in the queue. -/
theorem Faithful.step (hf : p.Faithful frames k) (hs : Sees s k)
    (h : p.step t c s = some (q, acts)) :
    (.take ∉ acts ∧ q.Faithful frames (acts.foldl (fun k x => onWriting x k) k)) ∨
    ∃ payload rest, s.queue = .payload payload ∧ acts = .take :: rest ∧ .take ∉ rest ∧
      q.Faithful (frames ++ [payload.frame]) (acts.foldl (fun k x => onWriting x k) k) := by
  have hfinish : k.dataWritten = frames ∧ k.KeepsNoData → k.finish.2.dataWritten <+: frames :=
    fun hk => (Socket.dataWritten_finish hk.2).trans hk.1 ▸ List.prefix_rfl
  cases step_iff.mp h with
  | @take _ payload _ writes _ hqueue hattempt =>
    -- the payload is what is to be written next
    right
    have hdata : k.dataWritten ++ [payload.frame].filter Frame.isData =
        frames ++ [payload.frame] := by
      rw [hf.1, List.filter_cons_of_pos payload.isData_frame]
      rfl
    obtain ⟨hnone, hafter⟩ := faithful_of_attempt hs hdata hattempt
    exact ⟨payload, writes, hqueue, rfl, hnone, hafter⟩
  | notice _ hfarewell | drained _ _ hfarewell | retryFarewell _ hfarewell =>
    exact Or.inl (faithful_of_farewell hf hfarewell)
  | ping _ _ _ hattempt =>
    have hdata : k.dataWritten ++ [Frame.ping []].filter Frame.isData = frames :=
      (List.append_nil _).trans hf.1
    exact Or.inl (faithful_of_attempt hs hdata hattempt)
  | retry _ hattempt => exact Or.inl (faithful_of_attempt hs hf hattempt)
  | start | farewellTimeout | depart | vanish => exact Or.inl ⟨by simp, hf⟩
  | never | timeout | finishTimeout => exact Or.inl ⟨by simp, hf.begins⟩
  | finishBreakdown | finish => exact Or.inl ⟨by simp, hfinish hf⟩

end WritePump
end Switchboard
