import Switchboard.Proofs.Envelope.Paths
import Switchboard.Proofs.Json.Grammar

/-! # What a payload carries

The payload of a message is read as a value, written in compact form, passed on as bytes,
and looked at once more when it is put into a frame.  Whatever text the message came in,
with its blanks, escapes and repeated keys, the value that was read of it is canonical
and leaves room for one more array or object (`ClientMessage.payload_of_parse`).  Such a
value is written so that it is read back, and what is written is a text of the grammar;
so that is what goes out, in a text frame (`Payload.carries_ofJson`). -/
namespace Switchboard

open Json (Value)

variable {b : Bytes} {v : Value}

/-- **A written value is read back** as a whole text, if it is not too deep for one. -/
theorem Json.parse_text (hv : v.Canonical) (hdepth : v.depth ≤ maxDepth) :
    parse (Bytes.ofText v.text) = .ok v := by
  have hread := reads_readValue maxDepth hv
  rw [allowed, if_pos hdepth] at hread
  exact hread.finish

namespace Payload

/-- A payload goes out as a text frame with a single JSON text, which is read as the
value. -/
def Carries (p : Payload) (v : Value) : Prop :=
  ∃ s, p.frame = .text s ∧ Json.Grammar.IsText s ∧ Json.parse (Bytes.ofText s) = .ok v

/-- A payload made of a value carries it. -/
theorem carries_ofJson (hv : v.Canonical) (hdepth : v.depth ≤ Json.maxDepth) :
    (ofJson v).Carries v :=
  ⟨v.text, frame_ofText v.text, Json.Grammar.isText_text v, Json.parse_text hv hdepth⟩

end Payload

namespace ClientMessage

variable {m : ClientMessage}

/-- **What was read as the payload of a message** is canonical, and not too deep for the
message around it. -/
theorem payload_of_parse (h : parse b = .ok m) :
    m.payload.Canonical ∧ m.payload.depth ≤ 126 := by
  obtain ⟨rest, hread⟩ := Json.Decoder.exists_of_parse (Json.eq_ok_of_mapError h)
  refine Json.Decoder.record_invariant
    (I := fun m => m.payload.Canonical ∧ m.payload.depth ≤ 126)
    (fun f hf text change rest hread m hm => ?_) ⟨trivial, Nat.zero_le 126⟩ hread
  simp only [fields, List.mem_cons, List.not_mem_nil, or_false] at hf
  rcases hf with rfl | rfl | rfl | rfl | rfl
  case inr.inr.inr.inr =>
    obtain ⟨w, hw, rfl⟩ := Json.Decoder.exists_of_notRequired_read hread
    exact Json.canonical_of_readValue hw
  all_goals
    obtain ⟨w, -, rfl⟩ := Json.Decoder.exists_of_notRequired_read hread
    exact hm

/-- It is the same with a message that was taken from a value, for it might as well have
been read from the text of the value. -/
theorem payload_of_ofValue (hv : v.Canonical) (hdepth : v.depth ≤ Json.maxDepth)
    (h : ofValue v = .ok m) : m.payload.Canonical ∧ m.payload.depth ≤ 126 := by
  have hagree := parse_agrees hv hdepth
  rw [h] at hagree
  exact payload_of_parse (Json.eq_ok_of_toOption hagree)

/-- The payload of a message that is on its way carries what the message has. -/
theorem carries_routed (h : m.payload.Canonical ∧ m.payload.depth ≤ 126) :
    m.routed.payload.Carries m.payload :=
  Payload.carries_ofJson h.1 (h.2.trans (by decide))

end ClientMessage

namespace RoutedMessage

/-- A record that was taken is an envelope with a message in it. -/
theorem exists_of_ofRecord {r : RoutedMessage} (h : ofRecord b = .ok r) :
    ∃ e m, Envelope.decode b = .ok e ∧ ClientMessage.ofValue e.data = .ok m ∧ r = m.routed := by
  obtain ⟨e, hdecode, h⟩ := Json.exists_of_bind_eq_ok h
  obtain ⟨m, hvalue, h⟩ := Json.exists_of_bind_eq_ok h
  exact ⟨e, m, hdecode, hvalue, (Except.ok.inj h).symm⟩

/-- **Payloads go out as they came.**  Whatever bytes are read as a message, from a
client or as the data of a record, the payload of the message goes out as a text frame;
its text is a single JSON value by the grammar, and whoever reads it gets exactly the
value that the message had as its payload. -/
theorem payload_carried (b : Bytes) :
    (∀ m, ClientMessage.parse b = .ok m → m.routed.payload.Carries m.payload) ∧
    ∀ r, ofRecord b = .ok r → ∃ e m, Envelope.decode b = .ok e ∧
      ClientMessage.ofValue e.data = .ok m ∧ r = m.routed ∧ r.payload.Carries m.payload := by
  refine ⟨fun m h => ClientMessage.carries_routed (ClientMessage.payload_of_parse h),
    fun r h => ?_⟩
  obtain ⟨e, m, hdecode, hvalue, rfl⟩ := exists_of_ofRecord h
  obtain ⟨-, hdata, hdepth⟩ := Envelope.canonical_of_decode hdecode
  have hpayload := ClientMessage.payload_of_ofValue hdata (hdepth.trans (by decide)) hvalue
  exact ⟨e, m, hdecode, hvalue, rfl, ClientMessage.carries_routed hpayload⟩

/-- A payload with a repeated key, escapes, a character beyond the basic plane and the
largest integer, once from a client and once in a record. -/
theorem payload_carried_respelled :
    let body := "\x7b\"payload\": \x7b\"b\": 1, \"b\": \"\\ud83d\\ude00\\u000a\", " ++
      "\"a\": 18446744073709551615 \x7d\x7d"
    let client := Bytes.ofText body
    let record := Bytes.ofText <| "[\"1.0\", \"t\", \"/s\", \"7\", null, null, " ++ body ++ "]"
    let v := Value.object [("a", .number (.natural 18446744073709551615)), ("b", .string "😀\n")]
    (∃ m, ClientMessage.parse client = .ok m ∧ m.payload = v ∧ m.routed.payload.Carries v) ∧
      ∃ r, ofRecord record = .ok r ∧ ∃ m : ClientMessage, r = m.routed ∧
        r.payload.Carries m.payload := by
  intro body client record v
  have hclient : ClientMessage.parse client = .ok ⟨false, [], [], [], v⟩ := by decide +kernel
  have hrecord : (ofRecord record).toOption.isSome = true := by decide +kernel
  obtain ⟨r, hr⟩ := Option.isSome_iff_exists.mp hrecord
  have hread := Json.eq_ok_of_toOption hr
  obtain ⟨e, m, -, -, hm, hcarries⟩ := (payload_carried record).2 r hread
  exact ⟨⟨_, hclient, rfl, (payload_carried client).1 _ hclient⟩, r, hread, m, hm, hcarries⟩

end RoutedMessage
end Switchboard
