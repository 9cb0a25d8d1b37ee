import Switchboard.Proofs.Envelope.RoundTrip

/-! # One message, two ways in

A client's message is read straight from its text.  A message from the bus is the data
of an envelope, so it is read from a value that has been read already.  These are two
readers, which match fields and count items each in its own way, but they agree on
every value: the fields of a message are read faithfully
(`ClientMessage.faithful_fields`), and a record whose fields are read faithfully is read
from a text if and only if it can be had from the value that the text writes
(`Json.Decoder.agrees_record`).  So a message is routed the same way whichever way it
came, or refused both times (`RoutedMessage.ofRecord_agrees_parse`). -/
namespace Switchboard

open Json (Value)

variable {v : Value}

namespace ClientMessage

theorem faithful_fields : ∀ f ∈ fields, f.set.Faithful := by
  intro f hf
  simp only [fields, List.mem_cons, List.not_mem_nil, or_false] at hf
  rcases hf with rfl | rfl | rfl | rfl | rfl
  · exact Json.Decoder.faithful_bool.notRequired _ _
  · exact (Json.Decoder.faithful_string.map _).list.notRequired _ _
  · exact (Json.Decoder.faithful_string.map _).list.notRequired _ _
  · exact (Json.Decoder.faithful_string.map _).list.notRequired _ _
  · exact Json.Decoder.faithful_value.notRequired _ _

theorem agrees_decoder : decoder.Agrees :=
  Json.Decoder.agrees_record "struct ClientMessage" empty faithful_fields

/-- **A message is read from a text** if and only if it is taken from the value that the
text writes, and it is the same message. -/
theorem parse_agrees (hv : v.Canonical) (hdepth : v.depth ≤ Json.maxDepth) :
    (parse (Bytes.ofText v.text)).toOption = (ofValue v).toOption := by
  have hagree := agrees_decoder.parse hv hdepth
  have hmapped : ∀ r : Except Json.Fault ClientMessage,
      (r.mapError CodecError.message).toOption = r.toOption := by
    intro r
    cases r <;> rfl
  rw [parse, ofValue, hmapped, hmapped, hagree]

/-- The only fault of a message is that it is malformed. -/
theorem kind_of_parse {b : Bytes} {fault : CodecError} (h : parse b = .error fault) :
    fault.kind = "malformed_message" := by
  obtain ⟨found, -, rfl⟩ := Json.exists_of_mapError h
  rfl

theorem kind_of_ofValue {fault : CodecError} (h : ofValue v = .error fault) :
    fault.kind = "malformed_message" := by
  obtain ⟨found, -, rfl⟩ := Json.exists_of_mapError h
  rfl

end ClientMessage

namespace RoutedMessage

/-- A record that was read back is routed as its data says. -/
theorem ofRecord_eq {b : Bytes} {e : Envelope} (h : Envelope.decode b = .ok e) :
    ofRecord b = (ClientMessage.ofValue e.data).map ClientMessage.routed := by
  rw [ofRecord, h]
  show (do return (← ClientMessage.ofValue e.data).routed) = _
  cases ClientMessage.ofValue e.data <;> rfl

/-- **The bus and a client's socket agree**: a value that fits into an envelope is
written, and then it is routed from the envelope and from its own text in the same way,
or it is malformed as a message in both. -/
theorem ofRecord_agrees_parse (hv : v.Canonical) (hdepth : v.depth ≤ 126) {source : String}
    (hsource : Source.check source = .ok ()) (id type : String) (now : Instant) :
    ∃ s, (Envelope.stamped v source id type now).encode = .ok s ∧
      ((∃ m, ofRecord (Bytes.ofText s) = .ok m ∧
          (ClientMessage.parse (Bytes.ofText v.text)).map ClientMessage.routed = .ok m) ∨
        ∃ fault fault', ofRecord (Bytes.ofText s) = .error fault ∧
          ClientMessage.parse (Bytes.ofText v.text) = .error fault' ∧
          fault.kind = "malformed_message" ∧ fault'.kind = "malformed_message") := by
  let e := Envelope.stamped v source id type now
  have haccepted : Source.accept e.source = .ok () := Envelope.accept_eq_ok_iff.mpr hsource
  have hdecode : Envelope.decode (Bytes.ofText (Value.object e.written).text) = .ok e := by
    rw [Envelope.decode_written haccepted hv]
    exact if_pos hdepth
  have hagree := ClientMessage.parse_agrees hv (hdepth.trans (by decide))
  refine ⟨_, Envelope.encode_eq haccepted, ?_⟩
  rw [ofRecord_eq hdecode]
  show (∃ m, (ClientMessage.ofValue v).map _ = _ ∧ _) ∨
    ∃ fault fault', (ClientMessage.ofValue v).map _ = _ ∧ _
  cases hvalue : ClientMessage.ofValue v with
  | ok m =>
    rw [hvalue] at hagree
    have hparse := Json.eq_ok_of_toOption hagree
    exact Or.inl ⟨m.routed, rfl, by rw [hparse]; rfl⟩
  | error fault =>
    rw [hvalue] at hagree
    obtain ⟨fault', hparse⟩ := Json.exists_error_of_toOption hagree
    exact Or.inr ⟨fault, fault', rfl, hparse, ClientMessage.kind_of_ofValue hvalue,
      ClientMessage.kind_of_parse hparse⟩

/-- A message for everyone. -/
theorem ofRecord_agrees_parse_broadcast :
    let v := Value.object [("broadcast", .bool true), ("payload", .array [.null])]
    let now : Instant := ⟨⟨2024, 2, 29, by decide⟩, ⟨12, 0, 0, 0⟩⟩
    v.Canonical ∧ v.depth ≤ 126 ∧ Source.check "/s" = .ok () ∧
      ∃ s m, (Envelope.stamped v "/s" "7" "t" now).encode = .ok s ∧
        ofRecord (Bytes.ofText s) = .ok m ∧
        (ClientMessage.parse (Bytes.ofText v.text)).map ClientMessage.routed = .ok m := by
  intro v now
  have hv : v.Canonical := Value.canonical_object_iff.mpr
    ⟨by unfold Value.Sorted; decide, by simp [Value.Canonical, Value.CanonicalItems]⟩
  have hdepth : v.depth ≤ 126 := by decide
  have hsource : Source.check "/s" = .ok () := by decide +kernel
  have hread : (ClientMessage.parse (Bytes.ofText v.text)).toOption.isSome = true := by
    decide +kernel
  obtain ⟨s, hs, ⟨m, hrecord, hclient⟩ | ⟨_, _, -, hrefused, -⟩⟩ :=
    ofRecord_agrees_parse hv hdepth hsource "7" "t" now
  · exact ⟨hv, hdepth, hsource, s, m, hs, hrecord, hclient⟩
  · rw [hrefused] at hread
    cases hread

end RoutedMessage
end Switchboard
