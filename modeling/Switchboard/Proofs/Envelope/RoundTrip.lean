import Switchboard.Envelope
import Switchboard.Proofs.Instant
import Switchboard.Proofs.Json.Records

/-! # Envelopes that are written are read back

The writer lists the attributes of an envelope in an order of its own, and the reader
takes them by name.  What the reader makes of what was written is said once, for any
envelope whose data is canonical and whose source is accepted (`decode_written`): the
envelope itself if its data opens at most 126 arrays and objects at once, for the
envelope is an object around its data, and else a fault.

Whatever was read is such an envelope (`canonical_of_decode`), in whichever of the many
spellings it came, so it can be written and read again. -/
namespace Switchboard

open Json (Value Reads)
open Json.Decoder (takeField complete firstMissing reads_record_object record_invariant
  exists_of_required_read exists_of_notRequired_read)

/-! ## Closed lists of names -/

theorem SpecVersion.ofText_text (v : SpecVersion) : SpecVersion.ofText v.text = .ok v := by
  cases v <;> rfl

theorem ContentType.ofText_text (c : ContentType) : ContentType.ofText c.text = .ok c := by
  cases c <;> rfl

namespace Envelope

variable {e : Envelope} {a : Nat} {b : Bytes}

/-! ## Attributes -/

/-- The attributes that are written of an envelope. -/
def attributes (e : Envelope) : Attributes :=
  ⟨e.specVersion.text, e.type, e.source, e.id, e.time, some e.contentType.text, e.data⟩

theorem ofAttributes_attributes (h : Source.accept e.source = .ok ()) :
    ofAttributes e.attributes = .ok e := by
  simp only [ofAttributes, attributes, SpecVersion.ofText_text, ContentType.ofText_text, h, bind,
    Except.bind, pure, Except.pure]

@[simp] theorem timeDecoder_ofValue (t : Instant) : timeDecoder.ofValue (.string t.text) = .ok t := by
  unfold timeDecoder Json.Decoder.stringAs Json.Decoder.scalar
  simp only [Instant.read_text]
  rfl

theorem faithful_fields : ∀ f ∈ fields, f.set.Faithful := by
  intro f hf
  simp only [fields, List.mem_cons, List.not_mem_nil, or_false] at hf
  rcases hf with rfl | rfl | rfl | rfl | rfl | rfl | rfl
  · exact Json.Decoder.faithful_string.required _ _
  · exact Json.Decoder.faithful_string.required _ _
  · exact Json.Decoder.faithful_string.required _ _
  · exact Json.Decoder.faithful_string.required _ _
  · exact (Json.Decoder.faithful_stringAs _ _).optional.notRequired _ _
  · exact Json.Decoder.faithful_string.optional.notRequired _ _
  · exact Json.Decoder.faithful_value.notRequired _ _

/-- A value for a field, if it is not too deep. -/
def admitted (a : Nat) (f : Json.Field Attributes) (v : Value) :
    Except Json.Fault (Attributes → Attributes) :=
  if v.depth ≤ a then f.set.ofValue v else .error .tooDeep

/-- The field of the data takes any value that is not too deep, and the others have
nothing deep to take. -/
theorem reads_field {f : Json.Field Attributes} {v : Value} (hf : f ∈ fields) (hv : v.Canonical)
    (h : f.name = "data" ∨ v.depth ≤ a) : Reads (f.set.read a) v (admitted a f v) := by
  by_cases hdepth : v.depth ≤ a
  · rw [admitted, if_pos hdepth]
    exact faithful_fields f hf a v hv hdepth
  -- What is left is a value that is too deep, and the field is that of the data.
  have hname : f.name = "data" := h.resolve_right hdepth
  obtain ⟨set, rfl⟩ : ∃ set, f = .optional "data" .value set := by
    simp only [fields, List.mem_cons, List.not_mem_nil, or_false] at hf
    rcases hf with rfl | rfl | rfl | rfl | rfl | rfl | rfl
    case inr.inr.inr.inr.inr.inr => exact ⟨_, rfl⟩
    all_goals exact absurd hname (by decide)
  have hread := (Json.reads_readValue a hv).map set
  rw [Json.allowed, if_neg hdepth] at hread
  rw [admitted, if_neg hdepth]
  exact hread

theorem mem_written {x : String × Value} (h : x ∈ e.written) :
    x = ("data", e.data) ∨ ∃ s, x.2 = .string s := by
  rw [written, List.mem_append, List.mem_append] at h
  rcases h with (h | h) | h
  · simp only [List.mem_cons, List.not_mem_nil, or_false] at h
    rcases h with rfl | rfl | rfl | rfl <;> exact Or.inr ⟨_, rfl⟩
  · split at h
    · obtain rfl := List.mem_singleton.mp h
      exact Or.inr ⟨_, rfl⟩
    · cases h
  · simp only [List.mem_cons, List.not_mem_nil, or_false] at h
    rcases h with rfl | rfl
    · exact Or.inr ⟨_, rfl⟩
    · exact Or.inl rfl

/-- The fields that are written, taken one after the other. -/
theorem foldlM_written (e : Envelope) (a : Nat) :
    (do
      let (x, seen) ← e.written.foldlM (takeField fields (admitted a))
        (⟨"", "", "", "", none, none, .null⟩, [])
      complete fields x seen) =
      if e.data.depth ≤ a then .ok e.attributes else .error .tooDeep := by
  obtain ⟨version, type, source, id, time, contentType, data⟩ := e
  by_cases hdepth : data.depth ≤ a <;> cases time <;>
    simp [written, takeField, fields, Json.Field.required, Json.Field.optional, admitted, hdepth,
      Value.depth, Except.map, bind, Except.bind, pure, Except.pure, complete, firstMissing,
      attributes]

theorem reads_written (hdata : e.data.Canonical) (a : Nat) :
    Reads (attributesDecoder.read (a + 1)) (.object e.written)
      (if e.data.depth ≤ a then .ok e.attributes else .error .tooDeep) := by
  rw [← foldlM_written e a]
  refine reads_record_object "struct WireIn" _ fun x hx f hf hname => ?_
  rcases mem_written hx with rfl | ⟨s, hs⟩
  · exact reads_field hf hdata (Or.inl hname)
  · rw [hs]
    exact reads_field hf trivial (Or.inr (Nat.zero_le a))

/-! ## Reading what was written -/

/-- **A written envelope is read back**, unless its data is too deep for an envelope. -/
theorem decode_written (hsource : Source.accept e.source = .ok ()) (hdata : e.data.Canonical) :
    decode (Bytes.ofText (Value.object e.written).text) =
      if e.data.depth ≤ 126 then .ok e else .error (.envelope .tooDeep) := by
  have hparse : attributesDecoder.parse (Bytes.ofText (Value.object e.written).text) =
      if e.data.depth ≤ 126 then .ok e.attributes else .error .tooDeep :=
    (reads_written hdata 126).finish
  rw [decode, hparse]
  split
  · exact ofAttributes_attributes hsource
  · rfl

theorem encode_eq (hsource : Source.accept e.source = .ok ()) :
    e.encode = .ok (Value.object e.written).text := by
  rw [encode, hsource]
  rfl

theorem accept_eq_ok_iff {source : String} :
    Source.accept source = .ok () ↔ Source.check source = .ok () := by
  unfold Source.accept
  cases Source.check source <;> simp [Except.mapError]

theorem accept_of_encode {s : String} (h : e.encode = .ok s) :
    Source.accept e.source = .ok () ∧ s = (Value.object e.written).text := by
  obtain ⟨⟨⟩, hsource, hs⟩ := Json.exists_of_bind_eq_ok h
  cases hs
  exact ⟨hsource, rfl⟩

/-! ## What was read -/

/-- Every field keeps the data canonical, and shallow enough for the envelope around it. -/
theorem canonical_of_attributes {x : Attributes} {rest : Bytes}
    (h : attributesDecoder.read (a + 1) b = .ok (x, rest)) :
    x.data.Canonical ∧ x.data.depth ≤ a := by
  refine record_invariant (I := fun x => x.data.Canonical ∧ x.data.depth ≤ a)
    (fun f hf text change rest hread x hx => ?_) ⟨trivial, Nat.zero_le a⟩ h
  simp only [fields, List.mem_cons, List.not_mem_nil, or_false] at hf
  rcases hf with rfl | rfl | rfl | rfl | rfl | rfl | rfl
  case inr.inr.inr.inr.inr.inr =>
    obtain ⟨y, hy, rfl⟩ := exists_of_notRequired_read hread
    exact Json.canonical_of_readValue hy
  case inr.inr.inr.inr.inl | inr.inr.inr.inr.inr.inl =>
    obtain ⟨y, -, rfl⟩ := exists_of_notRequired_read hread
    exact hx
  all_goals
    obtain ⟨y, -, rfl⟩ := exists_of_required_read hread
    exact hx

theorem ofAttributes_eq_ok {x : Attributes} (h : ofAttributes x = .ok e) :
    Source.accept e.source = .ok () ∧ e.data = x.data := by
  obtain ⟨version, -, h⟩ := Json.exists_of_bind_eq_ok h
  dsimp only at h
  split at h
  all_goals
    obtain ⟨contentType, -, h⟩ := Json.exists_of_bind_eq_ok h
    obtain ⟨⟨⟩, hsource, h⟩ := Json.exists_of_bind_eq_ok h
    cases h
    exact ⟨hsource, rfl⟩

/-- **What was read as an envelope** has an accepted source and canonical data. -/
theorem canonical_of_decode (h : decode b = .ok e) :
    Source.accept e.source = .ok () ∧ e.data.Canonical ∧ e.data.depth ≤ 126 := by
  obtain ⟨x, hparse, h⟩ := Json.exists_of_bind_eq_ok h
  obtain ⟨hsource, hdata⟩ := ofAttributes_eq_ok h
  obtain ⟨rest, hread⟩ := Json.Decoder.exists_of_parse (Json.eq_ok_of_mapError hparse)
  rw [hdata]
  exact ⟨hsource, canonical_of_attributes hread⟩

/-- **Reading, writing and reading again** gives the same envelope, in whichever of its
spellings it was read first. -/
theorem decode_encode_of_decode (h : decode b = .ok e) :
    ∃ s, e.encode = .ok s ∧ decode (Bytes.ofText s) = .ok e := by
  obtain ⟨hsource, hdata, hdepth⟩ := canonical_of_decode h
  refine ⟨_, encode_eq hsource, ?_⟩
  rw [decode_written hsource hdata, if_pos hdepth]

/-- An array with a repeated key, a clock ahead of UTC and a leap second. -/
theorem decode_encode_respelled :
    let spelled := Bytes.ofText <| "[\"1.0\", \"t\", \"/s\", \"7\", \"2024-01-01t01:30:60.50+0100\"" ++
      ", \"Text/JSON; q=1\", \x7b\"a\": 1, \"b\": [null], \"a\": 15.0e-1\x7d]"
    let e : Envelope := ⟨.v1_0, "t", "/s", "7",
      some ⟨⟨2024, 1, 1, by decide⟩, ⟨0, 30, 60, 500000000⟩⟩, .textJson,
      .object [("a", .number (.double ⟨false, 0x3ff8000000000000⟩)), ("b", .array [.null])]⟩
    decode spelled = .ok e ∧ ∃ s, e.encode = .ok s ∧ decode (Bytes.ofText s) = .ok e := by
  intro spelled e
  have hspelled : decode spelled = .ok e := by decide +kernel
  exact ⟨hspelled, decode_encode_of_decode hspelled⟩

/-- **The law of writing and reading**, with its limit: data is written if and only if
its source is accepted, and what was written is read back if and only if the data opens
at most 126 arrays and objects at once; if it opens more, the envelope is malformed. -/
theorem decode_encode_stamped {data : Value} (hdata : data.Canonical) (source id type : String)
    (now : Instant) :
    ((∃ s, (stamped data source id type now).encode = .ok s) ↔ Source.check source = .ok ()) ∧
      ∀ s, (stamped data source id type now).encode = .ok s →
        (decode (Bytes.ofText s) =
            .ok ⟨.v1_0, type, source, id, some now, .applicationJson, data⟩ ↔ data.depth ≤ 126) ∧
          (126 < data.depth →
            ∃ fault, decode (Bytes.ofText s) = .error (.envelope fault)) := by
  refine ⟨⟨fun ⟨s, hs⟩ => ?_, fun hcheck => ?_⟩, fun s hs => ?_⟩
  · exact accept_eq_ok_iff.mp (accept_of_encode hs).1
  · exact ⟨_, encode_eq (accept_eq_ok_iff.mpr hcheck)⟩
  · obtain ⟨hsource, rfl⟩ := accept_of_encode hs
    have hread := decode_written hsource hdata
    rw [hread]
    by_cases hdepth : data.depth ≤ 126
    · have hok : (stamped data source id type now).data.depth ≤ 126 := hdepth
      rw [if_pos hok]
      exact ⟨⟨fun _ => hdepth, fun _ => rfl⟩, fun hdeep => absurd hdepth (Nat.not_le.mpr hdeep)⟩
    · have hdeep : ¬ (stamped data source id type now).data.depth ≤ 126 := hdepth
      rw [if_neg hdeep]
      exact ⟨⟨(nomatch ·), fun h => absurd h hdepth⟩, fun _ => ⟨.tooDeep, rfl⟩⟩

/-- An array in an envelope that is sent at a leap second. -/
theorem decode_encode_stamped_array :
    let now : Instant := ⟨⟨2016, 12, 31, by decide⟩, ⟨23, 59, 60, 0⟩⟩
    (Value.array [.null]).Canonical ∧
      ∃ s, (stamped (.array [.null]) "/s" "7" "t" now).encode = .ok s ∧
        decode (Bytes.ofText s) =
          .ok ⟨.v1_0, "t", "/s", "7", some now, .applicationJson, .array [.null]⟩ := by
  intro now
  have hdata : (Value.array [.null]).Canonical := ⟨trivial, trivial⟩
  obtain ⟨hwritten, hread⟩ := decode_encode_stamped hdata "/s" "7" "t" now
  obtain ⟨s, hs⟩ := hwritten.mpr (by decide +kernel)
  exact ⟨hdata, s, hs, (hread s hs).1.mpr (by decide)⟩

end Envelope
end Switchboard
