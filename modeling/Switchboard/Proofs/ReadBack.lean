import Switchboard.Identity
import Switchboard.Proofs.Envelope.Payloads
import Switchboard.Proofs.FiniteMap
import Switchboard.Proofs.Json.Layers
import Switchboard.Proofs.Settings.Files

/-! # What is written is read back

Messages, identities and settings are written as objects and read as records.  The two
have to agree on the name of every field, on what is written for it, and on what holds
when it is absent; and the fields of a text come in another order than those of a value.
A text is read as its fields are (`Json.Decoder.parse_record_text`), so it is enough
to say once for every field that its value is read back.

Of settings more is needed.  The relay writes its defaults, lays a file over them, and
reads what comes of it; so settings must be read back from over any others
(`Settings.ofValue_overlay_json`).  They are, because what is written of them says
something of every field (`Settings.ofFile_json`).  That they are read back from
themselves is a case of this, for a value laid over itself is the same value. -/
namespace Switchboard

open Json (Value Decoder)
open Json.Value (entry)

/-- A text is read as a record from the fields that were written. -/
theorem Json.Decoder.parse_record_text {α : Type} {fields : List (Json.Field α)}
    {entries : List (String × Value)} (name : String) (initial : α)
    (hfields : ∀ f ∈ fields, f.set.Faithful) (hkeys : (entries.map Prod.fst).Nodup)
    (hentries : ∀ e ∈ entries, e.2.Canonical ∧ e.2.depth ≤ 126) :
    (record name initial fields).parse (Bytes.ofText (Value.object entries).text) =
      (record name initial fields).ofValue (.object entries) :=
  (reads_record_entries name initial hfields hkeys hentries).finish

/-- An array of strings is canonical and shallow. -/
theorem Json.Value.canonical_strings {α : Type} (f : α → String) (xs : List α) :
    (array (xs.map fun x => string (f x))).Canonical ∧
      (array (xs.map fun x => string (f x))).depth ≤ 1 := by
  refine ⟨canonicalItems_iff.mpr fun v hv => ?_,
    Nat.succ_le_succ (depthItems_le_iff.mpr fun v hv => ?_)⟩
  · obtain ⟨x, -, rfl⟩ := List.mem_map.mp hv
    trivial
  · obtain ⟨x, -, rfl⟩ := List.mem_map.mp hv
    exact Nat.le_refl 0

namespace Name

variable {kind : NameKind}

theorem ofValue_json (n : Name kind) : decoder.ofValue n.json = .ok n := rfl

/-- Names are read back in their order. -/
theorem list_ofValue_json (names : List (Name kind)) :
    (Decoder.list decoder).ofValue (.array (names.map json)) = .ok names :=
  Decoder.list_ofValue_map ofValue_json names

theorem faithful_decoder : (decoder : Decoder (Name kind)).Faithful :=
  Decoder.faithful_string.map _

end Name

namespace NameSet

variable {kind : NameKind}

/-- A set is the set of the names that it lists. -/
theorem ofNames_toList (s : NameSet kind) : ofNames s.toList = s :=
  Std.ExtTreeSet.ext_mem fun n => by rw [mem_ofNames, Std.ExtTreeSet.mem_toList]

theorem ofValue_json (s : NameSet kind) : decoder.ofValue s.json = .ok s := by
  have hnames := Name.list_ofValue_json s.toList
  rw [decoder, Decoder.map_ofValue, json, hnames]
  exact congrArg Except.ok (ofNames_toList s)

end NameSet

/-! ## Messages -/

namespace ClientMessage

variable {m : ClientMessage}

/-- The fields of a message in the order of their keys. -/
theorem json_eq (m : ClientMessage) : m.json = .object [
    ("broadcast", .bool m.broadcast),
    ("organizations", .array (m.organizations.map Name.json)),
    ("payload", m.payload),
    ("roles", .array (m.roles.map Name.json)),
    ("users", .array (m.users.map Name.json))] := rfl

/-- A message is read back from its fields, both in the order in which they are written
and in that of their keys. -/
theorem ofValue_written (m : ClientMessage) :
    decoder.ofValue (.object m.written) = .ok m ∧ decoder.ofValue m.json = .ok m := by
  have hbroadcast : Decoder.bool.ofValue (.bool m.broadcast) = .ok m.broadcast := rfl
  have husers := Name.list_ofValue_json m.users
  have hroles := Name.list_ofValue_json m.roles
  have horganizations := Name.list_ofValue_json m.organizations
  rw [json_eq]
  constructor
  · simp [decoder, Decoder.record, written, fields, Decoder.fieldsOf, hbroadcast, husers, hroles,
      horganizations, Decoder.complete, Decoder.firstMissing, bind, Except.bind]
  · simp [decoder, Decoder.record, fields, Decoder.fieldsOf, hbroadcast, husers, hroles,
      horganizations, Decoder.complete, Decoder.firstMissing, bind, Except.bind]

/-- **A message is read back from its value**, however deep its payload is. -/
theorem ofValue_json (m : ClientMessage) : ofValue m.json = .ok m := by
  rw [ofValue, (ofValue_written m).2]
  rfl

/-- **A message is read back from its text** exactly if its payload leaves room for the
message around it. -/
theorem parse_text_iff (hpayload : m.payload.Canonical) :
    parse (Bytes.ofText m.text) = .ok m ↔ m.payload.depth ≤ 126 := by
  refine ⟨fun h => (payload_of_parse h).2, fun hdepth => ?_⟩
  have hnames := fun {kind : NameKind} (names : List (Name kind)) =>
    (Json.Value.canonical_strings Name.text names).imp_right
      (Nat.le_trans · (by decide : 1 ≤ 126))
  have hentries : ∀ e ∈ m.written, e.2.Canonical ∧ e.2.depth ≤ 126 := by
    intro e he
    simp only [written, List.mem_cons, List.not_mem_nil, or_false] at he
    obtain rfl | rfl | rfl | rfl | rfl := he
    · exact ⟨trivial, Nat.zero_le _⟩
    · exact hnames m.users
    · exact hnames m.roles
    · exact hnames m.organizations
    · exact ⟨hpayload, hdepth⟩
  have hkeys : (m.written.map Prod.fst).Nodup := by
    show ["broadcast", "users", "roles", "organizations", "payload"].Nodup
    decide
  have hread : decoder.parse (Bytes.ofText m.text) = decoder.ofValue (.object m.written) :=
    Decoder.parse_record_text "struct ClientMessage" empty faithful_fields hkeys hentries
  rw [parse, hread, (ofValue_written m).1]
  rfl

end ClientMessage

/-! ## Identities -/

namespace Identity

/-- The fields of an identity in the order in which they are written. -/
def written (i : Identity) : List (String × Value) := [
  ("userId", i.user.json),
  ("organization", i.organization.json),
  ("roles", NameSet.json i.roles)]

theorem faithful_fields : ∀ f ∈ fields, f.set.Faithful := by
  intro f hf
  simp only [fields, List.mem_cons, List.not_mem_nil, or_false] at hf
  obtain rfl | rfl | rfl := hf
  · exact Name.faithful_decoder.required _ _
  · exact Name.faithful_decoder.notRequired _ _
  · exact (Name.faithful_decoder.list.map NameSet.ofNames).notRequired _ _

theorem ofValue_written (i : Identity) : decoder.ofValue (.object i.written) = .ok i := by
  have huser := Name.ofValue_json i.user
  have horganization := Name.ofValue_json i.organization
  have hroles := NameSet.ofValue_json i.roles
  simp [decoder, Decoder.record, written, fields, Json.Field.required, Json.Field.optional,
    Decoder.fieldsOf, huser, horganization, hroles, Decoder.complete, Decoder.firstMissing,
    bind, Except.bind, Except.map]

/-- **An identity is read back from its text**, with the same roles. -/
theorem parse_text (i : Identity) : decoder.parse (Bytes.ofText i.text) = .ok i := by
  have hentries : ∀ e ∈ i.written, e.2.Canonical ∧ e.2.depth ≤ 126 := by
    intro e he
    simp only [written, List.mem_cons, List.not_mem_nil, or_false] at he
    obtain rfl | rfl | rfl := he
    · exact ⟨trivial, Nat.zero_le _⟩
    · exact ⟨trivial, Nat.zero_le _⟩
    · exact (Json.Value.canonical_strings Name.text i.roles.toList).imp_right
        (Nat.le_trans · (by decide))
  have hkeys : (i.written.map Prod.fst).Nodup := by
    show ["userId", "organization", "roles"].Nodup
    decide
  have hread := Decoder.parse_record_text "struct Identity" ⟨⟨""⟩, ⟨""⟩, ∅⟩ faithful_fields hkeys
    hentries
  exact hread.trans (ofValue_written i)

end Identity

/-! ## Settings -/

namespace Settings

variable (d s : Settings)

/-- What is written of settings is a layer that says something of every field. -/
def layer : Layer where
  host := some s.server.host
  port := some s.server.port
  maxMessageSize := some s.server.maxMessageSize
  eventBuffer := some s.hub.eventBuffer
  outboundQueueCapacity := some s.hub.outboundQueueCapacity
  writeWait := some s.keepalive.writeWait
  pongWait := some s.keepalive.pongWait
  pingPeriod := some s.keepalive.pingPeriod
  brokers := some s.bus.brokers
  groupId := some s.bus.groupId
  topics := some s.bus.topics
  autoOffsetReset := some s.bus.autoOffsetReset
  level := some s.logging.level
  format := some s.logging.format

theorem layer_onto : s.layer.onto d = s := rfl

/-- What is written of settings are sections, in the order of their names and of the
names in them. -/
theorem canonical_json : s.json.Canonical := by
  have htopics : (Value.array (s.bus.topics.map Value.string)).Canonical :=
    (Json.Value.canonical_strings id s.bus.topics).1
  have hbus : s.bus.json.Canonical :=
    ⟨show ["autoOffsetReset", "brokers", "groupId", "topics"].Pairwise (· < ·) by decide,
      trivial, trivial, trivial, htopics, trivial⟩
  have hhub : s.hub.json.Canonical :=
    ⟨show ["eventBuffer", "outboundQueueCapacity"].Pairwise (· < ·) by decide,
      trivial, trivial, trivial⟩
  have hkeepalive : s.keepalive.json.Canonical :=
    ⟨show ["pingPeriodMs", "pongWaitMs", "writeWaitMs"].Pairwise (· < ·) by decide,
      trivial, trivial, trivial, trivial⟩
  have hlogging : s.logging.json.Canonical :=
    ⟨show ["format", "level"].Pairwise (· < ·) by decide, trivial, trivial, trivial⟩
  have hserver : s.server.json.Canonical :=
    ⟨show ["host", "maxMessageSize", "port"].Pairwise (· < ·) by decide,
      trivial, trivial, trivial, trivial⟩
  exact ⟨show ["bus", "hub", "keepalive", "logging", "server"].Pairwise (· < ·) by decide,
    hbus, hhub, hkeepalive, hlogging, hserver, trivial⟩

theorem sectioned_json : Sectioned s.json.fields := by
  intro name hname
  simp only [List.mem_cons, List.not_mem_nil, or_false] at hname
  obtain rfl | rfl | rfl | rfl | rfl := hname
  all_goals exact Or.inr ⟨_, rfl⟩

/-- What is there and not null is what the setting says. -/
theorem setting_of_entry {α : Type} {name key : String} {d : Decoder α} {v : Value} {x : α}
    {entries : List (String × Value)} (hv : entry key (entry name entries).fields = v)
    (hne : v ≠ .null) (hd : d.ofValue v = .ok x) : setting name key d entries = .ok (some x) := by
  rw [setting, hv]
  cases v with
  | null => exact absurd rfl hne
  | bool | number | string | array | object =>
    show some <$> d.ofValue _ = _
    rw [hd]
    rfl

/-- **The values of settings say everything.** -/
theorem ofFile_json : Layer.ofFile s.json.fields = .ok s.layer := by
  have hreset : setting "bus" "autoOffsetReset" .string s.json.fields =
      .ok (some s.bus.autoOffsetReset) := rfl
  have hbrokers : setting "bus" "brokers" .string s.json.fields = .ok (some s.bus.brokers) := rfl
  have hgroup : setting "bus" "groupId" .string s.json.fields = .ok (some s.bus.groupId) := rfl
  have htopics : setting "bus" "topics" (.list .string) s.json.fields =
      .ok (some s.bus.topics) :=
    setting_of_entry rfl nofun (Decoder.list_ofValue_map (fun _ => rfl) _)
  have hbuffer : setting "hub" "eventBuffer" sizeDecoder s.json.fields =
      .ok (some s.hub.eventBuffer) := setting_of_entry rfl nofun (uint64_numberJson _)
  have hcapacity : setting "hub" "outboundQueueCapacity" sizeDecoder s.json.fields =
      .ok (some s.hub.outboundQueueCapacity) := setting_of_entry rfl nofun (uint64_numberJson _)
  have hping : setting "keepalive" "pingPeriodMs" millisecondsDecoder s.json.fields =
      .ok (some s.keepalive.pingPeriod) := setting_of_entry rfl nofun (uint64_numberJson _)
  have hpong : setting "keepalive" "pongWaitMs" millisecondsDecoder s.json.fields =
      .ok (some s.keepalive.pongWait) := setting_of_entry rfl nofun (uint64_numberJson _)
  have hwrite : setting "keepalive" "writeWaitMs" millisecondsDecoder s.json.fields =
      .ok (some s.keepalive.writeWait) := setting_of_entry rfl nofun (uint64_numberJson _)
  have hformat : setting "logging" "format" LogFormat.decoder s.json.fields =
      .ok (some s.logging.format) := setting_of_entry rfl nofun (LogFormat.ofValue_text _)
  have hlevel : setting "logging" "level" .string s.json.fields = .ok (some s.logging.level) := rfl
  have hhost : setting "server" "host" .string s.json.fields = .ok (some s.server.host) := rfl
  have hsize : setting "server" "maxMessageSize" sizeDecoder s.json.fields =
      .ok (some s.server.maxMessageSize) := setting_of_entry rfl nofun (uint64_numberJson _)
  have hport : setting "server" "port" uint16Decoder s.json.fields =
      .ok (some s.server.port) := setting_of_entry rfl nofun (uint16Decoder_numberJson _)
  rw [Layer.ofFile, hreset, hbrokers, hgroup, htopics, hbuffer, hcapacity, hping, hpong, hwrite,
    hformat, hlevel, hhost, hsize, hport]
  rfl

/-- **Settings are read back from over any others.** -/
theorem ofValue_overlay_json : decoder.ofValue (.overlay d.json s.json) = .ok s := by
  have hread : decoder.ofValue (.overlay d.json (.object s.json.fields)) =
      (fun file => file.onto d) <$> Layer.ofFile s.json.fields :=
    ofValue_overlay d s.canonical_json s.sectioned_json
  rw [ofFile_json] at hread
  exact hread.trans (congrArg Except.ok (layer_onto d s))

/-- **Settings are read back from their value.** -/
theorem ofValue_json : decoder.ofValue s.json = .ok s := by
  rw [← Json.Value.overlay_self s.canonical_json]
  exact ofValue_overlay_json s s

end Settings

/-! ## All together -/

/-- **What is written is read back.**  A message is read back from its text exactly if its
payload nests no deeper than a text has room for, and from its value in any case.  The
objects of a payload have their fields in the order of their keys.  An identity is read
back from its text, with the same set of roles.  Settings are read back from their value,
and also when this has been laid over the value of other settings. -/
theorem readBack_written :
    (∀ m : ClientMessage, m.payload.Canonical →
      (ClientMessage.parse (Bytes.ofText m.text) = .ok m ↔ m.payload.depth ≤ 126)) ∧
    (∀ m : ClientMessage, ClientMessage.ofValue m.json = .ok m) ∧
    (∀ i : Identity, Identity.decoder.parse (Bytes.ofText i.text) = .ok i) ∧
    (∀ s : Settings, Settings.decoder.ofValue s.json = .ok s) ∧
    ∀ d s : Settings, Settings.decoder.ofValue (.overlay d.json s.json) = .ok s :=
  ⟨fun _ => ClientMessage.parse_text_iff, ClientMessage.ofValue_json, Identity.parse_text,
    Settings.ofValue_json, Settings.ofValue_overlay_json⟩

/-- Payloads at the limit and beyond it, in a message with a repeated name. -/
theorem readBack_nested :
    let nested n := (fun v : Value => Value.array [v])^[n] .null
    let m n : ClientMessage := ⟨true, [⟨"a"⟩, ⟨"a"⟩], [], [⟨"\""⟩], nested n⟩
    ClientMessage.parse (Bytes.ofText (m 126).text) = .ok (m 126) ∧
      ClientMessage.parse (Bytes.ofText (m 127).text) ≠ .ok (m 127) ∧
      ClientMessage.ofValue (m 127).json = .ok (m 127) := by
  intro nested m
  have hcanonical : ∀ n, (nested n).Canonical := by
    intro n
    induction n with
    | zero => trivial
    | succ n ih =>
      simp only [nested, Function.iterate_succ_apply']
      exact ⟨ih, trivial⟩
  have hdepth : ∀ n, (nested n).depth = n := by
    intro n
    induction n with
    | zero => rfl
    | succ n ih =>
      simp only [nested, Function.iterate_succ_apply']
      exact congrArg (· + 1) ((Nat.max_zero _).trans ih)
  obtain ⟨htext, hvalue, -⟩ := readBack_written
  refine ⟨(htext (m 126) (hcanonical 126)).mpr (hdepth 126).le, fun h => ?_, hvalue (m 127)⟩
  have hle : (nested 127).depth ≤ 126 := (htext (m 127) (hcanonical 127)).mp h
  rw [hdepth 127] at hle
  exact absurd hle (by decide)

end Switchboard
