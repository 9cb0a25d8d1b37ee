import Switchboard.Proofs.Json.Overlaid
import Switchboard.Proofs.Settings.Layers

/-! # Settings files

What a settings file says of a field is what can be read of one key in one section
(`Settings.setting`), and the file is a layer if all of that can be read
(`Settings.Layer.ofFile`).

The relay does not read a file like that.  It lays the file over the defaults as one
value over another and reads the result.  Section by section, and then for all of them,
this comes to the same as putting the layer over the defaults
(`Settings.ofValue_overlay`): the defaults are read back as they were written, and what
lies over them is found under the same keys. -/
namespace Switchboard

open Json (Value Decoder)
open Json.Value (entry given? Sorted overlayFields)

variable {α : Type} {entries fields : List (String × Value)}

namespace Settings

/-- What a settings file says of a key in a section: nothing if the section or the key is
absent or null. -/
def setting (name key : String) (d : Decoder α) (entries : List (String × Value)) :
    Except Json.Fault (Option α) :=
  d.optional.ofValue (entry key (entry name entries).fields)

/-- What a settings file says, if every field can be read of which it says anything. -/
def Layer.ofFile (entries : List (String × Value)) : Except Json.Fault Layer := do
  let autoOffsetReset ← setting "bus" "autoOffsetReset" .string entries
  let brokers ← setting "bus" "brokers" .string entries
  let groupId ← setting "bus" "groupId" .string entries
  let topics ← setting "bus" "topics" (.list .string) entries
  let eventBuffer ← setting "hub" "eventBuffer" sizeDecoder entries
  let outboundQueueCapacity ← setting "hub" "outboundQueueCapacity" sizeDecoder entries
  let pingPeriod ← setting "keepalive" "pingPeriodMs" millisecondsDecoder entries
  let pongWait ← setting "keepalive" "pongWaitMs" millisecondsDecoder entries
  let writeWait ← setting "keepalive" "writeWaitMs" millisecondsDecoder entries
  let format ← setting "logging" "format" LogFormat.decoder entries
  let level ← setting "logging" "level" .string entries
  let host ← setting "server" "host" .string entries
  let maxMessageSize ← setting "server" "maxMessageSize" sizeDecoder entries
  let port ← setting "server" "port" uint16Decoder entries
  return { host, port, maxMessageSize, eventBuffer, outboundQueueCapacity, writeWait, pongWait,
           pingPeriod, brokers, groupId, topics, autoOffsetReset, level, format }

end Settings

/-! ## What is read from a file -/

theorem unsigned_numberJson {name : String} {limit n : Nat} (hn : n < limit)
    (hlimit : limit ≤ UInt64.size) :
    (Decoder.unsigned name limit).ofValue (numberJson n) = .ok n := by
  have hsame : (UInt64.ofNat n).toNat = n :=
    UInt64.toNat_ofNat_of_lt' (Nat.lt_of_lt_of_le hn hlimit)
  simp only [Decoder.unsigned, Decoder.scalar, numberJson, hsame, if_pos hn]

theorem uint16Decoder_numberJson (n : UInt16) :
    uint16Decoder.ofValue (numberJson n.toNat) = .ok n := by
  rw [uint16Decoder, Decoder.map_ofValue, unsigned_numberJson n.toNat_lt (by decide)]
  exact congrArg Except.ok UInt16.ofNat_toNat

/-- A 64-bit number is read back, whatever it is called. -/
theorem uint64_numberJson {name : String} (n : UInt64) :
    ((Decoder.unsigned name UInt64.size).map UInt64.ofNat).ofValue (numberJson n.toNat) = .ok n := by
  rw [Decoder.map_ofValue, unsigned_numberJson n.toNat_lt (Nat.le_refl _)]
  exact congrArg Except.ok UInt64.ofNat_toNat

theorem LogFormat.ofValue_text (f : LogFormat) : decoder.ofValue (.string f.text) = .ok f := by
  cases f <;> rfl

/-! ## The sections

A section of the file, laid over the same section of settings, gives back what was there
but for what the file says. -/

theorem ServerSettings.ofValue_overlay (s : ServerSettings) (h : Sorted fields) :
    decoder.ofValue (.overlay s.json (.object fields)) = (do
      let host ← (Decoder.optional .string).ofValue (entry "host" fields)
      let maxMessageSize ← sizeDecoder.optional.ofValue (entry "maxMessageSize" fields)
      let port ← uint16Decoder.optional.ofValue (entry "port" fields)
      .ok ⟨host.getD s.host, port.getD s.port, maxMessageSize.getD s.maxMessageSize⟩) := by
  have hhost := Decoder.ofValue_overlaid s.json.fields .string "host" h rfl nofun rfl
  have hsize := Decoder.ofValue_overlaid s.json.fields sizeDecoder "maxMessageSize" h rfl nofun
    (uint64_numberJson _)
  have hport := Decoder.ofValue_overlaid s.json.fields uint16Decoder "port" h rfl nofun
    (uint16Decoder_numberJson _)
  refine (Decoder.ofValue_record_overlaid s.json.fields ["host", "maxMessageSize", "port"]
    (by decide) (by decide) (by decide) rfl h).trans ?_
  simp [Decoder.fieldsOf, hhost, hsize, hport]

theorem HubSettings.ofValue_overlay (s : HubSettings) (h : Sorted fields) :
    decoder.ofValue (.overlay s.json (.object fields)) = (do
      let eventBuffer ← sizeDecoder.optional.ofValue (entry "eventBuffer" fields)
      let capacity ← sizeDecoder.optional.ofValue (entry "outboundQueueCapacity" fields)
      .ok ⟨eventBuffer.getD s.eventBuffer, capacity.getD s.outboundQueueCapacity⟩) := by
  have hbuffer := Decoder.ofValue_overlaid s.json.fields sizeDecoder "eventBuffer" h rfl nofun
    (uint64_numberJson _)
  have hcapacity := Decoder.ofValue_overlaid s.json.fields sizeDecoder "outboundQueueCapacity" h
    rfl nofun (uint64_numberJson _)
  refine (Decoder.ofValue_record_overlaid s.json.fields ["eventBuffer", "outboundQueueCapacity"]
    (by decide) (by decide) (by decide) rfl h).trans ?_
  simp [Decoder.fieldsOf, hbuffer, hcapacity]

theorem KeepaliveSettings.ofValue_overlay (s : KeepaliveSettings) (h : Sorted fields) :
    decoder.ofValue (.overlay s.json (.object fields)) = (do
      let pingPeriod ← millisecondsDecoder.optional.ofValue (entry "pingPeriodMs" fields)
      let pongWait ← millisecondsDecoder.optional.ofValue (entry "pongWaitMs" fields)
      let writeWait ← millisecondsDecoder.optional.ofValue (entry "writeWaitMs" fields)
      .ok ⟨writeWait.getD s.writeWait, pongWait.getD s.pongWait,
        pingPeriod.getD s.pingPeriod⟩) := by
  have hping := Decoder.ofValue_overlaid s.json.fields millisecondsDecoder "pingPeriodMs" h rfl
    nofun (uint64_numberJson _)
  have hpong := Decoder.ofValue_overlaid s.json.fields millisecondsDecoder "pongWaitMs" h rfl
    nofun (uint64_numberJson _)
  have hwrite := Decoder.ofValue_overlaid s.json.fields millisecondsDecoder "writeWaitMs" h rfl
    nofun (uint64_numberJson _)
  refine (Decoder.ofValue_record_overlaid s.json.fields
    ["pingPeriodMs", "pongWaitMs", "writeWaitMs"]
    (by decide) (by decide) (by decide) rfl h).trans ?_
  simp [Decoder.fieldsOf, hping, hpong, hwrite]

theorem BusSettings.ofValue_overlay (s : BusSettings) (h : Sorted fields) :
    decoder.ofValue (.overlay s.json (.object fields)) = (do
      let autoOffsetReset ← (Decoder.optional .string).ofValue (entry "autoOffsetReset" fields)
      let brokers ← (Decoder.optional .string).ofValue (entry "brokers" fields)
      let groupId ← (Decoder.optional .string).ofValue (entry "groupId" fields)
      let topics ← (Decoder.list .string).optional.ofValue (entry "topics" fields)
      .ok ⟨brokers.getD s.brokers, groupId.getD s.groupId, topics.getD s.topics,
        autoOffsetReset.getD s.autoOffsetReset⟩) := by
  have hreset := Decoder.ofValue_overlaid s.json.fields .string "autoOffsetReset" h rfl nofun rfl
  have hbrokers := Decoder.ofValue_overlaid s.json.fields .string "brokers" h rfl nofun rfl
  have hgroup := Decoder.ofValue_overlaid s.json.fields .string "groupId" h rfl nofun rfl
  have htopics := Decoder.ofValue_overlaid s.json.fields (.list .string) "topics" h rfl nofun
    (Decoder.list_ofValue_map (fun _ => rfl) _)
  refine (Decoder.ofValue_record_overlaid s.json.fields
    ["autoOffsetReset", "brokers", "groupId", "topics"]
    (by decide) (by decide) (by decide) rfl h).trans ?_
  simp [Decoder.fieldsOf, hreset, hbrokers, hgroup, htopics]

theorem LoggingSettings.ofValue_overlay (s : LoggingSettings) (h : Sorted fields) :
    decoder.ofValue (.overlay s.json (.object fields)) = (do
      let format ← LogFormat.decoder.optional.ofValue (entry "format" fields)
      let level ← (Decoder.optional .string).ofValue (entry "level" fields)
      .ok ⟨level.getD s.level, format.getD s.format⟩) := by
  have hformat := Decoder.ofValue_overlaid s.json.fields LogFormat.decoder "format" h rfl nofun
    (LogFormat.ofValue_text _)
  have hlevel := Decoder.ofValue_overlaid s.json.fields .string "level" h rfl nofun rfl
  refine (Decoder.ofValue_record_overlaid s.json.fields ["format", "level"]
    (by decide) (by decide) (by decide) rfl h).trans ?_
  simp [Decoder.fieldsOf, hformat, hlevel]

namespace Settings

/-! ## The file -/

/-- Each section that a settings file has is null or an object. -/
def Sectioned (entries : List (String × Value)) : Prop :=
  ∀ name ∈ ["bus", "hub", "keepalive", "logging", "server"],
    entry name entries = .null ∨ ∃ fields, entry name entries = .object fields

/-- A section of a file is laid over what is there under its name. -/
theorem entry_section {under below : List (String × Value)} {name : String}
    (hentries : Sorted entries) (hunder : Value.field? name under = some (.object below))
    (h : entry name entries = .null ∨ ∃ fields, entry name entries = .object fields) :
    entry name (overlayFields under entries) =
      .overlay (.object below) (.object (entry name entries).fields) := by
  rw [Value.entry_overlayFields hentries hunder]
  cases hgiven : given? name entries with
  | none =>
    rw [Value.entry_eq_given?, hgiven, Value.overlay_object]
    rfl
  | some v =>
    have hentry : entry name entries = v := by
      rw [Value.entry_eq_given?, hgiven]
      rfl
    obtain hnull | ⟨fields, hfields⟩ := h
    · exact absurd (hentry.symm.trans hnull) (Value.ne_null_of_given? hgiven)
    · rw [← hentry, hfields]
      rfl

/-- The sections of a file laid over settings are read one by one. -/
theorem ofValue_overlay_sections (s : Settings) (hsorted : Sorted entries)
    (hsectioned : Sectioned entries) :
    decoder.ofValue (.overlay s.json (.object entries)) = (do
      let bus ← BusSettings.decoder.ofValue
        (.overlay s.bus.json (.object (entry "bus" entries).fields))
      let hub ← HubSettings.decoder.ofValue
        (.overlay s.hub.json (.object (entry "hub" entries).fields))
      let keepalive ← KeepaliveSettings.decoder.ofValue
        (.overlay s.keepalive.json (.object (entry "keepalive" entries).fields))
      let logging ← LoggingSettings.decoder.ofValue
        (.overlay s.logging.json (.object (entry "logging" entries).fields))
      let server ← ServerSettings.decoder.ofValue
        (.overlay s.server.json (.object (entry "server" entries).fields))
      .ok { server, hub, keepalive, bus, logging }) := by
  have hbus : entry "bus" (overlayFields s.json.fields entries) =
      .overlay s.bus.json (.object (entry "bus" entries).fields) :=
    entry_section hsorted rfl (hsectioned "bus" (by decide))
  have hhub : entry "hub" (overlayFields s.json.fields entries) =
      .overlay s.hub.json (.object (entry "hub" entries).fields) :=
    entry_section hsorted rfl (hsectioned "hub" (by decide))
  have hkeepalive : entry "keepalive" (overlayFields s.json.fields entries) =
      .overlay s.keepalive.json (.object (entry "keepalive" entries).fields) :=
    entry_section hsorted rfl (hsectioned "keepalive" (by decide))
  have hlogging : entry "logging" (overlayFields s.json.fields entries) =
      .overlay s.logging.json (.object (entry "logging" entries).fields) :=
    entry_section hsorted rfl (hsectioned "logging" (by decide))
  have hserver : entry "server" (overlayFields s.json.fields entries) =
      .overlay s.server.json (.object (entry "server" entries).fields) :=
    entry_section hsorted rfl (hsectioned "server" (by decide))
  refine (Decoder.ofValue_record_overlaid s.json.fields
    ["bus", "hub", "keepalive", "logging", "server"]
    (by decide) (by decide) (by decide) rfl hsorted).trans ?_
  simp [Decoder.fieldsOf, hbus, hhub, hkeepalive, hlogging, hserver]

/-- **What is read of a file laid over settings** is the layer of the file, put onto the
settings, or the same fault. -/
theorem ofValue_overlay (s : Settings) (hentries : (Value.object entries).Canonical)
    (hsectioned : Sectioned entries) :
    decoder.ofValue (.overlay s.json (.object entries)) =
      (fun file => file.onto s) <$> Layer.ofFile entries := by
  obtain ⟨hsorted, hfields⟩ := Json.Value.canonical_object_iff.mp hentries
  -- a section that is no object has no fields, so they are in order in any case
  have hsection : ∀ name, Sorted (entry name entries).fields := by
    intro name
    rw [entry]
    cases hfield : Value.field? name entries with
    | none => exact List.Pairwise.nil
    | some v =>
      have hv := hfields _ (Value.mem_of_field? hfield)
      cases v with
      | object fields => exact (Json.Value.canonical_object_iff.mp hv).1
      | null | bool | number | string | array => exact List.Pairwise.nil
  rw [ofValue_overlay_sections s hsorted hsectioned,
    BusSettings.ofValue_overlay _ (hsection "bus"),
    HubSettings.ofValue_overlay _ (hsection "hub"),
    KeepaliveSettings.ofValue_overlay _ (hsection "keepalive"),
    LoggingSettings.ofValue_overlay _ (hsection "logging"),
    ServerSettings.ofValue_overlay _ (hsection "server")]
  -- both sides read the same keys in the same order
  simp only [bind_assoc, Layer.ofFile, setting, map_bind]
  rfl

end Settings
end Switchboard
