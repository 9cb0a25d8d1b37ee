import Switchboard.Proofs.Settings.Files
import Switchboard.Proofs.Settings.Options

/-! # The settings that the relay starts with

The relay lays the settings file over the defaults as JSON values, reads the result as a
record of records, changes the record by the environment, validates it, changes it by the
command line and validates it again.  It starts exactly when every layer can be read and
both validations pass, and then with settings by layers (`CommandLine.settings_eq_ok_iff`). -/
namespace Switchboard

open Json (Value)
open Settings (Layer Sectioned ofLayers)

variable {entries : List (String × Value)} {stored : Stored} {env : Environment} {s : Settings}

/-- What stands at a path is read as an object with the given fields, with no fields if
nothing is there. -/
inductive Stored.Reads : Stored → List (String × Value) → Prop
  | absent : Reads .absent []
  | file {content : Bytes} {text : String} {entries : List (String × Value)}
    (htext : Bytes.text? content = some text)
    (hparse : Json.parse content = .ok (.object entries)) : Reads (.file content) entries

namespace Settings

theorem canonical_of_reads (h : stored.Reads entries) : (Value.object entries).Canonical := by
  cases h with
  | absent => exact Json.Value.canonical_object_iff.mpr ⟨List.Pairwise.nil, nofun⟩
  | file htext hparse => exact (Json.Decoder.canonical_of_parse hparse).1

theorem overlaid_of_reads (h : stored.Reads entries) :
    overlaid stored = .ok (.overlay (Settings.json {}) (.object entries)) := by
  cases h with
  | absent =>
    show _ = Except.ok (Value.overlay (.object (Settings.json {}).fields) (.object []))
    rw [Json.Value.overlay_object]
    rfl
  | file htext hparse =>
    rw [overlaid, htext]
    simp only [hparse]

/-- **What is loaded** is what the environment and the file say, if the file is a layer
and this is valid. -/
theorem load_eq_ok_iff (hreads : stored.Reads entries) (hsectioned : Sectioned entries) :
    load stored env = .ok s ↔ ∃ file, Layer.ofFile entries = .ok file ∧
      s = ofLayers [env.layer, file] ∧ s.validate = .ok () := by
  have hvalue := ofValue_overlay {} (canonical_of_reads hreads) hsectioned
  unfold load
  rw [overlaid_of_reads hreads]
  show (do
    let s ← (decoder.ofValue _).mapError SettingsError.json
    let s := env.applyTo s
    s.validate
    return s) = _ ↔ _
  rw [hvalue]
  cases Layer.ofFile entries with
  | error fault => exact ⟨nofun, fun ⟨_, hfile, _⟩ => nomatch hfile⟩
  | ok file =>
    have hlayers : env.applyTo (file.onto {}) = ofLayers [env.layer, file] := by
      rw [env.applyTo_eq_onto, ofLayers_cons, ofLayers_cons, ofLayers_nil]
    show (do
      (env.applyTo (file.onto {})).validate
      return env.applyTo (file.onto {})) = _ ↔ _
    rw [hlayers]
    constructor
    · intro h
      obtain ⟨_, hvalid, h⟩ := Json.exists_of_bind_eq_ok h
      cases h
      exact ⟨file, rfl, rfl, hvalid⟩
    · rintro ⟨_, hfile, rfl, hvalid⟩
      cases hfile
      rw [hvalid]
      rfl

end Settings

namespace CommandLine

/-- Where a command line has the settings file. -/
def configPath (args : List String) (env : Environment) : String :=
  (values .config (given args)).head?.getD (Settings.path env)

/-- **The settings that the relay starts with**, for a command line that is accepted, any
environment, and a settings file that is absent or an object of sections.  There are such
settings exactly when all can be read that the file says of any field and the settings
are valid both without and with the flags of the command line; then every field is as the
flags say, or else the environment, or else the file, or else the defaults.  Each field is
a matter of one flag, one variable and one key of the file (`flags`, `Environment.layer`,
`Layer.ofFile`), so none of these changes any other field. -/
theorem settings_eq_ok_iff {args : List String} {c : CommandLine} {stored : String → Stored}
    (hparse : parse args = .ok c) (hreads : (stored (configPath args env)).Reads entries)
    (hsectioned : Sectioned entries) :
    settings args env stored = .ok s ↔ ∃ file, Layer.ofFile entries = .ok file ∧
      (ofLayers [env.layer, file]).validate = .ok () ∧
      s = ofLayers [flags args, env.layer, file] ∧ s.validate = .ok () := by
  have hpath : c.config.getD (Settings.path env) = configPath args env := by
    rw [eq_ofGiven_of_parse hparse]
    rfl
  unfold settings
  rw [hparse]
  show (do
    let s ← (Settings.load (stored (c.config.getD (Settings.path env))) env).mapError _
    let s := c.applyTo s
    s.validate.mapError StartError.overridden
    return s) = _ ↔ _
  rw [hpath]
  constructor
  · intro h
    obtain ⟨loaded, hload, h⟩ := Json.exists_of_bind_eq_ok h
    obtain ⟨_, hvalid, h⟩ := Json.exists_of_bind_eq_ok h
    cases h
    obtain ⟨file, hfile, rfl, hloaded⟩ :=
      (Settings.load_eq_ok_iff hreads hsectioned).mp (Json.eq_ok_of_mapError hload)
    refine ⟨file, hfile, hloaded, ?_, Json.eq_ok_of_mapError hvalid⟩
    rw [applyTo_eq_onto hparse, Settings.ofLayers_cons (flags args)]
  · rintro ⟨file, hfile, hloaded, rfl, hvalid⟩
    have hload := (Settings.load_eq_ok_iff hreads hsectioned).mpr ⟨file, hfile, rfl, hloaded⟩
    rw [Settings.ofLayers_cons (flags args), ← applyTo_eq_onto hparse] at hvalid ⊢
    rw [hload]
    show (do
      (c.applyTo (ofLayers [env.layer, file])).validate.mapError StartError.overridden
      return c.applyTo (ofLayers [env.layer, file])) = _
    rw [hvalid]
    rfl

/-- A command line, an environment and a file that all say something of the topics. -/
theorem settings_eq_ok_of_three_layers :
    let args := ["--topic", "b", "--config=/r.json", "--topic=a", "--log-json"]
    let env : Environment := ⟨[("RELAY_HOST", Bytes.ofText "::1"),
      ("RELAY_BUS_TOPICS", Bytes.ofText "c, d"), ("RELAY_PORT", Bytes.ofText "65536"),
      ("RELAY_BUS_GROUP_ID", [])]⟩
    let text := "\x7b\"bus\":\x7b\"groupId\":\"g\",\"topics\":[\"e\"]\x7d,\"hub\":null," ++
      "\"server\":\x7b\"host\":\"h\",\"maxMessageSize\":null,\"port\":0\x7d\x7d"
    let stored := fun path => if path = "/r.json" then .file (Bytes.ofText text) else .absent
    settings args env stored = .ok {
      server := { host := "::1", port := 0 }
      bus := { groupId := "g", topics := ["b", "a"] }
      logging := { format := .json } } := by
  intro args env text stored
  let entries : List (String × Value) := [
    ("bus", .object [("groupId", .string "g"), ("topics", .array [.string "e"])]),
    ("hub", .null),
    ("server", .object [("host", .string "h"), ("maxMessageSize", .null),
      ("port", .number (.natural 0))])]
  have hparse : parse args = .ok { config := "/r.json", topics := ["b", "a"], logJson := true } := by
    decide +kernel
  have hreads : (stored (configPath args env)).Reads entries := by
    have hpath : configPath args env = "/r.json" := by decide +kernel
    rw [hpath]
    exact .file (Bytes.text?_ofText text) (by decide +kernel)
  have hsectioned : Sectioned entries := by
    intro name hname
    simp only [List.mem_cons, List.not_mem_nil, or_false] at hname
    obtain rfl | rfl | rfl | rfl | rfl := hname
    · exact Or.inr ⟨_, rfl⟩
    · exact Or.inl rfl
    · exact Or.inl rfl
    · exact Or.inl rfl
    · exact Or.inr ⟨_, rfl⟩
  exact (settings_eq_ok_iff hparse hreads hsectioned).mpr
    ⟨{ host := "h", port := some 0, groupId := "g", topics := some ["e"] },
      by decide +kernel, by decide +kernel, by decide +kernel, by decide +kernel⟩

end CommandLine
end Switchboard
