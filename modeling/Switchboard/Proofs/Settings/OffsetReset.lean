import Switchboard.Proofs.Json.Parts
import Switchboard.Proofs.ReadBack
import Switchboard.Proofs.Settings.Loaded

/-! # Where consuming starts

There are two places where consuming can start (`offsetResets`), and the environment is
held to them: a variable that says anything else counts as not set
(`CommandLine.settings_without`).  The settings file is not.  Whatever text it has for the
field, in whichever way its records are written, is taken as it is
(`Settings.autoOffsetReset_of_load`), and validation does not look at it; so settings may be
loaded, and the relay started, with any text at all (`CommandLine.offsetReset_exact`). -/
namespace Switchboard

open Json (Value Field Decoder)
open Json.Decoder (Holds Gives)

/-- The two places where consuming can start. -/
def offsetResets : List String := ["earliest", "latest"]

/-- Where consuming starts as far as an environment says, which is one of the two places. -/
def Environment.offsetResetText? (env : Environment) : Option String :=
  (env.text? "RELAY_BUS_OFFSET_RESET").filter (· ∈ offsetResets)

/-- An environment in which a variable is not set. -/
def Environment.without (env : Environment) (name : String) : Environment :=
  ⟨env.entries.filter (·.1 != name)⟩

namespace Settings

/-- Where consuming starts as far as a settings file says, which is any text. -/
def offsetResetText? (file : Value) : Option String :=
  ((file.part? "bus" 3).bind (Value.part? "autoOffsetReset" 3)).bind Value.string?

end Settings

/-- Where consuming starts as far as it is said by what stands at a path. -/
def Stored.offsetResetText? : Stored → Option String
  | .file content => (Json.parse content).toOption.bind Settings.offsetResetText?
  | .absent | .directory => none

namespace Settings

variable {stored : Stored} {env : Environment} {s : Settings} {v : Value}

/-- Where consuming starts by a settings file and an environment. -/
def startingPoint (stored : Stored) (env : Environment) : String :=
  env.offsetResetText?.getD (stored.offsetResetText?.getD "latest")

/-! ## The file -/

theorem gives_bus (hv : v.Canonical) (h : decoder.ofValue v = .ok s) :
    Gives BusSettings.decoder (v.part? "bus" 3) {} s.bus := by
  refine Holds.gives Settings.bus hv h (Decoder.holds_optional rfl (by decide) (fun _ _ => rfl) ?_)
  simp only [List.forall_mem_cons]
  exact ⟨.inr (Field.keeps_optional _ _ fun _ _ => rfl),
    .inr (Field.keeps_optional _ _ fun _ _ => rfl),
    .inr (Field.keeps_optional _ _ fun _ _ => rfl), .inl rfl,
    .inr (Field.keeps_optional _ _ fun _ _ => rfl), nofun⟩

theorem gives_autoOffsetReset {b : BusSettings} (hv : v.Canonical)
    (h : BusSettings.decoder.ofValue v = .ok b) :
    Gives .string (v.part? "autoOffsetReset" 3) "latest" b.autoOffsetReset := by
  refine Holds.gives BusSettings.autoOffsetReset hv h
    (Decoder.holds_optional rfl (by decide) (fun _ _ => rfl) ?_)
  simp only [List.forall_mem_cons]
  exact ⟨.inr (Field.keeps_optional _ _ fun _ _ => rfl),
    .inr (Field.keeps_optional _ _ fun _ _ => rfl),
    .inr (Field.keeps_optional _ _ fun _ _ => rfl), .inl rfl, nofun⟩

/-- What is read of a file that is laid over the defaults is the text that the file has,
or else the default. -/
theorem autoOffsetReset_of_overlay (hv : v.Canonical)
    (h : decoder.ofValue (.overlay (Settings.json {}) v) = .ok s) :
    s.bus.autoOffsetReset = (offsetResetText? v).getD "latest" := by
  have hmerged : (Value.overlay (Settings.json {}) v).Canonical :=
    Value.Canonical.overlay (canonical_json {}) hv
  have hbus := gives_bus hmerged h
  have htext : ∀ b, (Value.overlay (Settings.json {}) v).part? "bus" 3 = some b →
      s.bus.autoOffsetReset =
        ((b.part? "autoOffsetReset" 3).bind Value.string?).getD "latest" := by
    intro b hb
    rw [hb] at hbus
    exact (gives_autoOffsetReset (Value.canonical_of_part? hmerged hb) hbus).string_eq
  by_cases hobject : ∃ fields, v = .object fields
  · -- the bus of the file is laid over that of the defaults
    obtain ⟨fields, rfl⟩ := hobject
    obtain ⟨hsorted, hfields⟩ := Value.canonical_object_iff.mp hv
    have hunder : Value.field? "bus" (Settings.json {}).fields = some (BusSettings.json {}) := rfl
    rw [htext _ (Value.part?_overlay_object hsorted hunder), offsetResetText?]
    show _ = (((Value.field? "bus" fields).bind _).bind _).getD "latest"
    rw [Value.bind_part?_eq_entry, Value.entry_eq_given?]
    cases hgiven : Value.given? "bus" fields with
    | none => rfl
    | some w =>
      have hw : w.Canonical := hfields _ (Value.mem_of_field? (Value.field?_of_given? hgiven))
      exact Value.getD_string?_overlay hw rfl
  · -- the file takes the place of the defaults
    have hplace : Value.overlay (Settings.json {}) v = v :=
      Value.overlay_of_not_isObject fun h => hobject h.2
    rw [hplace] at hbus htext
    cases hpart : v.part? "bus" 3 with
    | none =>
      rw [hpart] at hbus
      have hdefault : s.bus = {} := hbus
      rw [hdefault, offsetResetText?, hpart]
      rfl
    | some b =>
      rw [htext b hpart, offsetResetText?, hpart]
      rfl

/-- What stands at a path, laid over the defaults. -/
theorem exists_of_overlaid {merged : Value} (h : overlaid stored = .ok merged) :
    ∃ v, v.Canonical ∧ merged = .overlay (Settings.json {}) v ∧
      stored.offsetResetText? = offsetResetText? v := by
  unfold overlaid at h
  cases stored with
  | absent =>
    cases h
    refine ⟨.object [], Value.canonical_object_iff.mpr ⟨List.Pairwise.nil, nofun⟩, ?_, rfl⟩
    show _ = Value.overlay (.object (Settings.json {}).fields) (.object [])
    rw [Value.overlay_object]
    rfl
  | directory => cases h
  | file content =>
    simp only at h
    split at h
    · cases h
    split at h
    · cases h
    · next v hparse =>
      cases h
      refine ⟨v, (Decoder.canonical_of_parse hparse).1, rfl, ?_⟩
      rw [Stored.offsetResetText?, hparse]
      rfl

end Settings

/-! ## The environment -/

namespace Environment

variable {env : Environment} {name other : String}

theorem text?_without : (env.without name).text? name = none := by
  have hnone : (env.without name).entries.find? (·.1 == name) = none := by
    simp [without, List.find?_eq_none]
  rw [text?, hnone]
  rfl

theorem text?_without_of_ne (h : other ≠ name) :
    (env.without name).text? other = env.text? other := by
  have hfind : (env.without name).entries.find? (·.1 == other) =
      env.entries.find? (·.1 == other) := by
    rw [without, List.find?_filter]
    congr 1
    funext e
    by_cases he : e.1 = other <;> simp [he, h]
  rw [text?, hfind, text?]

/-- A variable that says neither of the two places counts as not set. -/
theorem layer_without (h : env.offsetResetText? = none) :
    (env.without "RELAY_BUS_OFFSET_RESET").layer = env.layer := by
  have htext : (env.text? "RELAY_BUS_OFFSET_RESET").filter (· ∈ ["earliest", "latest"]) = none :=
    h
  simp (disch := decide) only [layer, filled?, number?, text?_without, text?_without_of_ne, htext,
    Option.filter_none]

end Environment

/-! ## What is loaded -/

namespace Settings

/-- **Where consuming starts by what is loaded**: where the environment says, if that is one
of the two places, or else where the file says, whatever that is. -/
theorem autoOffsetReset_of_load (h : load stored env = .ok s) :
    s.bus.autoOffsetReset = startingPoint stored env := by
  obtain ⟨merged, hoverlaid, h⟩ := Json.exists_of_bind_eq_ok h
  obtain ⟨read, hread, h⟩ := Json.exists_of_bind_eq_ok h
  obtain ⟨_, -, h⟩ := Json.exists_of_bind_eq_ok h
  cases h
  obtain ⟨v, hv, rfl, hsays⟩ := exists_of_overlaid hoverlaid
  have hfile := autoOffsetReset_of_overlay hv (Json.eq_ok_of_mapError hread)
  rw [env.applyTo_eq_onto, startingPoint, hsays, ← hfile]
  rfl

/-- The environment matters by what it says only. -/
theorem load_congr {env' : Environment} (h : env.layer = env'.layer) :
    load stored env = load stored env' := by
  have happly : env.applyTo = env'.applyTo := by
    funext s
    rw [env.applyTo_eq_onto, env'.applyTo_eq_onto, h]
  rw [load, load, happly]

theorem validate_of_load (h : load stored env = .ok s) : s.validate = .ok () := by
  obtain ⟨merged, -, h⟩ := Json.exists_of_bind_eq_ok h
  obtain ⟨read, -, h⟩ := Json.exists_of_bind_eq_ok h
  obtain ⟨_, hvalid, h⟩ := Json.exists_of_bind_eq_ok h
  cases h
  exact hvalid

/-- One of the two places is the one that is loaded, if the environment says one of them or
the file says no other. -/
theorem startingPoint_mem_iff : startingPoint stored env ∈ offsetResets ↔
    env.offsetResetText?.isSome ∨ ∀ t ∈ stored.offsetResetText?, t ∈ offsetResets := by
  rw [startingPoint]
  cases henv : env.offsetResetText? with
  | some t =>
    have ht : t ∈ offsetResets := by
      simpa using (Option.filter_eq_some_iff.mp henv).2
    simp [ht]
  | none =>
    cases stored.offsetResetText? with
    | some t => simp
    | none => simp [offsetResets]

/-! ## What can be loaded -/

/-- What is written of settings nests no deeper than the topics. -/
theorem depth_json_le (s : Settings) : s.json.depth ≤ 3 := by
  have htopics : (Value.array (s.bus.topics.map Value.string)).depth ≤ 1 :=
    (Value.canonical_strings id s.bus.topics).2
  have hbus : s.bus.json.depth ≤ 2 := by
    refine Nat.succ_le_succ (Value.depthFields_le_iff.mpr ?_)
    simp only [List.forall_mem_cons]
    exact ⟨Nat.zero_le _, Nat.zero_le _, Nat.zero_le _, htopics, nofun⟩
  refine Nat.succ_le_succ (Value.depthFields_le_iff.mpr ?_)
  simp only [List.forall_mem_cons]
  exact ⟨hbus, Nat.le_succ 1, Nat.le_succ 1, Nat.le_succ 1, Nat.le_succ 1, nofun⟩

/-- **All settings that are valid can be loaded**, from what is written of them. -/
theorem load_text (hvalid : s.validate = .ok ()) :
    load (.file (Bytes.ofText s.json.text)) ⟨[]⟩ = .ok s := by
  have hparse : Json.parse (Bytes.ofText s.json.text) = .ok (.object s.json.fields) :=
    Decoder.faithful_value.parse s.canonical_json (s.depth_json_le.trans (by decide))
  refine (load_eq_ok_iff (.file (Bytes.text?_ofText _) hparse) s.sectioned_json).mpr
    ⟨s.layer, s.ofFile_json, ?_, hvalid⟩
  rfl

end Settings

namespace CommandLine

variable {args : List String} {env : Environment} {stored : String → Stored} {s : Settings}

/-- Without arguments the relay starts with what is loaded. -/
theorem settings_nil (h : Settings.load (stored (Settings.path env)) env = .ok s) :
    settings [] env stored = .ok s := by
  have hvalid := Settings.validate_of_load h
  show (do
    let s ← (Settings.load (stored (Settings.path env)) env).mapError _
    (applyTo {} s).validate.mapError StartError.overridden
    return applyTo {} s) = _
  rw [h]
  show (do
    s.validate.mapError StartError.overridden
    return s) = _
  rw [hvalid]
  rfl

/-- No argument says where consuming starts. -/
theorem autoOffsetReset_of_settings (h : settings args env stored = .ok s) :
    s.bus.autoOffsetReset = Settings.startingPoint (stored (configPath args env)) env := by
  obtain ⟨c, hparse, h⟩ := Json.exists_of_bind_eq_ok h
  obtain ⟨loaded, hload, h⟩ := Json.exists_of_bind_eq_ok h
  obtain ⟨_, -, h⟩ := Json.exists_of_bind_eq_ok h
  cases h
  have hpath : c.config.getD (Settings.path env) = configPath args env := by
    rw [eq_ofGiven_of_parse (Json.eq_ok_of_mapError hparse)]
    rfl
  rw [hpath] at hload
  have hloaded := Settings.autoOffsetReset_of_load (Json.eq_ok_of_mapError hload)
  exact hloaded

theorem validate_of_settings (h : settings args env stored = .ok s) : s.validate = .ok () := by
  obtain ⟨c, -, h⟩ := Json.exists_of_bind_eq_ok h
  obtain ⟨loaded, -, h⟩ := Json.exists_of_bind_eq_ok h
  obtain ⟨_, hvalid, h⟩ := Json.exists_of_bind_eq_ok h
  cases h
  exact Json.eq_ok_of_mapError hvalid

/-- What the environment says wrongly makes no difference to how the relay starts. -/
theorem settings_without (h : env.offsetResetText? = none) :
    settings args (env.without "RELAY_BUS_OFFSET_RESET") stored = settings args env stored := by
  have hpath : Settings.path (env.without "RELAY_BUS_OFFSET_RESET") = Settings.path env := by
    simp [Settings.path, Environment.filled?, Environment.text?_without_of_ne]
  have hload : ∀ file, Settings.load file (env.without "RELAY_BUS_OFFSET_RESET") =
      Settings.load file env := fun _ => Settings.load_congr (Environment.layer_without h)
  simp only [settings, hpath, hload]

/-- **Where consuming starts** when the relay starts, for any settings file, environment and
command line.  It is where the environment says, or else where the file says, or else
`latest`; so it is one of the two places exactly if the environment says one of them or the
file says no other.  An environment that says another makes no difference.  But a file that
does is neither refused nor ignored: with all else as it is, the relay starts with any text
at all. -/
theorem offsetReset_exact (h : settings args env stored = .ok s) :
    let file := stored (configPath args env)
    s.bus.autoOffsetReset = Settings.startingPoint file env ∧
      (s.bus.autoOffsetReset ∈ offsetResets ↔
        env.offsetResetText?.isSome ∨ ∀ t ∈ file.offsetResetText?, t ∈ offsetResets) ∧
      (env.offsetResetText? = none →
        settings args (env.without "RELAY_BUS_OFFSET_RESET") stored = .ok s) ∧
      ∀ t, ∃ stored', settings [] ⟨[]⟩ stored' =
        .ok { s with bus := { s.bus with autoOffsetReset := t } } := by
  have hstart := autoOffsetReset_of_settings h
  refine ⟨hstart, ?_, fun hnone => (settings_without hnone).trans h, fun t => ?_⟩
  · rw [hstart]
    exact Settings.startingPoint_mem_iff
  · -- validation does not look at the text
    have hvalid := validate_of_settings h
    have hany : Settings.validate { s with bus := { s.bus with autoOffsetReset := t } } = .ok () :=
      hvalid
    exact ⟨fun _ => .file _, settings_nil (Settings.load_text hany)⟩

/-- A bus that is written as an array, with another place both there and in the
environment. -/
theorem offsetReset_exact_of_array :
    let args := ["--topic", "a", "--config=/r.json"]
    let env : Environment := ⟨[("RELAY_BUS_OFFSET_RESET", Bytes.ofText "Latest")]⟩
    let text := "\x7b\"bus\":[\"b:9092\",\"g\",[],\"sometimes\"]\x7d"
    let stored := fun path => if path = "/r.json" then .file (Bytes.ofText text) else .absent
    let s : Settings := { bus := ⟨"b:9092", "g", ["a"], "sometimes"⟩ }
    settings args env stored = .ok s ∧
      Settings.startingPoint (.file (Bytes.ofText text)) env = "sometimes" ∧
      "sometimes" ∉ offsetResets ∧
      settings args (env.without "RELAY_BUS_OFFSET_RESET") stored = .ok s ∧
      ∃ stored', settings [] ⟨[]⟩ stored' = .ok { bus := ⟨"b:9092", "g", ["a"], "never"⟩ } := by
  intro args env text stored s
  have hsettings : settings args env stored = .ok s := by decide +kernel
  have hpath : stored (configPath args env) = .file (Bytes.ofText text) := by decide +kernel
  obtain ⟨hstart, -, hignored, hany⟩ := offsetReset_exact hsettings
  rw [hpath] at hstart
  exact ⟨hsettings, hstart.symm, by decide, hignored (by decide +kernel), hany "never"⟩

/-- The two places are not all that the relay starts with: what is ignored in the
environment is taken from the file. -/
theorem offsetReset_unchecked :
    let text := "\x7b\"bus\":\x7b\"autoOffsetReset\":\"sometimes\"\x7d\x7d"
    let file := Stored.file (Bytes.ofText text)
    let env : Environment := ⟨[("RELAY_BUS_OFFSET_RESET", Bytes.ofText "sometimes")]⟩
    settings [] ⟨[]⟩ (fun _ => file) = .ok { bus := { autoOffsetReset := "sometimes" } } ∧
      settings [] env (fun _ => .absent) = .ok {} ∧
      ¬ ∀ args env stored s, settings args env stored = .ok s →
        s.bus.autoOffsetReset ∈ offsetResets := by
  intro text file env
  have hfile : settings [] ⟨[]⟩ (fun _ => file) =
      .ok { bus := { autoOffsetReset := "sometimes" } } := by decide +kernel
  refine ⟨hfile, by decide +kernel, fun h => ?_⟩
  exact absurd (h [] ⟨[]⟩ (fun _ => file) _ hfile) (by decide)

end CommandLine
end Switchboard
