import Switchboard.Proofs.Json.Values
import Switchboard.Proofs.Text.Entries
import Switchboard.Proofs.Text.Numeral
import Switchboard.Settings.Layers

/-! # What variables of the environment say

A variable that is a list says its entries, however they are spelled, and no entry is
empty; so topics from the environment are never refused for an empty name
(`Environment.lists_exact`).  A variable that is a number says the value of a numeral, if
it is in range and fits the type, and the word that it is read into is that number and no
other (`Environment.numbers_exact`). -/
namespace Switchboard

open Text (IsEntry IsNumeral Spelling rangedNumeral? boundedNumeral?)

namespace Settings

variable {s : Settings}

theorem any_isEmpty_of_validate (h : s.validate = .error .emptyTopic) :
    s.bus.topics.any String.isEmpty = true := by
  unfold validate at h
  split at h
  · cases h
  split at h
  · cases h
  split at h
  · cases h
  split at h
  · cases h
  split at h
  · assumption
  · cases h

/-- Settings whose topics are entries of a list are not refused for an empty topic. -/
theorem validate_ne_emptyTopic (h : ∀ t ∈ s.bus.topics, IsEntry t) :
    s.validate ≠ .error .emptyTopic := by
  intro hvalidate
  obtain ⟨t, ht, hempty⟩ := List.any_eq_true.mp (any_isEmpty_of_validate hvalidate)
  exact (h t ht).ne_empty (String.isEmpty_iff.mp hempty)

theorem overlaid_ne_emptyTopic (stored : Stored) : overlaid stored ≠ .error .emptyTopic := by
  intro h
  unfold overlaid at h
  split at h
  · cases h
  · cases h
  · split at h
    · cases h
    · split at h <;> cases h

/-- What is loaded is refused for an empty topic only when it is validated. -/
theorem exists_of_load_emptyTopic {stored : Stored} {env : Environment}
    (h : load stored env = .error .emptyTopic) :
    ∃ s, (env.applyTo s).validate = .error .emptyTopic := by
  obtain h | ⟨merged, -, h⟩ := Json.error_or_exists_of_bind_eq_error h
  · exact absurd h (overlaid_ne_emptyTopic stored)
  obtain h | ⟨s, -, h⟩ := Json.error_or_exists_of_bind_eq_error h
  · obtain ⟨fault, -, hfault⟩ := Json.exists_of_mapError h
    cases hfault
  obtain h | ⟨_, -, h⟩ := Json.error_or_exists_of_bind_eq_error h
  · exact ⟨s, h⟩
  · cases h

end Settings

namespace Environment

variable {env : Environment} {name list : String} {low high : Nat}

/-! ## Lists -/

theorem topics_applyTo (h : env.filled? "RELAY_BUS_TOPICS" = some list) (s : Settings) :
    (env.applyTo s).bus.topics = Text.entries list := by
  show ((env.filled? "RELAY_BUS_TOPICS").map Text.entries).getD s.bus.topics = _
  rw [h]
  rfl

/-- Topics from the environment are not refused for an empty name. -/
theorem validate_applyTo_ne_emptyTopic (h : env.filled? "RELAY_BUS_TOPICS" = some list)
    (s : Settings) : (env.applyTo s).validate ≠ .error .emptyTopic := by
  refine Settings.validate_ne_emptyTopic fun t ht => ?_
  rw [topics_applyTo h] at ht
  exact (Text.mem_entries_iff.mp ht).1

theorem load_ne_emptyTopic (h : env.filled? "RELAY_BUS_TOPICS" = some list) (stored : Stored) :
    Settings.load stored env ≠ .error .emptyTopic := by
  intro hload
  obtain ⟨s, hvalidate⟩ := Settings.exists_of_load_emptyTopic hload
  exact validate_applyTo_ne_emptyTopic h s hvalidate

/-- **A list is split into its entries.**  A comma joins two lists into one.  Every entry is
non-empty, without a comma, and without a blank character at an end; and any texts like
that are the entries of the list that has them with commas between them, and of the lists
that spell them in any other way, with blank characters around them and with more commas
anywhere, but of no other list.  So topics that the environment gives are never refused
for an empty name. -/
theorem lists_exact :
    (∀ s t, Text.entries (s ++ "," ++ t) = Text.entries s ++ Text.entries t) ∧
    (∀ s, ∀ e ∈ Text.entries s, IsEntry e) ∧
    (∀ es : List String, (∀ e ∈ es, IsEntry e) → Text.entries (",".intercalate es) = es) ∧
    (∀ s es, Text.entries s = es ↔ ∃ parts, Spelling parts es ∧ s = ",".intercalate parts) ∧
    ∀ env list, filled? env "RELAY_BUS_TOPICS" = some list →
      (∀ s, (env.applyTo s).bus.topics = Text.entries list ∧
        (env.applyTo s).validate ≠ .error .emptyTopic) ∧
      ∀ stored, Settings.load stored env ≠ .error .emptyTopic :=
  ⟨Text.entries_append, fun _ _ he => (Text.mem_entries_iff.mp he).1,
    fun _ hes => (Text.spelling_self hes).entries_eq, fun _ _ => Text.entries_eq_iff,
    fun _ _ h => ⟨fun s => ⟨topics_applyTo h s, validate_applyTo_ne_emptyTopic h s⟩,
      load_ne_emptyTopic h⟩⟩

/-- Topics with blank characters of several bytes around them, a part of nothing else and
commas at both ends; the topics of the file are not taken, which have an empty name. -/
theorem lists_exact_spelled :
    let list := ",\u3000 a b\u2003,, \t,\u00a0c,"
    let env : Environment := ⟨[("RELAY_BUS_TOPICS", Bytes.ofText list)]⟩
    let stored : Stored := .file (Bytes.ofText "\x7b\"bus\":\x7b\"topics\":[\"\"]\x7d\x7d")
    Text.entries list = ["a b", "c"] ∧ Settings.load stored env ≠ .error .emptyTopic ∧
      Settings.load stored ⟨[]⟩ = .error .emptyTopic := by
  intro list env stored
  obtain ⟨-, -, -, hspelled, htopics⟩ := lists_exact
  have hspelling : Spelling
      ["", "\u3000 " ++ "a b" ++ "\u2003", "", " \t", "\u00a0" ++ "c" ++ "", ""] ["a b", "c"] := by
    have ha : IsEntry "a b" := by decide +kernel
    have hc : IsEntry "c" := by decide +kernel
    refine .blank (by decide +kernel) (.entry (by decide +kernel) ha (by decide +kernel) ?_)
    refine .blank (by decide +kernel) (.blank (by decide +kernel) ?_)
    exact .entry (by decide +kernel) hc (by decide +kernel) (.blank (by decide +kernel) .nil)
  exact ⟨(hspelled _ _).mpr ⟨_, hspelling, by decide +kernel⟩,
    (htopics env list (by decide +kernel)).2 stored, by decide +kernel⟩

/-! ## Numbers -/

/-- A number that a variable says, read into a word, is the value of the word. -/
theorem map_ofNat_eq_some_iff {W : Type} {ofNat : Nat → W} {toNat : W → Nat} {size : Nat} {w : W}
    (hlt : ∀ w, toNat w < size) (hto : ∀ n < size, toNat (ofNat n) = n)
    (hof : ∀ w, ofNat (toNat w) = w) :
    ((env.text? name).bind (rangedNumeral? size low high)).map ofNat = some w ↔
      ∃ s, env.text? name = some s ∧ IsNumeral s.toList (toNat w) ∧
        low ≤ toNat w ∧ toNat w ≤ high := by
  simp only [Option.map_eq_some_iff, Option.bind_eq_some_iff, Text.rangedNumeral?_eq_some_iff]
  constructor
  · rintro ⟨n, ⟨s, hs, hn, hfits, hrange⟩, rfl⟩
    rw [hto n hfits]
    exact ⟨s, hs, hn, hrange⟩
  · rintro ⟨s, hs, hn, hrange⟩
    exact ⟨toNat w, ⟨s, hs, hn, hlt w, hrange⟩, hof w⟩

theorem uint16?_eq_some_iff {w : UInt16} : env.uint16? name low high = some w ↔
    ∃ s, env.text? name = some s ∧ IsNumeral s.toList w.toNat ∧ low ≤ w.toNat ∧ w.toNat ≤ high :=
  map_ofNat_eq_some_iff UInt16.toNat_lt (fun _ h => UInt16.toNat_ofNat_of_lt' h)
    fun _ => UInt16.ofNat_toNat

theorem uint64?_eq_some_iff {w : UInt64} : env.uint64? name low high = some w ↔
    ∃ s, env.text? name = some s ∧ IsNumeral s.toList w.toNat ∧ low ≤ w.toNat ∧ w.toNat ≤ high :=
  map_ofNat_eq_some_iff UInt64.toNat_lt (fun _ h => UInt64.toNat_ofNat_of_lt' h)
    fun _ => UInt64.ofNat_toNat

/-- **A number in a range is read of its numerals and of nothing else**: of one plus sign at
most and then digits, which are the decimal form of the number with any number of zeros
before it, if the number fits the type and is in the range.  It is the number that is found
by taking in the digits with numbers of the type only, and giving up where one does not
fit.  A word that is read of a variable is such a number, without anything taken off. -/
theorem numbers_exact :
    (∀ limit low high s n, rangedNumeral? limit low high s = some n ↔
      IsNumeral s.toList n ∧ n < limit ∧ low ≤ n ∧ n ≤ high) ∧
    (∀ cs n, IsNumeral cs n ↔ ∃ zeros,
      cs = List.replicate zeros '0' ++ Nat.toDigits 10 n ∨
      cs = '+' :: (List.replicate zeros '0' ++ Nat.toDigits 10 n)) ∧
    (∀ limit low high s, rangedNumeral? limit low high s =
      (boundedNumeral? limit s.toList).filter fun n => low ≤ n ∧ n ≤ high) ∧
    (∀ env name low high w, uint16? env name low high = some w ↔
      ∃ s, env.text? name = some s ∧ IsNumeral s.toList w.toNat ∧
        low ≤ w.toNat ∧ w.toNat ≤ high) ∧
    ∀ env name low high w, uint64? env name low high = some w ↔
      ∃ s, env.text? name = some s ∧ IsNumeral s.toList w.toNat ∧
        low ≤ w.toNat ∧ w.toNat ≤ high :=
  ⟨fun _ _ _ _ _ => Text.rangedNumeral?_eq_some_iff, fun _ _ => Text.isNumeral_iff_toDigits,
    fun _ _ _ _ => Text.rangedNumeral?_eq_boundedNumeral?,
    fun _ _ _ _ _ => uint16?_eq_some_iff, fun _ _ _ _ _ => uint64?_eq_some_iff⟩

/-- The largest port and the largest word, with a sign and zeros; one more than that, a sign
too many, no digit at all, and far more digits than fit. -/
theorem numbers_exact_edges :
    rangedNumeral? UInt16.size 0 65535 "+0065535" = some 65535 ∧
    rangedNumeral? UInt64.size 1 18446744073709551615 "00018446744073709551615" =
      some 18446744073709551615 ∧
    (∀ s ∈ ["65536", "++1", "+", "", "-0", "1 ", "4294967297", "184467440737095516160000000001"],
      rangedNumeral? UInt16.size 0 65535 s = none) ∧
    uint16? ⟨[("RELAY_PORT", Bytes.ofText "+0065535")]⟩ "RELAY_PORT" 0 65535 = some 65535 := by
  obtain ⟨hranged, hnumerals, -, hwords, -⟩ := numbers_exact
  have hport : IsNumeral "+0065535".toList 65535 :=
    (hnumerals _ _).mpr ⟨2, Or.inr (by decide +kernel)⟩
  have hword : IsNumeral "00018446744073709551615".toList 18446744073709551615 :=
    (hnumerals _ _).mpr ⟨3, Or.inl (by decide +kernel)⟩
  exact ⟨(hranged _ _ _ _ _).mpr ⟨hport, by decide, by decide, by decide⟩,
    (hranged _ _ _ _ _).mpr ⟨hword, by decide, by decide, by decide⟩, by decide +kernel,
    (hwords _ _ _ _ _).mpr ⟨_, by decide +kernel, hport, by decide, by decide⟩⟩

end Environment
end Switchboard
