import Mathlib.Tactic.IntervalCases
import Switchboard.Json.Token
import Switchboard.Json.Writer
import Switchboard.Proofs.Text.Encoding

/-! # Strings that are written are read back

A string is written character by character and read byte by byte.  The reader is
back between two characters after each character that was written, and has added the
bytes of that character (`scanString_escapedChar`); so at the closing quote it has the
bytes of the string.

The reader that only passes over a string follows the same path
(`skipString_written`). -/
namespace Switchboard.Json

open Ascii

/-! ## Characters that stand for themselves -/

/-- A byte that means nothing to the reader of a string. -/
def IsPlain (b : UInt8) : Prop := b ≠ quote ∧ b ≠ backslash ∧ ¬ b < 0x20

/-- The bytes of a character that need not be escaped mean nothing to the reader. -/
theorem isPlain_of_mem {c : Char} {b : UInt8} (hquote : c ≠ '"') (hbackslash : c ≠ '\\')
    (hcontrol : ¬ c.toNat < 0x20) (hb : b ∈ String.utf8EncodeChar c) : IsPlain b := by
  have hne : b.toNat ≠ 0x22 ∧ b.toNat ≠ 0x5c ∧ ¬ b.toNat < 0x20 := by
    by_cases hascii : c.toNat < 0x80
    · rw [Bytes.utf8EncodeChar_ascii hascii, List.mem_singleton] at hb
      have hnat : b.toNat = c.toNat := by
        rw [hb, UInt8.toNat_ofNat']
        omega
      rw [hnat]
      refine ⟨fun h => hquote ?_, fun h => hbackslash ?_, hcontrol⟩
      · exact Char.toNat_inj.mp h
      · exact Char.toNat_inj.mp h
    · have hlarge := Bytes.le_of_mem_utf8EncodeChar (Nat.not_lt.mp hascii) hb
      omega
  refine ⟨fun h => hne.1 ?_, fun h => hne.2.1 ?_, fun h => hne.2.2 ?_⟩
  · rw [h]
    rfl
  · rw [h]
    rfl
  · exact UInt8.lt_iff_toNat_lt.mp h

theorem scanString_plain {bs : Bytes} (hbs : ∀ b ∈ bs, IsPlain b) (done rest : Bytes) :
    scanString .plain done (bs ++ rest) = scanString .plain (bs.reverse ++ done) rest := by
  induction bs generalizing done with
  | nil => rfl
  | cons b bs ih =>
    obtain ⟨hquote, hbackslash, hcontrol⟩ := hbs b List.mem_cons_self
    rw [List.cons_append, scanString, if_neg hquote, if_neg hbackslash, if_neg hcontrol,
      ih fun b hb => hbs b (List.mem_cons_of_mem _ hb)]
    simp

theorem skipStringFrom_plain {bs : Bytes} (hbs : ∀ b ∈ bs, IsPlain b) (rest : Bytes) :
    skipStringFrom .plain (bs ++ rest) = skipStringFrom .plain rest := by
  induction bs with
  | nil => rfl
  | cons b bs ih =>
    obtain ⟨hquote, hbackslash, hcontrol⟩ := hbs b List.mem_cons_self
    rw [List.cons_append, skipStringFrom, if_neg hquote, if_neg hbackslash, if_neg hcontrol,
      ih fun b hb => hbs b (List.mem_cons_of_mem _ hb)]

/-! ## Characters that are escaped -/

/-- An escaped control character is read as that character. -/
theorem scanString_control {n : Nat} (hn : n < 0x20) (done rest : Bytes) :
    scanString .plain done (Bytes.ofChars (escapedChar (Char.ofNat n)) ++ rest) =
      scanString .plain ((String.utf8EncodeChar (Char.ofNat n)).reverse ++ done) rest := by
  interval_cases n <;> rfl

theorem skipStringFrom_control {n : Nat} (hn : n < 0x20) (rest : Bytes) :
    skipStringFrom .plain (Bytes.ofChars (escapedChar (Char.ofNat n)) ++ rest) =
      skipStringFrom .plain rest := by
  interval_cases n <;> rfl

/-- The ways in which a character is written: a control character by its number or
a letter, a quote or a backslash after a backslash, and any other as it is. -/
theorem escapedChar_cases {motive : Char → Prop}
    (control : ∀ n < 0x20, motive (Char.ofNat n)) (quoted : motive '"') (slashed : motive '\\')
    (plain : ∀ c, escapedChar c = [c] → (∀ b ∈ String.utf8EncodeChar c, IsPlain b) → motive c)
    (c : Char) : motive c := by
  by_cases hcontrol : c.toNat < 0x20
  · rw [← Char.ofNat_toNat c]
    exact control c.toNat hcontrol
  by_cases hquote : c = '"'
  · exact hquote ▸ quoted
  by_cases hbackslash : c = '\\'
  · exact hbackslash ▸ slashed
  · refine plain c ?_ fun b hb => isPlain_of_mem hquote hbackslash hcontrol hb
    simp [escapedChar, hquote, hbackslash, hcontrol]

/-- **After a character that was written** the reader has added its bytes. -/
theorem scanString_escapedChar (c : Char) (done rest : Bytes) :
    scanString .plain done (Bytes.ofChars (escapedChar c) ++ rest) =
      scanString .plain ((String.utf8EncodeChar c).reverse ++ done) rest := by
  cases c using escapedChar_cases with
  | control n hn => exact scanString_control hn done rest
  | quoted => rfl
  | slashed => rfl
  | plain c hself hplain =>
    rw [hself, Bytes.ofChars_cons, Bytes.ofChars_nil, List.append_nil]
    exact scanString_plain hplain done rest

theorem skipStringFrom_escapedChar (c : Char) (rest : Bytes) :
    skipStringFrom .plain (Bytes.ofChars (escapedChar c) ++ rest) = skipStringFrom .plain rest := by
  cases c using escapedChar_cases with
  | control n hn => exact skipStringFrom_control hn rest
  | quoted => rfl
  | slashed => rfl
  | plain c hself hplain =>
    rw [hself, Bytes.ofChars_cons, Bytes.ofChars_nil, List.append_nil]
    exact skipStringFrom_plain hplain rest

/-! ## Whole strings -/

/-- The bytes of a written string after its opening quote. -/
theorem ofChars_writeString (s : String) (rest : List Char) :
    Bytes.ofChars (writeString s rest) =
      quote :: (Bytes.ofChars (s.toList.flatMap escapedChar) ++ quote :: Bytes.ofChars rest) := by
  have hquote : ∀ cs, Bytes.ofChars ('"' :: cs) = quote :: Bytes.ofChars cs := fun _ => rfl
  rw [writeString, List.cons_append, hquote, Bytes.ofChars_append, hquote]

theorem scanString_written (cs : List Char) (done rest : Bytes) :
    scanString .plain done (Bytes.ofChars (cs.flatMap escapedChar) ++ quote :: rest) =
      .ok ((Bytes.ofChars cs).reverse ++ done, rest) := by
  induction cs generalizing done with
  | nil => rfl
  | cons c cs ih =>
    rw [List.flatMap_cons, Bytes.ofChars_append, List.append_assoc, scanString_escapedChar, ih,
      Bytes.ofChars_cons]
    simp

/-- **A written string is read back**, with what follows its closing quote. -/
theorem readString_written (s : String) (rest : Bytes) :
    readString (Bytes.ofChars (s.toList.flatMap escapedChar) ++ quote :: rest) = .ok (s, rest) := by
  have htext : Bytes.text? (Bytes.ofChars s.toList) = some s := by
    rw [← Bytes.ofText_eq, Bytes.text?_ofText]
  unfold readString
  rw [scanString_written]
  simp [bind, Except.bind, pure, Except.pure, htext]

/-- A written string is passed over to what follows its closing quote. -/
theorem skipString_written (s : String) (rest : Bytes) :
    skipString (Bytes.ofChars (s.toList.flatMap escapedChar) ++ quote :: rest) = .ok rest := by
  unfold skipString
  induction s.toList with
  | nil => rfl
  | cons c cs ih =>
    rw [List.flatMap_cons, Bytes.ofChars_append, List.append_assoc, skipStringFrom_escapedChar, ih]

end Switchboard.Json
