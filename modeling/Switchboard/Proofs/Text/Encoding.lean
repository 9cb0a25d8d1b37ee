import Switchboard.Text.Bytes

/-! # Texts as bytes, one character after the other

The UTF-8 form of a text is that of its characters in a row (`Bytes.ofText_ofList`).
A character of ASCII is one byte below `0x80`, and no byte of any other character
lies there; so a reader that looks for ASCII bytes never finds one inside of
another character. -/
namespace Switchboard.Bytes

/-- The UTF-8 form of characters in a row. -/
def ofChars (cs : List Char) : Bytes := cs.flatMap String.utf8EncodeChar

@[simp] theorem ofChars_nil : ofChars [] = [] := rfl

theorem ofChars_cons (c : Char) (cs : List Char) :
    ofChars (c :: cs) = String.utf8EncodeChar c ++ ofChars cs := rfl

@[simp] theorem ofChars_append (cs ds : List Char) :
    ofChars (cs ++ ds) = ofChars cs ++ ofChars ds :=
  List.flatMap_append

theorem ofText_ofList (cs : List Char) : ofText (String.ofList cs) = ofChars cs := by
  simp [ofText, ofChars, List.utf8Encode]

theorem ofText_eq (s : String) : ofText s = ofChars s.toList := by
  rw [← ofText_ofList, String.ofList_toList]

/-- A character of ASCII is one byte. -/
theorem utf8EncodeChar_ascii {c : Char} (hc : c.toNat < 0x80) :
    String.utf8EncodeChar c = [UInt8.ofNat c.toNat] := by
  have hle : c.val.toNat ≤ 127 := Nat.le_of_lt_succ hc
  rw [String.utf8EncodeChar, if_pos hle]
  rfl

/-- A byte of any other character is none of ASCII. -/
theorem le_of_mem_utf8EncodeChar {c : Char} {b : UInt8} (hc : 0x80 ≤ c.toNat)
    (hb : b ∈ String.utf8EncodeChar c) : 0x80 ≤ b.toNat := by
  have hlarge : ¬ c.val.toNat ≤ 127 := Nat.not_le.mpr hc
  rw [String.utf8EncodeChar, if_neg hlarge] at hb
  split at hb
  · simp only [List.mem_cons, List.not_mem_nil, or_false] at hb
    rcases hb with rfl | rfl <;> simp <;> omega
  split at hb
  · simp only [List.mem_cons, List.not_mem_nil, or_false] at hb
    rcases hb with rfl | rfl | rfl <;> simp <;> omega
  · simp only [List.mem_cons, List.not_mem_nil, or_false] at hb
    rcases hb with rfl | rfl | rfl | rfl <;> simp <;> omega

end Switchboard.Bytes
