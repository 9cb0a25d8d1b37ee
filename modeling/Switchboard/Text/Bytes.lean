/-!
# Bytes and their text

Everything that arrives from outside arrives as a sequence of bytes.  A text is a sequence of
bytes that is well-formed UTF-8; `Bytes.ofText` writes a text down and `Bytes.text?` reads one
back.  Reading succeeds on exactly the sequences that writing produces (`text?_eq_some_iff`), so
nothing is lost and nothing is repaired on the way.
-/
namespace Switchboard

/-- A sequence of bytes. -/
abbrev Bytes := List UInt8

namespace Bytes

/-- The UTF-8 form of a text. -/
def ofText (s : String) : Bytes :=
  s.toByteArray.data.toList

/-- The text that a sequence of bytes is the UTF-8 form of, if there is one. -/
def text? (b : Bytes) : Option String :=
  String.fromUTF8? ⟨b.toArray⟩

theorem text?_eq_some_iff {b : Bytes} {s : String} : text? b = some s ↔ b = ofText s := by
  unfold text? ofText String.fromUTF8?
  constructor
  · intro h
    split at h
    · cases h
      simp [String.fromUTF8]
    · cases h
  · rintro rfl
    simp [String.fromUTF8, s.isValidUTF8]

@[simp] theorem text?_ofText (s : String) : text? (ofText s) = some s :=
  text?_eq_some_iff.2 rfl

end Bytes
end Switchboard
