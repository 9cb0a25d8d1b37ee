import Switchboard.Json.Writer
import Switchboard.Text.Bytes

/-!
# Payloads and frames

A payload is what a message carries: bytes that are passed on as they are.  A frame is what a
WebSocket carries.  A payload goes out as a text frame when it is text, and as a binary frame
otherwise, so that a receiver gets the same bytes either way (`Payload.data?_frame`).
-/
namespace Switchboard

/-- What a message carries. -/
structure Payload where
  bytes : Bytes
  deriving DecidableEq, Repr

/-- What a WebSocket carries. -/
inductive Frame
  | text (s : String)
  | binary (b : Bytes)
  | ping (b : Bytes)
  | pong (b : Bytes)
  /-- The last frame, with or without a code and a reason. -/
  | close (reason : Option (Nat × String))
  deriving DecidableEq, Repr

/-- The bytes of a frame that carries data. -/
def Frame.data? : Frame → Option Bytes
  | text s => some (Bytes.ofText s)
  | binary b => some b
  | _ => none

/-- A frame carries data. -/
def Frame.isData (f : Frame) : Bool := f.data?.isSome

namespace Payload

/-- A payload that is a text. -/
def ofText (s : String) : Payload := ⟨Bytes.ofText s⟩

/-- A payload that is a JSON value in compact form. -/
def ofJson (v : Json.Value) : Payload := ofText v.text

/-- The payload as text, if it is one. -/
def text? (p : Payload) : Option String := Bytes.text? p.bytes

/-- How many bytes there are. -/
def size (p : Payload) : Nat := p.bytes.length

/-- How a payload shows in a message that must not show its content. -/
def summary (p : Payload) : String := "Payload(" ++ toString p.size ++ ")"

/-- The frame that a payload goes out as. -/
def frame (p : Payload) : Frame :=
  match p.text? with
  | some s => .text s
  | none => .binary p.bytes

/-- The frame of a payload carries the payload's bytes. -/
theorem data?_frame (p : Payload) : p.frame.data? = some p.bytes := by
  unfold frame
  split
  · next s h => simp [Frame.data?, ← Bytes.text?_eq_some_iff.1 h]
  · rfl

theorem isData_frame (p : Payload) : p.frame.isData := by
  rw [Frame.isData, p.data?_frame]
  rfl

@[simp] theorem frame_ofText (s : String) : (ofText s).frame = .text s := by
  simp [frame, text?, ofText]

end Payload
end Switchboard
