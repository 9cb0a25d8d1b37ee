import Switchboard.Switch

/-!
# The hub

The hub is a switch with a mailbox.  Events are submitted from anywhere and applied one by one in
the order in which they were submitted.  A submitter waits while the mailbox is full, and is
refused once the hub has stopped.

The hub stops when it is asked to, whatever is left in the mailbox, or when nobody is left who
could submit anything.  It then closes the connection of every registered client.
-/
namespace Switchboard

/-- A switch, and what it has been asked to do. -/
structure Hub where
  switch : Switch
  /-- How many events may wait. -/
  places : Nat
  mailbox : List Event
  stopAsked : Bool
  /-- Whether nobody is left who could submit anything. -/
  abandoned : Bool
  stopped : Bool

/-- What a submitter is told. -/
inductive Admission
  | admitted
  /-- There is no place yet. -/
  | wait
  | refused
  deriving DecidableEq, Repr

namespace Hub

/-- A running hub with so many places in its mailbox, but at least one. -/
def ofCapacity (capacity : Nat) : Hub := ⟨∅, max capacity 1, [], false, false, false⟩

/-- A running hub with so many places in its mailbox, if a queue can be made with them. -/
def ofCapacity? (capacity : Nat) : Option Hub :=
  if max capacity 1 ≤ mostPlaces then some (ofCapacity capacity) else none

instance : Inhabited Hub := ⟨ofCapacity 1⟩

/-- What a submitter is told of the refusal. -/
def refusal : String := "hub is not running"

/-- Whether an event can be submitted. -/
def admission (h : Hub) : Admission :=
  if h.stopped then .refused
  else if h.mailbox.length < h.places then .admitted
  else .wait

/-- Leaves an event in the mailbox. -/
def submit (e : Event) (h : Hub) : Hub := { h with mailbox := h.mailbox ++ [e] }

/-- Asks the hub to stop. -/
def askStop (h : Hub) : Hub := { h with stopAsked := true }

/-- Changes the switch from outside the mailbox: somebody reads a queue, or closes a connection. -/
def withSwitch (f : Switch → Switch) (h : Hub) : Hub := { h with switch := f h.switch }

/-- Stops. -/
def stop (h : Hub) : Hub :=
  { h with switch := h.switch.shutDown, mailbox := [], stopped := true }

/-- The next thing that the hub does, if there is anything to do.  The wish that it stop comes
before all events. -/
def step (h : Hub) : Option Hub :=
  if h.stopped then none
  else if h.stopAsked then some h.stop
  else match h.mailbox with
    | e :: rest => some { h with switch := h.switch.apply e, mailbox := rest }
    | [] => if h.abandoned then some h.stop else none

@[simp] theorem mailbox_submit (e : Event) (h : Hub) :
    (h.submit e).mailbox = h.mailbox ++ [e] := rfl

theorem admission_eq_admitted_iff (h : Hub) :
    h.admission = .admitted ↔ h.stopped = false ∧ h.mailbox.length < h.places := by
  unfold admission
  cases h.stopped <;> simp

end Hub
end Switchboard
