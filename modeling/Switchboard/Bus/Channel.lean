import Switchboard.Text.Bytes

/-!
# Bus channels

A channel carries the records of one topic from a publisher to a consumer, and failures in between
them.  It has a fixed number of places.  Records are numbered as they are published; a number is
used up even if its record finds no place.
-/
namespace Switchboard.Bus

/-- A record of a topic. -/
structure Record where
  topic : String
  partition : Int
  offset : Int
  key : Option Bytes
  payload : Bytes
  deriving DecidableEq, Repr

/-- Why nothing was received. -/
inductive Failure
  /-- There are no more records. -/
  | closed
  /-- There will be no more records, for a reason. -/
  | fatal (reason : String)
  /-- There may be records later. -/
  | transient (reason : String)
  deriving DecidableEq, Repr

namespace Failure

/-- The short name of the kind of a failure. -/
def severity : Failure → String
  | closed => "closed"
  | fatal _ => "fatal"
  | transient _ => "transient"

/-- The wording of a failure. -/
def message : Failure → String
  | closed => "consumer closed"
  | fatal reason => "fatal bus error: " ++ reason
  | transient reason => "transient bus error: " ++ reason

end Failure

/-- A channel between a publisher and a consumer. -/
structure Channel where
  topic : String
  /-- How many items may wait. -/
  places : Nat
  items : List (Except Failure Record)
  /-- The number of the next record. -/
  nextOffset : Nat
  /-- Whether the publisher is still there. -/
  publishing : Bool
  /-- Whether the consumer is still there. -/
  consuming : Bool

/-- What a publisher is told. -/
inductive Publication
  | published
  /-- There is no place yet. -/
  | blocked
  /-- The consumer is gone. -/
  | closed
  deriving DecidableEq, Repr

namespace Channel

/-- A channel for a topic with so many places, but at least one. -/
def ofCapacity (topic : String) (capacity : Nat) : Channel :=
  ⟨topic, max capacity 1, [], 0, true, true⟩

/-- Puts an item into the channel. -/
def put (item : Except Failure Record) (c : Channel) : Publication × Channel :=
  if c.consuming then
    if c.items.length < c.places then (.published, { c with items := c.items ++ [item] })
    else (.blocked, c)
  else (.closed, c)

/-- Publishes a record. -/
def publish (payload : Bytes) (c : Channel) : Publication × Channel :=
  { c with nextOffset := c.nextOffset + 1 }.put (.ok ⟨c.topic, 0, c.nextOffset, none, payload⟩)

/-- Lets the consumer find a failure in the place of a record. -/
def fail (f : Failure) (c : Channel) : Publication × Channel := c.put (.error f)

/-- What the consumer finds, if it does not have to wait. -/
def front? (c : Channel) : Option (Except Failure Record) :=
  match c.items with
  | item :: _ => some item
  | [] => if c.publishing then none else some (.error .closed)

/-- Takes out what the consumer found. -/
def take (c : Channel) : Channel := { c with items := c.items.tail }

/-- The publisher goes away. -/
def dropPublisher (c : Channel) : Channel := { c with publishing := false }

/-- The consumer goes away, with all that was waiting for it. -/
def dropConsumer (c : Channel) : Channel := { c with items := [], consuming := false }

end Channel
end Switchboard.Bus
