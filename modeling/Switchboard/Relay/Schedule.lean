import Switchboard.Relay.Basic

/-!
# The schedule of a relay

The tasks of a relay take turns.  A task whose turn it is goes on until it has to wait; rounds are
made until all tasks wait.  Only then does time pass, a millisecond at a time; tasks that are due at
the same moment go on in the order in which they settled on that moment.

Every turn is a sequence of steps, so a schedule does nothing that `Relay.step` does not allow.
Where read pumps look first is left as it is.
-/
namespace Switchboard.Relay

/-- The tasks of a relay. -/
def tasks (r : Relay) : List Task :=
  .hub :: (List.range r.inlets.length).map Task.bridge ++
    (List.range r.sessions.length).flatMap fun n => [.session n, .writer n, .reader n]

/-- Sets the timer of a task to the moment that it is waiting for. -/
def setTimer (t : Task) (r : Relay) : Relay :=
  let wake := r.wakeAt? t
  if r.timers.lookup t = wake then r
  else
    let others := r.timers.filter fun timer => timer.1 != t
    { r with timers := others ++ wake.toList.map fun due => (t, due) }

/-- Lets a task take at most so many steps. -/
def goOn (t : Task) : Nat → Relay → Relay
  | 0, r => r
  | fuel + 1, r =>
    match r.step t with
    | some r => goOn t fuel r
    | none => r

/-- More steps than a task takes in its turn: what it may find waiting, in every queue that it
may pass through. -/
def patience (r : Relay) : Nat :=
  let inSessions := r.sessions.foldl (fun n s => n + s.socket.arrivals.length +
    (s.queue.getD []).length + (r.connection s.client).queue.length) 0
  let inInlets := r.inlets.foldl (fun n i => n + i.channel.items.length) 0
  16 * (inSessions + inInlets + r.hub.mailbox.length + 1) *
    (r.sessions.length + r.inlets.length + 1)

/-- A task's turn. -/
def turn (r : Relay) (t : Task) : Relay :=
  match r.step t with
  | some next => (next.goOn t r.patience).setTimer t
  | none => r.setTimer t

/-- Whether a task can go on. -/
def isBusy (r : Relay) : Bool := r.tasks.any fun t => (r.step t).isSome

/-- Makes rounds until all tasks wait, but at most so many. -/
def rounds : Nat → Relay → Relay
  | 0, r => r
  | fuel + 1, r =>
    let r := r.tasks.foldl turn r
    if r.isBusy then rounds fuel r else r

/-- Lets the tasks go on until all of them wait. -/
def settle (r : Relay) : Relay := rounds r.patience r

/-- The tasks that are due. -/
def dueTasks (r : Relay) : List Task :=
  (r.timers.filter fun timer => timer.2 ≤ r.now).map Prod.fst

/-- Lets a millisecond pass. -/
def tick (r : Relay) : Relay :=
  let r := { r with now := r.now + 1 }
  match r.dueTasks with
  | [] => r
  | due => (due.foldl turn r).settle

/-- Lets so many milliseconds pass. -/
def advance : Nat → Relay → Relay
  | 0, r => r
  | n + 1, r => advance n r.tick

end Switchboard.Relay
