/-!
# Shutdown

One signal stops the whole process.  Parts of it may have signals of their own, which are given
with the whole but can also be given alone.

A graceful shutdown gives the signal and then waits for tasks, but not for ever: whatever is still
running at the end of the wait is broken off.
-/
namespace Switchboard

/-- A signal to stop. -/
inductive StopSignal
  /-- The one of the whole process. -/
  | whole
  /-- One of a part, and whether it was given alone. -/
  | part (given : Bool)
  deriving DecidableEq, Repr

namespace StopSignal

/-- Whether a signal is given, when the whole process is stopping or not. -/
def isGiven (stopping : Bool) : StopSignal → Bool
  | whole => stopping
  | part given => stopping || given

end StopSignal

/-- A signal that the system sends to the process. -/
inductive SystemSignal
  | terminate
  | interrupt
  | other
  deriving DecidableEq, Repr

/-- Whether a signal of the system stops the process. -/
def SystemSignal.stops : SystemSignal → Bool
  | terminate | interrupt => true
  | other => false

/-- How far a task is. -/
inductive TaskState
  | running
  | done
  /-- Over without having come to its end: it failed, or was broken off. -/
  | lost
  deriving DecidableEq, Repr

/-- A task that may wait for the signal, then works for some milliseconds, and then is done or
fails. -/
structure ShutdownTask where
  waits : Bool
  work : Nat
  fails : Bool
  state : TaskState
  deriving DecidableEq, Repr

namespace ShutdownTask

/-- How a task ends if it is left to itself. -/
def outcome (t : ShutdownTask) : TaskState := if t.fails then .lost else .done

/-- A task after a moment in which no time passes: it is over if it has nothing to wait for and no
work. -/
def settle (stopping : Bool) (t : ShutdownTask) : ShutdownTask :=
  if t.state = .running ∧ (stopping ∨ ¬ t.waits) ∧ t.work = 0 then { t with state := t.outcome }
  else t

/-- A task after so many milliseconds of waiting for it: it has ended if its work takes less than
that, and is broken off otherwise. -/
def finish (wait : Nat) (t : ShutdownTask) : ShutdownTask :=
  if t.state = .running then { t with state := if t.work < wait then t.outcome else .lost } else t

end ShutdownTask

namespace Shutdown

/-- How long a graceful shutdown waits if nothing else is asked for, in milliseconds. -/
def defaultWait : Nat := 10000

/-- Waits for tasks after the signal was given, and breaks off those that are not over before the
wait is.  Tells how long that took. -/
def graceful (wait : Nat) (ts : List ShutdownTask) : List ShutdownTask × Nat :=
  let left := ts.filter fun t => t.state = .running
  (ts.map (ShutdownTask.finish wait),
    if left.all fun t => t.work < wait then left.foldl (fun longest t => max longest t.work) 0
    else wait)

end Shutdown
end Switchboard
