import Heartbeat.Journal
import Heartbeat.Refusal
import Heartbeat.Storage
import Heartbeat.Timestamp

/-!
# What a process can do

A process that waits reads a clock, pauses, and gives up the attempt to finish when its rounds are
used up.  A process that observes can also look at the shared storage, report, fail, and go on after
a failure; it cannot change the storage.  A process that works can.

Everything a watcher does is written against the second of these three interfaces and everything an
owner does against the third, so both are the same text whatever lies between their steps.
-/

set_option autoImplicit false

namespace Heartbeat

/-- Computations that can wait. -/
class Waiting (m : Type → Type) extends Monad m where
  /-- Reads the clock. -/
  now : m Milliseconds
  /-- Sleeps for some milliseconds. -/
  pause : (milliseconds : Nat) → m Unit
  /-- Stops without a result, since the rounds granted for waiting are used up. -/
  exhausted : {α : Type} → m α

/-- Computations that can observe the storage that processes share. -/
class Observer (m : Type → Type) extends Waiting m where
  /-- Looks at the storage as it is now. -/
  look : {α : Type} → (Storage → Except Failure α) → m α
  /-- Stops with a failure. -/
  fail : {α : Type} → Failure → m α
  /-- Goes on with the result of a computation, also if that is a failure. -/
  attempt : {α : Type} → m α → m (Except Failure α)
  /-- Reports something. -/
  report : Report → m Unit

/-- Computations that can also change the storage that processes share. -/
class Worker (m : Type → Type) extends Observer m where
  /-- Works on the storage.  Also a failing piece of work leaves what it did. -/
  work : {α : Type} → (Storage → Except Failure α × Storage) → m α

/-- Takes a result that was computed beforehand. -/
def Observer.ofExcept {m : Type → Type} [Observer m] {α : Type} : Except Failure α → m α
  | .ok value => pure value
  | .error failure => fail failure

/-- Stops with a refusal. -/
def Observer.refuse {m : Type → Type} [Observer m] {α : Type} (refusal : Refusal) : m α :=
  fail (.refused refusal)

/-- Makes a change to the storage that happens or does not. -/
def Worker.change {m : Type → Type} [Worker m] (step : Storage → Except Failure Storage) : m Unit :=
  work fun storage =>
    match step storage with
    | .ok after => (.ok (), after)
    | .error failure => (.error failure, storage)

end Heartbeat
