import Heartbeat.Clock
import Heartbeat.Observer

/-!
# Activities

An activity is what a process does in an environment: the clock that it reads, the storage that it
shares with others, and the journal of its reports.  It returns a value, or fails, or is still
waiting when the rounds that it was granted are used up.  In the first two cases it leaves an
environment, and the third leaves none, since what waits forever has no last moment.

`run_pure` and `run_bind` say how the run of an activity is put together from the runs of its parts.
-/

set_option autoImplicit false

namespace Heartbeat

/-- What an activity runs in. -/
structure Environment where
  /-- The clock that the process reads. -/
  clock : Clock
  /-- The files and memories that it shares with others. -/
  storage : Storage
  /-- What it reported, the first report first. -/
  journal : List Report

/-- How far an activity came. -/
inductive Outcome (α : Type) where
  /-- It returned a value. -/
  | returned (value : α) (after : Environment)
  /-- It failed. -/
  | failed (failure : Failure) (after : Environment)
  /-- It is still waiting. -/
  | pending

/-- A computation in an environment. -/
def Activity (α : Type) : Type := Environment → Outcome α

namespace Activity

/-- Runs an activity. -/
def run {α : Type} (activity : Activity α) (environment : Environment) : Outcome α :=
  activity environment

/-- Goes on with the value that an activity returned. -/
def andThen {α β : Type} (activity : Activity α) (next : α → Activity β) : Activity β :=
  fun environment =>
    match activity environment with
    | .returned value after => next value after
    | .failed failure after => .failed failure after
    | .pending => .pending

instance : Monad Activity where
  pure value := fun environment => .returned value environment
  bind := andThen

/-- Stops with a failure. -/
def fail {α : Type} (failure : Failure) : Activity α :=
  fun environment => .failed failure environment

/-- Goes on with the result of an activity, also if that is a failure. -/
def attempt {α : Type} (activity : Activity α) : Activity (Except Failure α) :=
  fun environment =>
    match activity environment with
    | .returned value after => .returned (.ok value) after
    | .failed failure after => .returned (.error failure) after
    | .pending => .pending

/-- Reads the clock, after the acts that its script has for this reading. -/
def now : Activity Milliseconds := fun environment =>
  let reading := environment.clock.read environment.storage
  .returned reading.1 { environment with clock := reading.2.1, storage := reading.2.2 }

/-- Looks at the storage. -/
def look {α : Type} (view : Storage → Except Failure α) : Activity α := fun environment =>
  match view environment.storage with
  | .ok value => .returned value environment
  | .error failure => .failed failure environment

/-- Works on the storage.  Also a failing piece of work leaves what it did. -/
def work {α : Type} (step : Storage → Except Failure α × Storage) : Activity α :=
  fun environment =>
    match step environment.storage with
    | (.ok value, after) => .returned value { environment with storage := after }
    | (.error failure, after) => .failed failure { environment with storage := after }

/-- Reports something. -/
def report (report : Report) : Activity Unit := fun environment =>
  .returned () { environment with journal := environment.journal ++ [report] }

/-- An activity can do everything.  Sleeping is no event: a scripted clock moves only when it is
read. -/
instance : Worker Activity where
  now := now
  pause _ := pure ()
  exhausted := fun _ => .pending
  look := look
  fail := fail
  attempt := attempt
  report := report
  work := work

theorem run_pure {α : Type} (value : α) (environment : Environment) :
    (pure value : Activity α).run environment = .returned value environment := rfl

theorem run_bind {α β : Type} (activity : Activity α) (next : α → Activity β)
    (environment : Environment) :
    (activity >>= next).run environment =
      match activity.run environment with
      | .returned value after => (next value).run after
      | .failed failure after => .failed failure after
      | .pending => .pending := rfl

end Activity

end Heartbeat
