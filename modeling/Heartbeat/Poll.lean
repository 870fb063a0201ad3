import Heartbeat.Observer

/-!
# Bounded waiting

To poll is to probe, and if the probe gives nothing, to read the clock: past the deadline the wait
is over without a value, and otherwise there is a pause and another round.  So a value that is there
is found whatever the deadline, the clock is read once after every empty probe, and how long the
pauses take in truth does not matter.

The rounds are counted, since a clock that stands still would let a wait go on forever.  A wait that
ends within some number of rounds ends in the same way within any greater number.
-/

set_option autoImplicit false

namespace Heartbeat

variable {m : Type → Type} [Waiting m]

/-- Probes until there is a value or the clock is past an absolute deadline.  Waits that share a
deadline share one budget of time. -/
def pollUntilDeadline {α : Type} (deadline : Milliseconds) (interval : Nat)
    (probe : m (Option α)) : (rounds : Nat) → m (Option α)
  | 0 => Waiting.exhausted
  | rounds + 1 => do
    match ← probe with
    | some value => pure (some value)
    | none =>
      if deadline < (← Waiting.now) then pure none
      else do
        Waiting.pause interval
        pollUntilDeadline deadline interval probe rounds

/-- The deadline that lies a span of time from now. -/
def deadlineAfter (timeout : Milliseconds) : m Milliseconds := do
  return (← Waiting.now).saturatingAdd timeout

/-- Probes until there is a value or a span of time from now has passed. -/
def pollUntil {α : Type} (timeout : Milliseconds) (interval : Nat) (probe : m (Option α))
    (rounds : Nat) : m (Option α) := do
  pollUntilDeadline (← deadlineAfter timeout) interval probe rounds

/-- Computations that carry a state of their own can wait if those below can. -/
instance {σ : Type} : Waiting (StateT σ m) where
  now := StateT.lift Waiting.now
  pause milliseconds := StateT.lift (Waiting.pause milliseconds)
  exhausted := StateT.lift Waiting.exhausted

end Heartbeat
