import Heartbeat.Storage.Change
import Heartbeat.Timestamp

/-!
# Clocks

A clock is read, and what happens in the world while a process waits is told as a script of the
clock: before its `n`-th reading some acts of others take place, which may change files and
memories or set the clock itself.  After each reading the clock moves on by its tick.  A process
that waits looks at the world only between two readings, so such scripts describe everything that
can happen around a wait.

One thing that can happen is not described.  A process that looks at a mapping whose file was cut
short is ended by its system, and here it goes on with zeros.  What it has done until then is the
same.
-/

set_option autoImplicit false

namespace Heartbeat

/-- Something that others do just before a clock is read. -/
inductive Act where
  /-- Sets the clock. -/
  | setTime (time : Milliseconds)
  /-- Stores a 32-bit word in a named memory. -/
  | pokeInt32 (memory : String) (offset : Nat) (value : Int32)
  /-- Stores a 64-bit word in a named memory. -/
  | pokeInt64 (memory : String) (offset : Nat) (value : Int64)
  /-- Changes files or directories. -/
  | files (change : FileChange)
  deriving DecidableEq, Repr

namespace Act

/-- What an act leaves.  A failing act leaves what it did until it failed. -/
def perform (act : Act) (world : Milliseconds × Storage) : Milliseconds × Storage :=
  match act with
  | setTime time => (time, world.2)
  | pokeInt32 memory offset value => (world.1, world.2.poke memory offset value)
  | pokeInt64 memory offset value => (world.1, world.2.poke memory offset value)
  | files change => (world.1, (change.perform world.2).2)

/-- What acts leave that take place one after the other. -/
def performAll (acts : List Act) (world : Milliseconds × Storage) : Milliseconds × Storage :=
  acts.foldl (fun world act => act.perform world) world

end Act

/-- A clock with a script. -/
structure Clock where
  /-- The time that the next reading shows, unless an act sets it first. -/
  time : Milliseconds
  /-- How far each reading moves the clock, wrapping around. -/
  tick : Milliseconds
  /-- How often the clock was read. -/
  reads : Nat
  /-- What happens just before each reading, which are counted from one. -/
  script : Nat → List Act

namespace Clock

/-- A clock that nobody acts upon. -/
def ticking (time tick : Milliseconds) : Clock := ⟨time, tick, 0, fun _ => []⟩

/-- Sets a clock without reading it. -/
def update (clock : Clock) (time : Milliseconds) : Clock := { clock with time }

/-- Moves a clock without reading it, wrapping around. -/
def advance (clock : Clock) (span : Milliseconds) : Clock :=
  { clock with time := clock.time + span }

/-- Reads a clock: the time that it shows, the clock afterwards, and the storage that the acts
before this reading left. -/
def read (clock : Clock) (storage : Storage) : Milliseconds × Clock × Storage :=
  let number := clock.reads + 1
  let shown := Act.performAll (clock.script number) (clock.time, storage)
  (shown.1, { clock with time := shown.1 + clock.tick, reads := number }, shown.2)

end Clock

end Heartbeat
