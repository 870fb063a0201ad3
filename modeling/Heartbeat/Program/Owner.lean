import Heartbeat.Payload
import Heartbeat.Program
import Heartbeat.Takeover

/-!
# The owner program

An owner creates the region, introduces itself in the payload, writes a first heartbeat and only
then publishes its version, so whoever sees a version finds everything else in place.  From then on
it writes a heartbeat at every interval until it is told to stop, and takes its directory away at
the end.
-/

set_option autoImplicit false

namespace Heartbeat

/-- A running owner. -/
structure Owner where
  /-- The configuration that it was started with. -/
  configuration : Configuration
  /-- The region that it owns. -/
  handle : Handle
  deriving DecidableEq, Repr

namespace Owner

variable {m : Type → Type} [Worker m]

/-- Writes one heartbeat with the current time. -/
def beat (handle : Handle) : m Unit := do
  let time ← Waiting.now
  Worker.change fun storage => handle.beat storage time

/-- Fills a fresh region and publishes it. -/
def announce (handle : Handle) (process : Int64) (version : Int32) : m Unit := do
  handle.introduce process
  beat handle
  Worker.change fun storage => handle.signalReady storage version

/-- Starts an owner, up to the publication of its version. -/
def start (path : Option String) (process : Int64) (rounds : Nat) : Program m Owner := do
  let configuration ← Program.configuration path
  let (version, handshake) ← Program.ofExcept id configuration.terms
  let handle ← Program.stepOf "failed to create cnc file"
    (handshake.createInDirectory configuration.directory configuration.filename
      configuration.fileLength configuration.replacesDirectory rounds)
  Program.step (announce handle process version.pack)
  Program.step (Observer.report (.event .info "publishing"
    [("version", .text version.text), ("file", .text configuration.place)]))
  return ⟨configuration, handle⟩

/-- Writes some heartbeats, one at every interval. -/
def keepBeating (owner : Owner) : (beats : Nat) → Program m Unit
  | 0 => pure ()
  | beats + 1 => do
    Program.step (beat owner.handle)
    Program.step (Waiting.pause owner.configuration.heartbeatInterval)
    keepBeating owner beats

/-- Stops an owner: the region is closed and the directory deleted as far as possible. -/
def stop (owner : Owner) : Program m Unit := Program.step do
  let closed ← owner.handle.close
  closed.deleteDirectory true
  Observer.report (.event .info "stopped" [("file", .text owner.configuration.place)])

end Owner

end Heartbeat
