import Heartbeat.Discovery
import Heartbeat.Payload
import Heartbeat.Program
import Heartbeat.Release

/-!
# The watcher program

A watcher attaches to the region of an owner and looks at every interval whether the owner is still
alive.  It runs as long as there is a live owner, so it always ends with a complaint.
-/

set_option autoImplicit false

namespace Heartbeat.Watcher

variable {m : Type → Type} [Observer m]

/-- Reports the age of the last heartbeat. -/
def reportAge (handle : Handle) : m Unit := do
  let now ← Waiting.now
  let timestamp ← Observer.look handle.timestamp
  Observer.report (.event .info "owner alive"
    [("age_ms", .number (heartbeatAge now timestamp).toInt)])

/-- Looks at an owner at every interval until it is no longer alive. -/
def follow (handle : Handle) (handshake : Handshake) (interval rounds : Nat) :
    (looks : Nat) → m Unit
  | 0 => Waiting.exhausted
  | looks + 1 => do
    if ← handle.isActive handshake rounds then
      reportAge handle
      Waiting.pause interval
      follow handle handshake interval rounds looks
    else
      Observer.report (.event .warn "owner heartbeat is too old"
        [("timeout_ms", .number handshake.timeout.toInt)])

/-- Reports to which owner a watcher attached. -/
def reportOwner (handle : Handle) : m Unit := do
  let version ← Observer.look handle.version
  let process ← Observer.look handle.ownerProcess
  Observer.report (.event .info "attached"
    (("version", .text (SemanticVersion.unpack version).text) ::
      (process.toList.map fun process => ("owner", .number process.toInt))))

/-- Attaches to an owner and stays until the owner is gone. -/
def run (path : Option String) (rounds : Nat) : Program m Unit := do
  let configuration ← Program.configuration path
  let (_, handshake) ← Program.ofExcept id configuration.terms
  let handle ← Program.stepOf "no live owner to watch"
    (handshake.openExisting configuration.directory configuration.filename rounds)
  Program.step (reportOwner handle)
  Program.step (follow handle handshake configuration.heartbeatInterval rounds rounds)
  let _ ← Program.step handle.close
  throw ⟨s!"owner of {configuration.place} is no longer active", []⟩

end Heartbeat.Watcher
