import Heartbeat.Liveness
import Heartbeat.Storage.Mapping

/-!
# Attaching to an owner's region

A watcher waits for a file with room for the control fields, maps it, waits for a version, asks the
version check, and waits for a heartbeat.  The three waits share one deadline, and what is missing
when it passes says how far the owner had come.  A file that is still too short is being sized by
its owner and is waited for; the age of the heartbeat plays no part.
-/

set_option autoImplicit false

namespace Heartbeat.Handshake

variable {m : Type → Type} [Observer m]

/-- Fails with a refusal about a path if a file operation failed. -/
def filesResult {α : Type} (task path : String) : Except FileError α → Except Failure α
  | .ok value => .ok value
  | .error cause => .error (.refused (.files task path cause))

theorem filesResult_eq_ok_iff {α : Type} {task path : String} {result : Except FileError α}
    {value : α} : filesResult task path result = .ok value ↔ result = .ok value := by
  cases result <;> simp [filesResult]

theorem filesResult_eq_error {α : Type} {task path : String} {result : Except FileError α}
    {failure : Failure} (failed : filesResult task path result = .error failure) :
    ∃ cause, failure = .refused (.files task path cause) := by
  cases result with
  | ok _ => cases failed
  | error cause => exact ⟨cause, (Except.error.inj failed).symm⟩

/-- Waits until a path leads to something of at least some length. -/
def awaitFile (path : String) (required : Nat) (deadline : Milliseconds) (rounds : Nat) :
    m Unit := do
  let probe : m (Option Nat) := do
    let size ← Observer.look fun storage => .ok (storage.sizeOf? path)
    pure (size.filter fun size => required ≤ size)
  match ← pollUntilDeadline deadline filePollInterval probe rounds with
  | some _ => pure ()
  | none => Observer.fail (.refused (.fileNotFound path))

/-- Waits for a file with room for the control fields and maps it. -/
def mapWhenPresent (handshake : Handshake) (path : String) (deadline : Milliseconds)
    (rounds : Nat) : m Region := do
  let required ← Observer.look fun _ => Failure.ofFault handshake.layout.requiredLength
  awaitFile path required deadline rounds
  handshake.log s!"cnc file exists: {path}"
  Observer.look fun storage => filesResult "map cnc file" path (storage.mapWhole path)

/-- Waits for a file in a directory to be created, published and kept alive, and gives a handle on
it. -/
def openExisting (handshake : Handshake) (directory filename : String) (rounds : Nat) :
    m Handle := do
  let path := Path.join directory filename
  let deadline ← deadlineAfter handshake.timeout
  let region ← handshake.mapWhenPresent path deadline rounds
  requireFit handshake.layout region
  let fields : ControlFields := ⟨region, handshake.layout⟩
  let version ← fields.awaitVersion deadline rounds
  handshake.consult version
  let timestamp ← fields.awaitHeartbeat deadline rounds
  Observer.report (.event .debug "attached to cnc file"
    [("path", .text path), ("version", .number version.toInt),
      ("timestamp", .number timestamp.toInt)])
  Observer.look fun _ =>
    Handle.ofView ⟨region, .owned⟩ handshake.layout (some directory) (some path)

end Heartbeat.Handshake
