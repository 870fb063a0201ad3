import Heartbeat.Handle
import Heartbeat.Handshake

/-!
# Whether an owner is alive

An owner is alive when it has published a version that the check accepts and its last heartbeat is
no older than the timeout.  While the version or the first heartbeat is still zero the decision
waits, and both waits share one deadline.  A rejected version is reported as such, whatever the age
of the heartbeat.  A heartbeat from the future counts as fresh unless the timeout is negative, so
with any other timeout a difference between two clocks never makes a live owner a dead one.
-/

set_option autoImplicit false

namespace Heartbeat

/-- Whether a heartbeat of some age keeps its owner alive. -/
def isFresh (age timeout : Milliseconds) : Bool := age ≤ timeout

/-- Whether a heartbeat of some age keeps others from adopting the region.  An age that equals the
timeout does not. -/
def blocksAdoption (age timeout : Milliseconds) : Bool := age < timeout

variable {m : Type → Type} [Observer m]

namespace ControlFields

/-- Waits until the version is not zero. -/
def awaitVersion (fields : ControlFields) (deadline : Milliseconds) (rounds : Nat) : m Int32 := do
  let probe : m (Option Int32) := do
    let version ← Observer.look fun storage => Failure.ofFault (fields.version storage)
    pure (if version = 0 then none else some version)
  match ← pollUntilDeadline deadline fieldPollInterval probe rounds with
  | some version => pure version
  | none => Observer.fail (.refused .notInitialized)

/-- Waits until the timestamp is not zero. -/
def awaitHeartbeat (fields : ControlFields) (deadline : Milliseconds) (rounds : Nat) :
    m Milliseconds := do
  let probe : m (Option Milliseconds) := do
    let timestamp ← Observer.look fun storage => Failure.ofFault (fields.timestamp storage)
    pure (if timestamp = 0 then none else some timestamp)
  match ← pollUntilDeadline deadline fieldPollInterval probe rounds with
  | some timestamp => pure timestamp
  | none => Observer.fail (.refused .noHeartbeat)

end ControlFields

namespace Handshake

/-- Fails if a region cannot carry a layout. -/
def requireFit (layout : Layout) (region : Region) : m Unit :=
  Observer.look fun _ => layout.check region

/-- Waits at most a span of time until a region has a version. -/
def awaitInitialized (handshake : Handshake) (region : Region) (timeout : Milliseconds)
    (rounds : Nat) : m Int32 := do
  requireFit handshake.layout region
  ControlFields.awaitVersion ⟨region, handshake.layout⟩ (← deadlineAfter timeout) rounds

/-- Waits at most a span of time until a region has a heartbeat. -/
def awaitHeartbeat (handshake : Handshake) (region : Region) (timeout : Milliseconds)
    (rounds : Nat) : m Milliseconds := do
  requireFit handshake.layout region
  ControlFields.awaitHeartbeat ⟨region, handshake.layout⟩ (← deadlineAfter timeout) rounds

/-- Decides on given control fields whether their owner is alive. -/
def isActiveOn (handshake : Handshake) (fields : ControlFields) (rounds : Nat) : m Bool := do
  let deadline ← deadlineAfter handshake.timeout
  let version ← fields.awaitVersion deadline rounds
  let timestamp ← fields.awaitHeartbeat deadline rounds
  handshake.consult version
  let age := heartbeatAge (← Waiting.now) timestamp
  handshake.log s!"heartbeat age is {age.toInt} ms"
  Observer.report (.event .debug "evaluated cnc liveness"
    [("version", .number version.toInt), ("age_ms", .number age.toInt),
      ("timeout_ms", .number handshake.timeout.toInt)])
  pure (isFresh age handshake.timeout)

/-- Decides whether the owner of a region is alive.  No region has no live owner. -/
def isActive (handshake : Handshake) (region : Option Region) (rounds : Nat) : m Bool :=
  match region with
  | none => pure false
  | some region => do
    requireFit handshake.layout region
    handshake.isActiveOn ⟨region, handshake.layout⟩ rounds

end Handshake

namespace Handle

/-- Decides whether the owner of a handle's region is alive, with the layout of the handle.  A
closed handle has no live owner. -/
def isActive (handle : Handle) (handshake : Handshake) (rounds : Nat) : m Bool :=
  match handle.view with
  | none => pure false
  | some view => handshake.isActiveOn ⟨view.region, handle.layout⟩ rounds

end Handle

end Heartbeat
