import Heartbeat.Fault
import Heartbeat.Storage.Error
import Heartbeat.Version

/-!
# Refusals

Every report by which an operation of the handshake declines: what it means, in which class it
falls, and its wording.  A refusal belongs to at most one class.  The classes tell a caller what to
do: correct the configuration, wait and try again, leave a live owner alone, or update one of the
two programs.
-/

set_option autoImplicit false

namespace Heartbeat

/-- A reason to decline. -/
inductive Refusal where
  /-- The version field does not end before the timestamp field starts. -/
  | invalidOffsets (versionOffset timestampOffset : Nat)
  /-- A control field does not lie at a multiple of its size. -/
  | misaligned (field : String) (offset align : Nat)
  /-- The region ends before the control fields do. -/
  | regionTooSmall (length required : Nat)
  /-- No file with room for the control fields appeared in time. -/
  | fileNotFound (path : String)
  /-- No version was published in time. -/
  | notInitialized
  /-- No heartbeat was written in time. -/
  | noHeartbeat
  /-- The region has a live owner. -/
  | activeOwner (path : String)
  /-- The owner speaks another major version. -/
  | incompatibleVersion (expected actual : SemanticVersion)
  /-- A version check of the caller's refused the version. -/
  | versionRejected (version : Int32) (reason : String)
  /-- Something on the way to the file failed. -/
  | files (task path : String) (cause : FileError)
  /-- The handle was closed. -/
  | closed
  deriving DecidableEq, Repr

/-- What a refusal asks of the caller. -/
inductive RefusalClass where
  /-- The layout is invalid or the region cannot hold it. -/
  | configuration
  /-- A wait ran out of time. -/
  | timeout
  /-- A live owner holds the region. -/
  | conflict
  /-- The version was refused. -/
  | validation
  deriving DecidableEq, Repr

namespace Refusal

/-- The class of a refusal, if it has one. -/
def class? : Refusal → Option RefusalClass
  | invalidOffsets _ _ | misaligned _ _ _ | regionTooSmall _ _ => some .configuration
  | fileNotFound _ | notInitialized | noHeartbeat => some .timeout
  | activeOwner _ => some .conflict
  | incompatibleVersion _ _ | versionRejected _ _ => some .validation
  | files _ _ _ | closed => none

/-- The wording of a refusal. -/
def message : Refusal → String
  | invalidOffsets versionOffset timestampOffset =>
    s!"version field at offset {versionOffset} must precede the timestamp field at offset " ++
      s!"{timestampOffset}"
  | misaligned field offset align =>
    s!"{field} field at offset {offset} is not {align}-byte aligned"
  | regionTooSmall length required =>
    s!"region of {length} bytes cannot hold control fields ending at byte {required}"
  | fileNotFound path => s!"cnc file not found: '{path}'"
  | notInitialized => "cnc file is created but not initialised"
  | noHeartbeat => "no non-zero heartbeat timestamp detected"
  | activeOwner path => s!"active cnc file detected: '{path}'"
  | incompatibleVersion expected actual =>
    s!"incompatible cnc version {actual.text}, expected {expected.text}"
  | versionRejected version reason => s!"cnc version {version.toInt} rejected: {reason}"
  | files task path _ => s!"failed to {task} '{path}'"
  | closed => "cnc file is closed"

/-- The wording of what a refusal arose from, if that is a failure of its own. -/
def causes : Refusal → List String
  | files _ _ cause => [cause.message]
  | _ => []

end Refusal

/-- Why an operation gave no result: it declined, or its caller broke a rule. -/
inductive Failure where
  /-- The operation declined. -/
  | refused (refusal : Refusal)
  /-- The caller broke a rule of memory or arithmetic. -/
  | fault (fault : Fault)
  deriving DecidableEq, Repr

namespace Failure

/-- A result that can only fault, as one that can fail. -/
def ofFault {α : Type} : Except Fault α → Except Failure α
  | .ok value => .ok value
  | .error cause => .error (.fault cause)

/-- A result that can only be declined, as one that can fail. -/
def ofRefusal {α : Type} : Except Refusal α → Except Failure α
  | .ok value => .ok value
  | .error cause => .error (.refused cause)

end Failure

end Heartbeat
