import Heartbeat.Discovery
import Heartbeat.Release

/-!
# Taking a region over

Two ways to become the owner of a region.  One creates a fresh file in a fresh directory: whatever
was in the directory goes, but not before the file there, if it has control fields, was found to
have no live owner.  The other adopts a file as it is, or makes it: if it is meant to exist already,
its fields are read once, without waiting, and a young heartbeat refuses the adoption.

The length and the alignment are tested before anything on the disk is touched.
-/

set_option autoImplicit false

namespace Heartbeat

variable {m : Type → Type} [Worker m]

namespace Handshake

/-- Maps the control fields of an existing file, and only them.  There is nothing to map if there
is no file, or none that can be mapped. -/
def mapControlFields (handshake : Handshake) (path : String) : m (Option Region) := do
  if ← Observer.look fun storage => .ok (storage.pathExists path) then
    handshake.log s!"cnc file exists: {path}"
    let (offset, length) ← Observer.ofExcept (Failure.ofFault handshake.layout.controlSpan)
    match ← Observer.look fun storage =>
        Failure.ofFault (storage.mapSpan path offset length) with
    | .ok region => pure (some region)
    | .error cause =>
      Observer.report (.event .debug "cannot map cnc control fields"
        [("path", .text path), ("error", .text cause.message)])
      pure none
  else pure none

/-- Fails if the file in a directory that is to be deleted has a live owner, or if that cannot be
decided. -/
def protectLiveOwner (handshake : Handshake) (directory filename : String) (rounds : Nat) :
    m Unit := do
  let path := Path.join directory filename
  match ← handshake.mapControlFields path with
  | none => pure ()
  | some region =>
    let layout := handshake.layout.rebased
    requireFit layout region
    if ← handshake.isActiveOn ⟨region, layout⟩ rounds then
      Observer.refuse (.activeOwner path)

/-- Makes a directory and every missing one on the way to it. -/
def makeDirectory (directory : String) : m Unit :=
  Worker.work fun storage =>
    let made := storage.makeDirectories directory
    (filesResult "create cnc directory" directory made.1, made.2)

/-- Makes an empty directory.  A directory that is there is deleted with everything in it, after
its file was found to have no live owner, unless that test is waived. -/
def prepareDirectory (handshake : Handshake) (directory filename : String) (force : Bool)
    (rounds : Nat) : m Unit := do
  if ← Observer.look fun storage => .ok (storage.isDirectory directory) then
    if handshake.warnsOfDirectory then
      Observer.report (.event .warn "cnc directory already exists"
        [("directory", .text directory)])
      handshake.log s!"WARNING: {directory} already exists"
    if !force then
      handshake.protectLiveOwner directory filename rounds
    deleteDirectory directory false
  makeDirectory directory

/-- Creates a file of zero bytes in a directory and maps it.  The file is there, and empty, before
it has its length, and its version is zero until the owner publishes one. -/
def createFile (handshake : Handshake) (directory filename : String) (length : Nat) :
    m Handle := do
  let path := Path.join directory filename
  let object ← Worker.work fun storage =>
    if length = 0 then (filesResult "create cnc file" path (.error .emptyMapping), storage)
    else
      let opened := storage.openEmptied path
      (filesResult "create cnc file" path opened.1, opened.2)
  let region ← Worker.work fun storage =>
    let mapped := storage.mapResized object length
    (filesResult "create cnc file" path mapped.1, mapped.2)
  Observer.report (.event .debug "mapped new cnc file"
    [("path", .text path), ("len", .number length)])
  Observer.ofExcept
    (Handle.ofView ⟨region, .owned⟩ handshake.layout (some directory) (some path))

/-- Creates a file of zero bytes in a fresh directory and maps it. -/
def createInDirectory (handshake : Handshake) (directory filename : String) (length : Nat)
    (force : Bool) (rounds : Nat) : m Handle := do
  Observer.ofExcept (handshake.layout.checkMappedLength length)
  handshake.prepareDirectory directory filename force rounds
  handshake.createFile directory filename length

/-- Fails if the version check refuses a version that was published, or if the heartbeat is too
young for an adoption.  Both fields are read once. -/
def requireStale (handshake : Handshake) (path : String) (fields : ControlFields) :
    m Unit := do
  handshake.log s!"cnc file exists: {path}"
  let version ← Observer.look fun storage => Failure.ofFault (fields.version storage)
  if version ≠ 0 then
    handshake.consult version
  let timestamp ← Observer.look fun storage => Failure.ofFault (fields.timestamp storage)
  let age := heartbeatAge (← Waiting.now) timestamp
  handshake.log s!"heartbeat age is {age.toInt} ms"
  if timestamp ≠ 0 && blocksAdoption age handshake.timeout then
    Observer.refuse (.activeOwner path)
  Observer.report (.event .debug "adopting stale cnc file"
    [("path", .text path), ("version", .number version.toInt),
      ("age_ms", .number age.toInt)])

/-- The directory that a handle on a path knows: the parent, unless that is empty. -/
def holdingDirectory (path : String) : Option String :=
  (Path.parent? path).filter fun parent => parent ≠ ""

/-- Opens or makes a file and maps its first bytes, keeping what it holds.  If it is meant to exist
already, it is refused while its heartbeat is young. -/
def createOrAdopt (handshake : Handshake) (path : String) (length : Nat)
    (shouldPreExist : Bool) : m Handle := do
  Observer.ofExcept (handshake.layout.checkMappedLength length)
  let region ← Worker.work fun storage =>
    let mapped := storage.mapKeeping path length
    (filesResult "map cnc file" path mapped.1, mapped.2)
  requireFit handshake.layout region
  if shouldPreExist then
    handshake.requireStale path ⟨region, handshake.layout⟩
  Observer.ofExcept
    (Handle.ofView ⟨region, .owned⟩ handshake.layout (holdingDirectory path) (some path))

end Handshake

end Heartbeat
