import Heartbeat.Storage.Path
import Heartbeat.Takeover

/-!
# Scratch regions

A region of its own in a fresh temporary directory, for measurements and trials.  The directory goes
away with the region.
-/

set_option autoImplicit false

namespace Heartbeat

/-- An owned region in a temporary directory. -/
structure Scratch where
  /-- The temporary directory. -/
  root : String
  /-- The settings under which the region was created. -/
  handshake : Handshake
  /-- The region. -/
  handle : Handle

namespace Scratch

/-- The directory into which temporary directories go. -/
def temporaryDirectory : String := "/tmp"

/-- The name of the file of a scratch region. -/
def filename : String := "cnc.dat"

/-- The length of the file of a scratch region. -/
def fileLength : Nat := 4096

/-- The settings of a scratch region, unless others are asked for. -/
def usualSettings : Handshake where
  layout := ⟨0, 8, by decide⟩

/-- The directory that holds the file of a scratch region in a temporary directory. -/
def directoryIn (root : String) : String := Path.join root "cnc"

/-- The path of the file of a scratch region. -/
def path (scratch : Scratch) : String := Path.join (directoryIn scratch.root) filename

/-- A path for a temporary directory at which nothing is yet.  Numbers are tried in turn. -/
def freshRoot (storage : Storage) (label : String) : (attempts number : Nat) → String
  | 0, number => Path.join temporaryDirectory s!"scratch_{label}_{number}"
  | attempts + 1, number =>
    let candidate := Path.join temporaryDirectory s!"scratch_{label}_{number}"
    if storage.pathExists candidate then freshRoot storage label attempts (number + 1)
    else candidate

variable {m : Type → Type} [Worker m]

/-- Makes a temporary directory with a region in it. -/
def create (label : String) (handshake : Handshake) (rounds : Nat) : m Scratch := do
  let root ← Observer.look fun storage =>
    .ok (freshRoot storage label (storage.tree.entries.length + 1) 0)
  Worker.work fun storage =>
    let made := storage.makeDirectories root
    (Handshake.filesResult "create temporary directory" root made.1, made.2)
  let handle ← handshake.createInDirectory (directoryIn root) filename fileLength false rounds
  return ⟨root, handshake, handle⟩

/-- Closes the region and takes its temporary directory away. -/
def discard (scratch : Scratch) : m Unit := do
  let _ ← scratch.handle.close
  Heartbeat.deleteDirectory scratch.root true

end Scratch

end Heartbeat
