import Heartbeat.Handle
import Heartbeat.Observer
import Heartbeat.Storage.Files

/-!
# Letting go of a region

Closing a handle and deleting the directory of its file are separate steps.  Closing leaves every
byte and every other view of the region as it is, and deleting works on a closed handle too.
-/

set_option autoImplicit false

namespace Heartbeat

/-- Deletes a directory and everything in it.  A missing directory is no failure, and any failure
can be ignored. -/
def deleteDirectory {m : Type → Type} [Worker m] (directory : String) (ignoresFailures : Bool) :
    m Unit := do
  match ← Worker.work fun storage =>
      let removal := storage.removeTree directory
      (.ok removal.1, removal.2) with
  | .ok () => pure ()
  | .error .notFound => pure ()
  | .error cause =>
    if ignoresFailures then
      Observer.report (.event .debug "ignoring failed delete"
        [("directory", .text directory), ("error", .text cause.message)])
    else Observer.refuse (.files "delete cnc directory" directory cause)

namespace Handle

/-- Closes a handle.  The first time it is marked and its view taken away.  The bytes stay as they
are; a mapping of the handle's own is unmapped. -/
def close {m : Type → Type} [Observer m] (handle : Handle) : m Handle := do
  if handle.closed then pure handle
  else
    match handle.view with
    | some ⟨region, .owned⟩ =>
      Observer.report (.event .debug "unmapping cnc file"
        [("len", .number region.capacity), ("file", .text (Text.quotedOption handle.file))])
    | _ => pure ()
    pure handle.shut

/-- Deletes the directory that the handle knows, with everything in it. -/
def deleteDirectory {m : Type → Type} [Worker m] (handle : Handle) (ignoresFailures : Bool) :
    m Unit :=
  match handle.directory with
  | none => pure ()
  | some directory => Heartbeat.deleteDirectory directory ignoresFailures

end Handle

end Heartbeat
