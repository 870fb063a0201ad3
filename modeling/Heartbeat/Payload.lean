import Heartbeat.Handle
import Heartbeat.Observer

/-!
# What an owner tells about itself

After the control fields, at the next multiple of eight, a region has a slot for the number of the
owner's process and the time of its start, each a 64-bit word.  The owner fills the slot if there is
room for both words and otherwise leaves it alone, and a watcher reads the first word if there is
room for it.
-/

set_option autoImplicit false

namespace Heartbeat

/-- The offset of the slot: the first multiple of eight at or after the end of the control
fields. -/
def Layout.payloadOffset (layout : Layout) : Nat :=
  (layout.timestampOffset + timestampSize + 7) / 8 * 8

namespace Handle

/-- Writes the number of the owner's process and the current time into the slot, if there is room
for both. -/
def introduce {m : Type → Type} [Worker m] (handle : Handle) (process : Int64) : m Unit := do
  let region ← Observer.ofExcept handle.region
  let offset := handle.layout.payloadOffset
  if offset + 16 ≤ region.capacity then
    Worker.change fun storage => Failure.ofFault (region.store storage offset process)
    let start ← Waiting.now
    Worker.change fun storage => Failure.ofFault (region.store storage (offset + 8) start)

/-- The number of the owner's process, if there is room for it. -/
def ownerProcess (handle : Handle) (storage : Storage) : Except Failure (Option Int64) :=
  match handle.region with
  | .error failure => .error failure
  | .ok region =>
    let offset := handle.layout.payloadOffset
    if offset + 8 ≤ region.capacity then
      (Failure.ofFault (region.load storage offset)).map some
    else .ok none

end Handle

end Heartbeat
