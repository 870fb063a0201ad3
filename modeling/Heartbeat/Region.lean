import Heartbeat.Bytes.StoredWord
import Heartbeat.Fault
import Heartbeat.Storage

/-!
# Access to a region

Words and bytes are loaded from and stored into a region at an offset.  An access has to end within
the region, and a word has to lie at a multiple of its width; the bounds are looked at first, and an
access that fails either test touches nothing.

Whether a store is the one that publishes, and whether a load is the one that observes it, makes no
difference to the bytes, so there is one load and one store per type of word.
-/

set_option autoImplicit false

namespace Heartbeat.Region

/-- Whether the address at an offset is a multiple of a number other than zero. -/
def alignedAt (region : Region) (offset align : Nat) : Bool :=
  (region.address + offset) % addressSpace % align = 0

/-- Whether the address at an offset is a multiple of a number.  Zero has no multiples to ask
for. -/
def isAligned (region : Region) (offset align : Nat) : Except Fault Bool :=
  if align = 0 then .error .zeroDivisor else .ok (region.alignedAt offset align)

/-- Refuses an access that ends past the region or lies at a wrong address. -/
def checkAccess (region : Region) (offset length align : Nat) : Except Fault Unit :=
  if region.capacity < offset + length then
    .error (.outOfBounds length offset region.capacity)
  else if !region.alignedAt offset align then .error (.unaligned offset align)
  else .ok ()

/-- The word at an offset.  Where others have cut the file short under the mapping the bytes are
zeros here, while a process that loads them is ended by its system.  That is outside of what is
modelled. -/
def load {α : Type} [StoredWord α] (region : Region) (storage : Storage) (offset : Nat) :
    Except Fault α :=
  match region.checkAccess offset (StoredWord.width α) (StoredWord.width α) with
  | .error fault => .error fault
  | .ok () =>
    .ok (StoredWord.ofBytes
      ((storage.content region.object).read (region.start + offset) (StoredWord.width α)))

/-- Puts a word at an offset. -/
def store {α : Type} [StoredWord α] (region : Region) (storage : Storage) (offset : Nat)
    (value : α) : Except Fault Storage :=
  match region.checkAccess offset (StoredWord.width α) (StoredWord.width α) with
  | .error fault => .error fault
  | .ok () =>
    .ok (storage.modify region.object
      (·.write (region.start + offset) (StoredWord.toBytes value)))

/-- The bytes from an offset on. -/
def loadBytes (region : Region) (storage : Storage) (offset length : Nat) :
    Except Fault (List UInt8) :=
  match region.checkAccess offset length 1 with
  | .error fault => .error fault
  | .ok () => .ok ((storage.content region.object).read (region.start + offset) length)

/-- Puts bytes at an offset. -/
def storeBytes (region : Region) (storage : Storage) (offset : Nat) (bytes : List UInt8) :
    Except Fault Storage :=
  match region.checkAccess offset bytes.length 1 with
  | .error fault => .error fault
  | .ok () => .ok (storage.modify region.object (·.write (region.start + offset) bytes))

end Heartbeat.Region
