import Heartbeat.Refusal
import Heartbeat.Region

/-!
# Where the control fields lie

A region carries two control fields and otherwise belongs to its owner: at one offset a 32-bit
version, and after it, at another offset, a 64-bit timestamp.  The version field ends at or before
the timestamp field; every layout keeps that rule, so the two fields never overlap.

A region can carry a layout if it is long enough and both fields lie at multiples of their sizes.
The test is made on a region, or beforehand on the length of a region that will start at a page.
-/

set_option autoImplicit false

namespace Heartbeat

/-- The size of the version field in bytes. -/
def versionSize : Nat := 4

/-- The size of the timestamp field in bytes. -/
def timestampSize : Nat := 8

/-- The offsets of the two control fields. -/
structure Layout where
  /-- The offset of the version field. -/
  versionOffset : Nat
  /-- The offset of the timestamp field. -/
  timestampOffset : Nat
  /-- The version field ends before the timestamp field starts. -/
  ordered : versionOffset + versionSize ≤ timestampOffset
  deriving DecidableEq, Repr

namespace Layout

/-- The layout with given offsets, if the version field ends before the timestamp field starts. -/
def ofOffsets (versionOffset timestampOffset : Nat) : Except Refusal Layout :=
  if ordered : versionOffset + versionSize ≤ timestampOffset then
    .ok ⟨versionOffset, timestampOffset, ordered⟩
  else .error (.invalidOffsets versionOffset timestampOffset)

/-- The offset at which the control fields end, which is the least length of a region. -/
def requiredLength (layout : Layout) : Except Fault Nat :=
  checkedSum layout.timestampOffset timestampSize

/-- The offset and the length of the span from the first to the last byte of the control fields. -/
def controlSpan (layout : Layout) : Except Fault (Nat × Nat) :=
  match layout.requiredLength with
  | .error fault => .error fault
  | .ok required => .ok (layout.versionOffset, required - layout.versionOffset)

/-- The same fields as seen from the start of the control span. -/
def rebased (layout : Layout) : Layout where
  versionOffset := 0
  timestampOffset := layout.timestampOffset - layout.versionOffset
  ordered := by
    have ordered := layout.ordered
    omega

/-- Tests a length and the alignment of both fields. -/
def verify (layout : Layout) (length : Nat) (aligned : (offset align : Nat) → Bool) :
    Except Failure Unit :=
  match layout.requiredLength with
  | .error fault => .error (.fault fault)
  | .ok required =>
    if length < required then .error (.refused (.regionTooSmall length required))
    else if !aligned layout.versionOffset versionSize then
      .error (.refused (.misaligned "version" layout.versionOffset versionSize))
    else if !aligned layout.timestampOffset timestampSize then
      .error (.refused (.misaligned "timestamp" layout.timestampOffset timestampSize))
    else .ok ()

/-- Tests whether a region can carry the layout. -/
def check (layout : Layout) (region : Region) : Except Failure Unit :=
  layout.verify region.capacity region.alignedAt

/-- Tests whether a region of a given length that starts at a page could carry the layout. -/
def checkMappedLength (layout : Layout) (length : Nat) : Except Failure Unit :=
  layout.verify length fun offset align => offset % align = 0

end Layout

end Heartbeat
