/-!
# Faults

A fault is a breach of the rules of memory or of machine arithmetic by the caller, such as an access
past the end of a region.  It stops the operation and is kept apart from the refusals, by which an
operation reports on the state of the world.
-/

set_option autoImplicit false

namespace Heartbeat

/-- The number of values of a machine word that holds sizes and offsets. -/
def addressSpace : Nat := 18446744073709551616

/-- A breach of the rules by the caller. -/
inductive Fault where
  /-- An access of some bytes that ends past the region. -/
  | outOfBounds (length offset capacity : Nat)
  /-- An access at an address that is not a multiple of the word's width. -/
  | unaligned (offset align : Nat)
  /-- A sum that no machine word can hold. -/
  | sumTooLarge
  /-- A remainder by zero. -/
  | zeroDivisor
  /-- An access of memory that is mapped no longer, or never was. -/
  | unmapped
  deriving DecidableEq, Repr

namespace Fault

/-- The report on a fault. -/
def message : Fault → String
  | outOfBounds length offset capacity =>
    s!"access of {length} bytes at offset {offset} exceeds capacity {capacity}"
  | unaligned offset align => s!"offset {offset} is not {align}-byte aligned"
  | sumTooLarge => "attempt to add with overflow"
  | zeroDivisor => "attempt to calculate the remainder with a divisor of zero"
  | unmapped => "access of memory that is not mapped"

end Fault

/-- The sum of two sizes, if a machine word can hold it. -/
def checkedSum (left right : Nat) : Except Fault Nat :=
  if left + right < addressSpace then .ok (left + right) else .error .sumTooLarge

end Heartbeat
