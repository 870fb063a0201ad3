import Heartbeat.Bytes.LittleEndian

/-!
# Words as they lie in memory

A stored word is a value with a fixed width in bytes and a byte form that reads back.  The two
control fields of a region are stored words: a version is a 32-bit and a heartbeat a 64-bit signed
integer, both in two's complement and little-endian.
-/

set_option autoImplicit false

namespace Heartbeat

/-- A type of fixed-width values with a byte form that reads back. -/
class StoredWord (α : Type) where
  /-- The number of bytes that a value takes, and the alignment that it needs. -/
  width : Nat
  /-- The bytes of a value, in the order of their addresses. -/
  toBytes : α → List UInt8
  /-- The value that bytes stand for. -/
  ofBytes : List UInt8 → α
  /-- Every value takes exactly `width` bytes. -/
  length_toBytes : ∀ value : α, (toBytes value).length = width
  /-- Reading what was written gives the value back. -/
  ofBytes_toBytes : ∀ value : α, ofBytes (toBytes value) = value

instance : StoredWord Int32 where
  width := 4
  toBytes value := LittleEndian.encode 4 value.toUInt32.toNat
  ofBytes bytes := (UInt32.ofNat (LittleEndian.decode bytes)).toInt32
  length_toBytes _ := LittleEndian.length_encode _ _
  ofBytes_toBytes value := by
    rw [LittleEndian.decode_encode_of_lt value.toUInt32.toNat_lt, UInt32.ofNat_toNat,
      Int32.toInt32_toUInt32]

instance : StoredWord Int64 where
  width := 8
  toBytes value := LittleEndian.encode 8 value.toUInt64.toNat
  ofBytes bytes := (UInt64.ofNat (LittleEndian.decode bytes)).toInt64
  length_toBytes _ := LittleEndian.length_encode _ _
  ofBytes_toBytes value := by
    rw [LittleEndian.decode_encode_of_lt value.toUInt64.toNat_lt, UInt64.ofNat_toNat,
      Int64.toInt64_toUInt64]

end Heartbeat
