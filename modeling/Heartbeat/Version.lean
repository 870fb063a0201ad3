/-!
# Protocol versions

A protocol version has a major, a minor and a patch number of one byte each.  It travels in the
32-bit version field of a region as `major · 2¹⁶ + minor · 2⁸ + patch`, so the order of versions is
the order of their packed values.  Unpacking is total: it reads the three low bytes and ignores the
fourth.
-/

set_option autoImplicit false

namespace Heartbeat

/-- A protocol version. -/
structure SemanticVersion where
  /-- The number that two processes have to share. -/
  major : UInt8
  /-- The number of a compatible extension. -/
  minor : UInt8
  /-- The number of a correction. -/
  patch : UInt8
  deriving DecidableEq, Repr

namespace SemanticVersion

/-- The value of a version in the version field. -/
def pack (version : SemanticVersion) : Int32 :=
  Int32.ofNat (version.major.toNat * 65536 + version.minor.toNat * 256 + version.patch.toNat)

/-- The version whose numbers are the three low bytes of a field value. -/
def unpack (field : Int32) : SemanticVersion :=
  let bits := field.toUInt32.toNat
  ⟨UInt8.ofNat (bits / 65536), UInt8.ofNat (bits / 256), UInt8.ofNat bits⟩

/-- The dotted form of a version. -/
def text (version : SemanticVersion) : String :=
  s!"{version.major.toNat}.{version.minor.toNat}.{version.patch.toNat}"

instance : ToString SemanticVersion := ⟨text⟩

/-- Versions are compared by their major, then their minor, then their patch number. -/
instance : Ord SemanticVersion where
  compare left right :=
    (compare left.major right.major).then
      ((compare left.minor right.minor).then (compare left.patch right.patch))

/-- Unpacking a packed version gives it back. -/
theorem unpack_pack (version : SemanticVersion) : unpack (pack version) = version := by
  obtain ⟨major, minor, patch⟩ := version
  have hmajor := major.toNat_lt
  have hminor := minor.toNat_lt
  have hpatch := patch.toNat_lt
  have bits : (Int32.ofNat (major.toNat * 65536 + minor.toNat * 256 + patch.toNat)).toUInt32.toNat =
      major.toNat * 65536 + minor.toNat * 256 + patch.toNat := by
    rw [Int32.toUInt32_ofNat', UInt32.toNat_ofNat']
    omega
  simp only [unpack, pack, bits, mk.injEq, ← UInt8.toNat_inj, UInt8.toNat_ofNat']
  omega

end SemanticVersion

end Heartbeat
