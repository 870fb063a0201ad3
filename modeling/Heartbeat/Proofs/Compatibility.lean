import Heartbeat.VersionCheck

/-!
# Which field values pass for a compatible version

A version fills three of the four bytes of a version field.  Unpacking is total and looks at no more
than these three: each of its numbers is the low byte that an arithmetic shift of the field value
leaves, and the copies of the sign stay above it (`SemanticVersion.unpack_eq_shifts`).  So packing
again what was unpacked clears the fourth byte and changes nothing else
(`SemanticVersion.pack_unpack`).  The packed versions are the field values from 0 up to `2²⁴`
(`SemanticVersion.pack_eq_iff`).  Every other field value, and so every negative one, is read as the
version that its three low bytes spell (`SemanticVersion.pack_eq_low_iff`).

The check of the major number sees a field value through this reading.  Among the packed versions it
accepts the compatible ones and no others, and any other field value is judged as if its fourth byte
were clear (`VersionCheck.sameMajor_judges_low_bytes`).  In this way a value that no version is
packed to can pass for a compatible one (`VersionCheck.sameMajor_accepts_garbage`).
-/

set_option autoImplicit false

namespace Heartbeat

/-! ## Bits of field values -/

/-- The copies of the sign that an arithmetic shift brings in stay above the byte that it brings
down. -/
theorem setWidth_sshiftRight (bits : BitVec 32) {places : Nat} (inside : places + 8 ≤ 32) :
    (bits.sshiftRight places).setWidth 8 = bits.extractLsb' places 8 := by
  ext place below
  have within : ¬ 32 ≤ place := by omega
  have shifted : places + place < 32 := by omega
  simp only [BitVec.getElem_setWidth, BitVec.getLsbD_sshiftRight, BitVec.getElem_extractLsb',
    within, shifted, decide_false, Bool.not_false, Bool.true_and, if_true]

theorem toNat_sshiftRight_mod (bits : BitVec 32) {places : Nat} (inside : places + 8 ≤ 32) :
    (bits.sshiftRight places).toNat % 256 = bits.toNat >>> places % 256 := by
  have low := congrArg BitVec.toNat (setWidth_sshiftRight bits inside)
  rwa [BitVec.toNat_setWidth, BitVec.extractLsb'_toNat] at low

/-- Field values are equal if their bits are equal as numbers. -/
theorem toNat_toUInt32_inj {left right : Int32} :
    left.toUInt32.toNat = right.toUInt32.toNat ↔ left = right := by
  rw [UInt32.toNat_inj]
  exact ⟨fun same => by rw [← Int32.toInt32_toUInt32 left, same, Int32.toInt32_toUInt32],
    congrArg Int32.toUInt32⟩

theorem toNat_toUInt32_low (field : Int32) :
    (field &&& 0xFFFFFF).toUInt32.toNat = field.toUInt32.toNat % 0x1000000 := by
  rw [Int32.toUInt32_and, UInt32.toNat_and]
  exact Nat.and_two_pow_sub_one_eq_mod _ 24

/-- The field values with a clear fourth byte are the numbers of 24 bits. -/
theorem low_eq_self_iff {field : Int32} :
    field &&& 0xFFFFFF = field ↔ 0 ≤ field.toInt ∧ field.toInt < 0x1000000 := by
  have bound := field.toUInt32.toNat_lt
  have number : field.toInt =
      if 2 * field.toUInt32.toNat < 0x100000000 then (field.toUInt32.toNat : Int)
      else field.toUInt32.toNat - (0x100000000 : Nat) :=
    BitVec.toInt_eq_toNat_cond field.toBitVec
  rw [← toNat_toUInt32_inj, toNat_toUInt32_low, number]
  omega

/-! ## Packing and unpacking -/

namespace SemanticVersion

variable {version : SemanticVersion} {field : Int32}

/-- The numbers of a field value are the low bytes that arithmetic shifts of it leave. -/
theorem unpack_eq_shifts (field : Int32) :
    unpack field = ⟨(field >>> 16).toUInt32.toUInt8, (field >>> 8).toUInt32.toUInt8,
      field.toUInt32.toUInt8⟩ := by
  have major := toNat_sshiftRight_mod field.toBitVec (show 16 + 8 ≤ 32 by decide)
  have minor := toNat_sshiftRight_mod field.toBitVec (show 8 + 8 ≤ 32 by decide)
  rw [Nat.shiftRight_eq_div_pow] at major minor
  simp only [unpack, mk.injEq, ← UInt8.toNat_inj, UInt8.toNat_ofNat', UInt32.toNat_toUInt8]
  exact ⟨major.symm, minor.symm, trivial⟩

/-- Packing what was unpacked clears the fourth byte. -/
theorem pack_unpack (field : Int32) : (unpack field).pack = field &&& 0xFFFFFF := by
  rw [← toNat_toUInt32_inj, toNat_toUInt32_low, pack, Int32.toUInt32_ofNat', UInt32.toNat_ofNat']
  simp only [unpack, UInt8.toNat_ofNat']
  omega

/-- The fourth byte is not looked at. -/
theorem unpack_low (field : Int32) : unpack (field &&& 0xFFFFFF) = unpack field := by
  rw [← pack_unpack, unpack_pack]

/-- A field value is read as the version that its three low bytes spell. -/
theorem pack_eq_low_iff : version.pack = field &&& 0xFFFFFF ↔ version = unpack field := by
  constructor
  · intro packed
    rw [← unpack_low, ← packed, unpack_pack]
  · rintro rfl
    exact pack_unpack field

/-- The packed versions are the numbers of 24 bits. -/
theorem pack_eq_iff :
    version.pack = field ↔
      version = unpack field ∧ 0 ≤ field.toInt ∧ field.toInt < 0x1000000 := by
  rw [← low_eq_self_iff]
  constructor
  · rintro rfl
    exact ⟨(unpack_pack version).symm, by rw [← pack_unpack, unpack_pack]⟩
  · rintro ⟨rfl, clear⟩
    rw [pack_unpack, clear]

end SemanticVersion

/-! ## The check of the major number -/

namespace VersionCheck

open SemanticVersion

variable {expected : SemanticVersion} {field : Int32}

theorem sameMajor_eq_ok_iff :
    sameMajor expected field = .ok () ↔ (unpack field).major = expected.major := by
  simp only [sameMajor]
  split
  · next same => exact iff_of_true rfl same
  · next other => exact iff_of_false nofun other

theorem sameMajor_eq_error_iff {refusal : Refusal} :
    sameMajor expected field = .error refusal ↔
      (unpack field).major ≠ expected.major ∧
        refusal = .incompatibleVersion expected (unpack field) := by
  simp only [sameMajor]
  split
  · next same => exact iff_of_false nofun fun refused => refused.1 same
  · next other => rw [Except.error.injEq, eq_comm, and_iff_right other]

/-- The check of the major number accepts a field value exactly if its three low bytes are those of
a packed version with the expected major number.  It refuses any other field value, and reports the
expected version and the three low bytes.  So among the field values from 0 up to `2²⁴` it accepts
the packed versions with the expected major number and nothing else, and a field value beyond these
is judged as it would be with a clear fourth byte. -/
theorem sameMajor_judges_low_bytes (expected : SemanticVersion) (field : Int32) :
    (sameMajor expected field = .ok () ↔
      ∃ version : SemanticVersion,
        version.pack = field &&& 0xFFFFFF ∧ version.major = expected.major) ∧
    (∀ refusal : Refusal, sameMajor expected field = .error refusal ↔
      (¬ ∃ version : SemanticVersion,
        version.pack = field &&& 0xFFFFFF ∧ version.major = expected.major) ∧
      refusal = .incompatibleVersion expected
        ⟨(field >>> 16).toUInt32.toUInt8, (field >>> 8).toUInt32.toUInt8,
          field.toUInt32.toUInt8⟩) ∧
    (sameMajor expected field = .ok () ∧ 0 ≤ field.toInt ∧ field.toInt < 0x1000000 ↔
      ∃ version : SemanticVersion, version.pack = field ∧ version.major = expected.major) ∧
    sameMajor expected field = sameMajor expected (field &&& 0xFFFFFF) := by
  have spelled : (∃ version : SemanticVersion,
      version.pack = field &&& 0xFFFFFF ∧ version.major = expected.major) ↔
        (unpack field).major = expected.major := by
    simp only [pack_eq_low_iff, exists_eq_left]
  refine ⟨?accepts, fun refusal => ?refuses, ?packed, ?beyond⟩
  case accepts => rw [spelled, sameMajor_eq_ok_iff]
  case refuses => rw [spelled, sameMajor_eq_error_iff, ← unpack_eq_shifts]
  case packed =>
    rw [sameMajor_eq_ok_iff]
    constructor
    · rintro ⟨compatible, small⟩
      exact ⟨unpack field, pack_eq_iff.2 ⟨rfl, small⟩, compatible⟩
    · rintro ⟨version, packed, compatible⟩
      obtain ⟨rfl, small⟩ := pack_eq_iff.1 packed
      exact ⟨compatible, small⟩
  case beyond => simp only [sameMajor, unpack_low]

/-- A negative field value and a positive one with a bit above the 24 pass for version 1.0.0, and no
version is packed to either of them. -/
theorem sameMajor_accepts_garbage :
    ¬ (sameMajor ⟨1, 0, 0⟩ (-16711680) = .ok () ↔
      ∃ version : SemanticVersion, version.pack = -16711680 ∧ version.major = 1) ∧
    ¬ (sameMajor ⟨1, 0, 0⟩ 16842752 = .ok () ↔
      ∃ version : SemanticVersion, version.pack = 16842752 ∧ version.major = 1) := by
  have garbage {field : Int32} (passes : sameMajor ⟨1, 0, 0⟩ field = .ok ())
      (beyond : ¬ (0 ≤ field.toInt ∧ field.toInt < 0x1000000)) :
      ¬ (sameMajor ⟨1, 0, 0⟩ field = .ok () ↔
        ∃ version : SemanticVersion, version.pack = field ∧ version.major = 1) := by
    intro sound
    obtain ⟨version, packed, -⟩ := sound.1 passes
    exact beyond (pack_eq_iff.1 packed).2
  exact ⟨garbage rfl (by decide), garbage rfl (by decide)⟩

end VersionCheck

end Heartbeat
