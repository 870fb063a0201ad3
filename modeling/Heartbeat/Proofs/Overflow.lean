import Heartbeat.Proofs.Access

/-!
# Where the arithmetic of layouts ends

The offsets of a layout are machine words, and what is computed from them is to be a machine word
again.  A layout is accepted if its version field ends before the timestamp field starts, and that
sum is guarded: one that no machine word holds is past every offset (`checkedSum_le_iff`).  The end
of the timestamp field is a sum of the same kind, but there the guard is missing.  The control span,
the rebased layout and the tests of a length all come after it.

So the arithmetic is exact for all layouts whose end a machine word holds, and for the last eight
timestamp offsets it is a fault (`Layout.arithmetic_exact_until_overflow`).  Every region is too
small for such a layout, but none is refused for it (`Layout.overflow_is_not_refused`).
-/

set_option autoImplicit false

namespace Heartbeat

/-- Whether a guarded sum is at most a machine word does not depend on the guard. -/
theorem checkedSum_le_iff {left right bound : Nat} (word : bound < addressSpace) :
    (∃ sum, checkedSum left right = .ok sum ∧ sum ≤ bound) ↔ left + right ≤ bound := by
  unfold checkedSum
  split
  · simp
  · simp only [reduceCtorEq, false_and, exists_false, false_iff]
    omega

namespace Layout

variable {versionOffset timestampOffset : Nat} {layout : Layout}

/-- Offsets are accepted for the layout that has them. -/
theorem ofOffsets_eq_ok_iff :
    ofOffsets versionOffset timestampOffset = .ok layout ↔
      layout.versionOffset = versionOffset ∧ layout.timestampOffset = timestampOffset := by
  unfold ofOffsets
  split
  · next ordered =>
    rw [Except.ok.injEq]
    constructor
    · rintro rfl
      exact ⟨rfl, rfl⟩
    · rintro ⟨rfl, rfl⟩
      rfl
  · next unordered =>
    simp only [reduceCtorEq, false_iff, not_and]
    rintro rfl rfl
    exact unordered layout.ordered

/-- Offsets are accepted if the version field ends before the timestamp field starts. -/
theorem exists_ofOffsets_iff :
    (∃ layout, ofOffsets versionOffset timestampOffset = .ok layout) ↔
      versionOffset + versionSize ≤ timestampOffset := by
  simp only [ofOffsets_eq_ok_iff]
  constructor
  · rintro ⟨layout, rfl, rfl⟩
    exact layout.ordered
  · exact fun ordered => ⟨⟨_, _, ordered⟩, rfl, rfl⟩

/-! ## Beyond the last machine word -/

theorem requiredLength_eq_error (overflows : ¬ layout.Representable) :
    layout.requiredLength = .error .sumTooLarge := if_neg overflows

theorem controlSpan_eq_error (overflows : ¬ layout.Representable) :
    layout.controlSpan = .error .sumTooLarge := by
  simp only [controlSpan, requiredLength_eq_error overflows]

/-- A test of a layout faults if no machine word holds the end of the fields, and only then. -/
theorem verify_eq_fault_iff {length : Nat} {aligned : (offset align : Nat) → Bool} {fault : Fault} :
    layout.verify length aligned = .error (.fault fault) ↔
      ¬ layout.Representable ∧ fault = .sumTooLarge := by
  unfold verify
  by_cases representable : layout.Representable
  · rw [requiredLength_eq_ok representable]
    simp only [representable, not_true_eq_false, false_and, iff_false]
    split
    · simp
    · split
      · simp
      · split <;> simp
  · rw [requiredLength_eq_error representable]
    simp [representable, eq_comm]

/-- A test of a layout refuses a length if it is below the end of the fields, and a machine word
holds that end. -/
theorem verify_eq_regionTooSmall_iff {length shown required : Nat}
    {aligned : (offset align : Nat) → Bool} :
    layout.verify length aligned = .error (.refused (.regionTooSmall shown required)) ↔
      layout.Representable ∧ length < layout.timestampOffset + timestampSize ∧
        shown = length ∧ required = layout.timestampOffset + timestampSize := by
  unfold verify
  by_cases representable : layout.Representable
  · rw [requiredLength_eq_ok representable]
    simp only [representable, true_and]
    split
    · next short => simp [short, eq_comm]
    · next long =>
      simp only [long, false_and, iff_false]
      split
      · simp
      · split <;> simp
  · rw [requiredLength_eq_error representable]
    simp [representable]

/-! ## All that is computed from the offsets -/

/-- The tests of a length for a layout, before there is a region and on a region. -/
inductive Tests (layout : Layout) (length : Nat) : Except Failure Unit → Prop where
  | mapping : Tests layout length (layout.checkMappedLength length)
  | region (region : Region) (long : region.capacity = length) :
      Tests layout length (layout.check region)

/-- The tests differ in nothing but in what they take for aligned. -/
theorem Tests.eq_verify {length : Nat} {result : Except Failure Unit}
    (tests : layout.Tests length result) : ∃ aligned, result = layout.verify length aligned := by
  cases tests with
  | mapping => exact ⟨_, rfl⟩
  | region region long => exact ⟨region.alignedAt, long ▸ rfl⟩

/-- The arithmetic of layouts is exact until it overflows.

Two machine words are accepted for a layout if the version field ends before the timestamp field
starts, as numbers without a bound, and the guard of that sum makes no difference.  To rebase the
layout subtracts no more than there is.  If a machine word holds the end of the timestamp field,
then the required length is that end, the span reaches to it from the version field, the rebased
layout requires just that span, and a test finds a length too small if it is below that end, and
never faults.  Otherwise all of these fault, whatever the length of the region. -/
theorem arithmetic_exact_until_overflow (versionWord timestampWord : UInt64) :
    ((∃ layout, ofOffsets versionWord.toNat timestampWord.toNat = .ok layout) ↔
        versionWord.toNat + versionSize ≤ timestampWord.toNat) ∧
      ((∃ sum, checkedSum versionWord.toNat versionSize = .ok sum ∧ sum ≤ timestampWord.toNat) ↔
        versionWord.toNat + versionSize ≤ timestampWord.toNat) ∧
      let versionOffset := versionWord.toNat
      let timestampOffset := timestampWord.toNat
      let required := timestampOffset + timestampSize
      ∀ layout, ofOffsets versionOffset timestampOffset = .ok layout →
        (layout.rebased.versionOffset = 0 ∧
          layout.rebased.timestampOffset + versionOffset = timestampOffset) ∧
        (required < addressSpace →
          layout.requiredLength = .ok required ∧
          (∃ length, layout.controlSpan = .ok (versionOffset, length) ∧
            versionOffset + length = required ∧ layout.rebased.requiredLength = .ok length) ∧
          ∀ length result, layout.Tests length result →
            (∀ fault, result ≠ .error (.fault fault)) ∧
            ∀ shown limit, result = .error (.refused (.regionTooSmall shown limit)) ↔
              length < required ∧ shown = length ∧ limit = required) ∧
        (addressSpace ≤ required →
          layout.requiredLength = .error .sumTooLarge ∧
          layout.controlSpan = .error .sumTooLarge ∧
          ∀ length result, layout.Tests length result →
            result = .error (.fault .sumTooLarge)) := by
  refine ⟨exists_ofOffsets_iff, checkedSum_le_iff timestampWord.toNat_lt, ?_⟩
  intro versionOffset timestampOffset required layout accepted
  obtain ⟨version, timestamp⟩ := ofOffsets_eq_ok_iff.1 accepted
  have ordered := layout.ordered
  have ends : layout.timestampOffset + timestampSize = required := by rw [timestamp]
  refine ⟨⟨rfl, ?rebased⟩, fun fits => ?exact, fun overflows => ?faults⟩
  case rebased =>
    simp only [rebased]
    omega
  case exact =>
    have representable : layout.Representable := Nat.lt_of_le_of_lt (Nat.le_of_eq ends) fits
    refine ⟨(requiredLength_eq_ok representable).trans (congrArg _ ends), ?_, ?_⟩
    · refine ⟨required - versionOffset, ?_, by omega, ?_⟩
      · rw [controlSpan_eq_ok representable, ends, version]
      · rw [requiredLength_rebased representable, ends, version]
    · intro length result tests
      obtain ⟨aligned, rfl⟩ := tests.eq_verify
      refine ⟨fun fault faults => (verify_eq_fault_iff.1 faults).1 representable, ?_⟩
      intro shown limit
      rw [verify_eq_regionTooSmall_iff, ends]
      exact and_iff_right representable
  case faults =>
    have overflow : ¬ layout.Representable :=
      Nat.not_lt.2 (Nat.le_trans overflows (Nat.le_of_eq ends.symm))
    refine ⟨requiredLength_eq_error overflow, controlSpan_eq_error overflow, ?_⟩
    intro length result tests
    obtain ⟨aligned, rfl⟩ := tests.eq_verify
    exact verify_eq_fault_iff.2 ⟨overflow, rfl⟩

/-- The last layout whose end a machine word holds, with adjacent fields, finds 4096 bytes too
small. -/
theorem arithmetic_exact_until_overflow_last :
    ∃ layout, ofOffsets 18446744073709551603 18446744073709551607 = .ok layout ∧
      layout.controlSpan = .ok (18446744073709551603, 12) ∧
      layout.checkMappedLength 4096 =
        .error (.refused (.regionTooSmall 4096 18446744073709551615)) := by
  obtain ⟨accepts, -, computes⟩ :=
    arithmetic_exact_until_overflow 18446744073709551603 18446744073709551607
  obtain ⟨layout, accepted⟩ := accepts.2 (by decide)
  obtain ⟨-, exact', -⟩ := computes layout accepted
  obtain ⟨-, ⟨length, span, ends, -⟩, tests⟩ := exact' (by decide)
  obtain rfl : length = 12 := Nat.add_left_cancel ends
  exact ⟨layout, accepted, span, ((tests 4096 _ .mapping).2 _ _).2 (by decide)⟩

/-- With the timestamp at the first offset too far, 16 bytes are less than what the control fields
need, but they are not refused. -/
theorem overflow_is_not_refused :
    ∃ layout, ofOffsets 0 18446744073709551608 = .ok layout ∧
      16 < layout.timestampOffset + timestampSize ∧
      layout.requiredLength = .error .sumTooLarge ∧
      layout.controlSpan = .error .sumTooLarge ∧
      layout.check (.mapping 0 0 16) = .error (.fault .sumTooLarge) ∧
      layout.checkMappedLength 16 = .error (.fault .sumTooLarge) :=
  ⟨⟨0, 18446744073709551608, by decide⟩, rfl, by decide, rfl, rfl, rfl, rfl⟩

end Layout

end Heartbeat
