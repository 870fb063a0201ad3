import Heartbeat.Proofs.ByteArray

/-!
# The test of a layout says which fields are safe

A layout is tested on a region once, by comparing a length and two offsets, and from then on each
access to a field is decided anew by the region.  The two decisions are made of different numbers:
the test looks at where the last field ends, and an access at where its own field does.  Yet they
agree: the test lets a region pass exactly if no access to a field faults, and if it does not, the
reason that it gives is that of every access to one of the fields
(`Layout.check_eq_ok_iff_fields_safe`).

So no region is refused that could be used, and none is accepted that would fault.
-/

set_option autoImplicit false

namespace Heartbeat

namespace ControlFields

/-! ## The fields and what is done with them -/

/-- A control field. -/
inductive Field where
  /-- The version. -/
  | version
  /-- The timestamp. -/
  | timestamp
  deriving DecidableEq, Repr

namespace Field

/-- What a field is called. -/
def name : Field → String
  | version => "version"
  | timestamp => "timestamp"

/-- Where a layout has a field. -/
def offset (layout : Layout) : Field → Nat
  | version => layout.versionOffset
  | timestamp => layout.timestampOffset

/-- The size of a field in bytes. -/
def size : Field → Nat
  | version => versionSize
  | timestamp => timestampSize

end Field

/-- An access to a control field. -/
inductive Accessor where
  /-- Publishes a version. -/
  | publish (version : Int32)
  /-- Reads the version. -/
  | readVersion (strength : Region.Strength)
  /-- Writes a heartbeat. -/
  | beat (time : Milliseconds)
  /-- Reads the heartbeat. -/
  | readTimestamp (strength : Region.Strength)
  deriving DecidableEq, Repr

namespace Accessor

/-- The field that is accessed. -/
def field : Accessor → Field
  | publish _ | readVersion _ => .version
  | beat _ | readTimestamp _ => .timestamp

/-- Accesses a field. -/
def perform (fields : ControlFields) (storage : Storage) :
    Accessor → Except Fault (Region.Reply × Storage)
  | publish version => (fields.publish storage version).map fun after => (.done, after)
  | readVersion _ => (fields.version storage).map fun version => (.int32 version, storage)
  | beat time => (fields.beat storage time).map fun after => (.done, after)
  | readTimestamp _ => (fields.timestamp storage).map fun time => (.int64 time, storage)

/-- The call on the region that an access is. -/
def call (layout : Layout) : Accessor → Region.Call
  | publish version => .putInt32 .ordered layout.versionOffset version
  | readVersion strength => .getInt32 strength layout.versionOffset
  | beat time => .putInt64 .ordered layout.timestampOffset time
  | readTimestamp strength => .getInt64 strength layout.timestampOffset

theorem perform_eq (fields : ControlFields) (storage : Storage) (accessor : Accessor) :
    accessor.perform fields storage =
      (accessor.call fields.layout).perform fields.region storage := by
  cases accessor <;> rfl

variable {accessor : Accessor} {layout : Layout} {region : Region} {storage : Storage}

/-- How an access to a field faults. -/
theorem perform_eq_error_iff {fault : Fault} :
    accessor.perform ⟨region, layout⟩ storage = .error fault ↔
      region.capacity < accessor.field.offset layout + accessor.field.size ∧
          fault = .outOfBounds accessor.field.size (accessor.field.offset layout) region.capacity ∨
        accessor.field.offset layout + accessor.field.size ≤ region.capacity ∧
          ¬ accessor.field.size ∣ region.address + accessor.field.offset layout ∧
          fault = .unaligned (accessor.field.offset layout) accessor.field.size := by
  rw [perform_eq, Region.Call.perform_eq_error_iff]
  cases accessor <;> exact Iff.rfl

/-- When an access to a field does not fault. -/
theorem performs_iff :
    (∃ answer, accessor.perform ⟨region, layout⟩ storage = .ok answer) ↔
      accessor.field.offset layout + accessor.field.size ≤ region.capacity ∧
        accessor.field.size ∣ region.address + accessor.field.offset layout := by
  simp only [perform_eq, Region.Call.performs_iff]
  cases accessor <;> exact Iff.rfl

/-- Every access to a field that ends past the region reports its end. -/
theorem message_of_short {field : Field} (same : accessor.field = field)
    (short : region.capacity < field.offset layout + field.size) :
    let size := field.size
    let offset := field.offset layout
    let capacity := region.capacity
    (accessor.perform ⟨region, layout⟩ storage).mapError Fault.message =
      .error s!"access of {size} bytes at offset {offset} exceeds capacity {capacity}" := by
  subst same
  intro size offset capacity
  rw [perform_eq_error_iff.2 (.inl ⟨short, rfl⟩)]
  rfl

/-- Every access to a field within the region at a wrong address reports its alignment. -/
theorem message_of_unaligned {field : Field} (same : accessor.field = field)
    (long : field.offset layout + field.size ≤ region.capacity)
    (unaligned : ¬ field.size ∣ region.address + field.offset layout) :
    let size := field.size
    let offset := field.offset layout
    (accessor.perform ⟨region, layout⟩ storage).mapError Fault.message =
      .error s!"offset {offset} is not {size}-byte aligned" := by
  subst same
  intro size offset
  rw [perform_eq_error_iff.2 (.inr ⟨long, unaligned, rfl⟩)]
  rfl

end Accessor

end ControlFields

/-! ## The test and the accesses -/

namespace Layout

open ControlFields (Accessor Field)

variable {layout : Layout} {region : Region}

theorem alignedAt_field (layout : Layout) (region : Region) (field : Field) :
    region.alignedAt (field.offset layout) field.size = true ↔
      field.size ∣ region.address + field.offset layout := by
  cases field with
  | version => exact Region.alignedAt_iff_dvd (by decide)
  | timestamp => exact Region.alignedAt_iff_dvd (by decide)

/-- The test of a layout asks of a region that both fields end within it and are aligned. -/
theorem check_eq_ok_iff (representable : layout.Representable) :
    layout.check region = .ok () ↔ ∀ field : Field,
      field.offset layout + field.size ≤ region.capacity ∧
        field.size ∣ region.address + field.offset layout := by
  have ordered := layout.ordered
  have version := alignedAt_field layout region .version
  have timestamp := alignedAt_field layout region .timestamp
  simp only [Field.offset, Field.size] at version timestamp
  rw [check, verify_eq_ok_iff, version, timestamp]
  constructor
  · rintro ⟨-, room, versionAligned, timestampAligned⟩ field
    cases field with
    | version =>
      refine ⟨?_, versionAligned⟩
      simp only [Field.offset, Field.size]
      omega
    | timestamp => exact ⟨room, timestampAligned⟩
  · intro safe
    exact ⟨representable, (safe .timestamp).1, (safe .version).2, (safe .timestamp).2⟩

/-- The test of a layout is exactly the safety of its fields.

If a machine word holds the end of the fields, a region passes the test exactly if no access to a
field faults, whatever is stored there and whatever is written.  A region that does not pass is
refused for one of two reasons.  If it is too small, every access to the timestamp reports that it
ends past the region, and if a field is misaligned, every access to that field reports just that. -/
theorem check_eq_ok_iff_fields_safe (representable : layout.Representable) (region : Region)
    (storage : Storage) :
    let fields : ControlFields := ⟨region, layout⟩
    let capacity := region.capacity
    (layout.check region = .ok () ↔
      ∀ accessor : Accessor, ∃ answer, accessor.perform fields storage = .ok answer) ∧
    ∀ failure, layout.check region = .error failure →
      let field := Field.timestamp
      let size := field.size
      let offset := field.offset layout
      failure = .refused (.regionTooSmall capacity (offset + size)) ∧
          (∀ accessor : Accessor, accessor.field = field →
            (accessor.perform fields storage).mapError Fault.message =
              .error s!"access of {size} bytes at offset {offset} exceeds capacity {capacity}") ∨
        ∃ field : Field,
          let size := field.size
          let offset := field.offset layout
          failure = .refused (.misaligned field.name offset size) ∧
          ∀ accessor : Accessor, accessor.field = field →
            (accessor.perform fields storage).mapError Fault.message =
              .error s!"offset {offset} is not {size}-byte aligned" := by
  intro fields capacity
  constructor
  · simp only [check_eq_ok_iff representable, fields, Accessor.performs_iff]
    constructor
    · exact fun safe accessor => safe accessor.field
    · intro safe field
      cases field with
      | version => exact safe (.readVersion .plain)
      | timestamp => exact safe (.readTimestamp .plain)
  · intro failure unfit
    rcases verify_eq_error representable unfit with
      ⟨short, rfl⟩ | ⟨long, ⟨unaligned, rfl⟩ | ⟨-, unaligned, rfl⟩⟩
    case inl => exact .inl ⟨rfl, fun accessor same => Accessor.message_of_short same short⟩
    case inr.inl =>
      have within : layout.versionOffset + versionSize ≤ region.capacity := by
        have ordered := layout.ordered
        omega
      have astray := mt (alignedAt_field layout region .version).2 (ne_true_of_eq_false unaligned)
      exact .inr ⟨.version, rfl, fun accessor same =>
        Accessor.message_of_unaligned same within astray⟩
    case inr.inr =>
      have astray := mt (alignedAt_field layout region .timestamp).2 (ne_true_of_eq_false unaligned)
      exact .inr ⟨.timestamp, rfl, fun accessor same =>
        Accessor.message_of_unaligned same long astray⟩

/-- On memory that is aligned for 32-bit words only, a layout whose offsets are multiples of the
sizes is refused for its timestamp, and one whose timestamp is not at such a multiple is accepted.
-/
theorem check_eq_ok_iff_fields_safe_shifted :
    let region : Region := ⟨0, 0, 20, mappingAddress + 4⟩
    let plain : Layout := ⟨0, 8, by decide⟩
    let shifted : Layout := ⟨0, 12, by decide⟩
    plain.check region = .error (.refused (.misaligned "timestamp" 8 8)) ∧
      ((Accessor.beat 100).perform ⟨region, plain⟩ .empty).mapError Fault.message =
        .error "offset 8 is not 8-byte aligned" ∧
      ∃ answer, (Accessor.beat 100).perform ⟨region, shifted⟩ .empty = .ok answer := by
  intro region plain shifted
  have refused : plain.check region = .error (.refused (.misaligned "timestamp" 8 8)) := by cbv
  have accepted : shifted.check region = .ok () := by cbv
  refine ⟨refused, ?_,
    (check_eq_ok_iff_fields_safe (by decide) region .empty).1.1 accepted (.beat 100)⟩
  rcases (check_eq_ok_iff_fields_safe (by decide) region .empty).2 _ refused with
    ⟨other, -⟩ | ⟨field, same, reports⟩
  · cases other
  · cases field with
    | version => exact absurd same (by decide)
    | timestamp => exact (reports (.beat 100) rfl).trans (by cbv)

end Layout

end Heartbeat
