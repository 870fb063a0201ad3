import Heartbeat.ControlFields
import Heartbeat.Storage.Mapping

/-!
# Access to the control fields

A region that passes the test of a layout can be read at both fields in every storage, since the
test asks for the room and the alignment that an access asks for.  `ControlFields.versionIn` and
`ControlFields.timestampIn` are the two values as functions of the storage alone.

A mapping starts at a page, so an offset in it is as aligned as the position in the file that it
stands for.  This is why the control span of a file, seen through the rebased layout, and the file
as a whole show the same two values (`version_span`, `timestamp_span`).
-/

set_option autoImplicit false

namespace Heartbeat

/-! ## Alignment -/

namespace Region

/-- An offset in a region is as aligned as the position in a file that it stands for, if the region
lies in its page as the file does in its own. -/
theorem alignedAt_of_page {align : Nat} (divides : align ∣ pageSize) {region : Region}
    {start : Nat} (page : region.address % pageSize = start % pageSize) (offset : Nat) :
    region.alignedAt offset align = decide ((start + offset) % align = 0) := by
  have wraps : align ∣ addressSpace := Nat.dvd_trans divides ⟨4503599627370496, rfl⟩
  have same : region.address % align = start % align := by
    rw [← Nat.mod_mod_of_dvd _ divides, page, Nat.mod_mod_of_dvd _ divides]
  rw [alignedAt, Nat.mod_mod_of_dvd _ wraps, Nat.add_mod, same, ← Nat.add_mod]

/-- A mapping lies in its page as the file does in its own. -/
theorem address_mapping (object : ObjectId) (start length : Nat) :
    (mapping object start length).address % pageSize = start % pageSize :=
  (Nat.mul_add_mod pageSize 1073741824 (start % pageSize)).trans (Nat.mod_mod start pageSize)

/-- An offset in a mapping is as aligned as the position in the file. -/
theorem alignedAt_mapping (align : Nat) (divides : align ∣ pageSize)
    (object : ObjectId) (start length offset : Nat) :
    (mapping object start length).alignedAt offset align =
      decide ((start + offset) % align = 0) :=
  alignedAt_of_page divides (address_mapping object start length) offset

/-- An access is let through exactly if it ends within the region and is aligned. -/
theorem checkAccess_eq_ok_iff {region : Region} {offset length align : Nat} :
    region.checkAccess offset length align = .ok () ↔
      offset + length ≤ region.capacity ∧ region.alignedAt offset align = true := by
  unfold checkAccess
  split
  · next outside => simp only [reduceCtorEq, false_iff]; omega
  · next inside =>
    split
    · next unaligned => simp_all
    · next aligned => simp_all

section Word

variable {α : Type} [StoredWord α] {region : Region} {offset : Nat}

/-- A word that can be accessed is read from its bytes. -/
theorem load_eq_ok
    (access : region.checkAccess offset (StoredWord.width α) (StoredWord.width α) = .ok ())
    (storage : Storage) :
    region.load storage offset = .ok (StoredWord.ofBytes (α := α)
      ((storage.content region.object).read (region.start + offset) (StoredWord.width α))) := by
  rw [load, access]

/-- A word that can be accessed is written to its bytes. -/
theorem store_eq_ok
    (access : region.checkAccess offset (StoredWord.width α) (StoredWord.width α) = .ok ())
    (storage : Storage) (value : α) :
    region.store storage offset value =
      .ok (storage.modify region.object
        (·.write (region.start + offset) (StoredWord.toBytes value))) := by
  rw [store, access]

end Word

end Region

/-! ## The test of a layout -/

namespace Layout

/-- The end of the control fields is a number that a machine word can hold. -/
def Representable (layout : Layout) : Prop :=
  layout.timestampOffset + timestampSize < addressSpace

instance (layout : Layout) : Decidable layout.Representable :=
  inferInstanceAs (Decidable (_ < _))

variable {layout : Layout}

theorem requiredLength_eq_ok (representable : layout.Representable) :
    layout.requiredLength = .ok (layout.timestampOffset + timestampSize) := if_pos representable

/-- What the test of a length and of the alignment asks for. -/
theorem verify_eq_ok_iff {length : Nat} {aligned : (offset align : Nat) → Bool} :
    layout.verify length aligned = .ok () ↔
      layout.Representable ∧ layout.timestampOffset + timestampSize ≤ length ∧
        aligned layout.versionOffset versionSize = true ∧
          aligned layout.timestampOffset timestampSize = true := by
  unfold verify
  by_cases representable : layout.Representable
  · rw [requiredLength_eq_ok representable]
    simp only [representable, true_and]
    split
    · next short => simp only [reduceCtorEq, false_iff]; omega
    · next long =>
      split
      · next unaligned => simp_all
      · split
        · next unaligned => simp_all
        · simp_all
  · have overflow : layout.requiredLength = .error .sumTooLarge := if_neg representable
    simp [overflow, representable]

/-- The test refuses for no other reason than the configuration. -/
theorem class?_of_verify {length : Nat} {aligned : (offset align : Nat) → Bool} {refusal : Refusal}
    (refused : layout.verify length aligned = .error (.refused refusal)) :
    refusal.class? = some .configuration := by
  unfold verify at refused
  split at refused
  · cases refused
  · split at refused
    · cases refused
      rfl
    · split at refused
      · cases refused
        rfl
      · split at refused
        · cases refused
          rfl
        · cases refused

/-- The test on a length is the test on a region of that length that starts at a page. -/
theorem check_of_page {region : Region} (page : region.address % pageSize = 0) :
    layout.check region = layout.checkMappedLength region.capacity := by
  have aligned (align : Nat) (divides : align ∣ pageSize) (offset : Nat) :
      region.alignedAt offset align = decide (offset % align = 0) := by
    rw [Region.alignedAt_of_page divides (page.trans (Nat.zero_mod _).symm), Nat.zero_add]
  have version := aligned versionSize ⟨1024, rfl⟩ layout.versionOffset
  have timestamp := aligned timestampSize ⟨512, rfl⟩ layout.timestampOffset
  simp only [checkMappedLength, check, verify, version, timestamp]

/-- The test on the length of a mapping that does not exist yet asks for what the test on the
mapping asks for. -/
theorem checkMappedLength_eq_check (layout : Layout) (object : ObjectId) (length : Nat) :
    layout.checkMappedLength length = layout.check (.mapping object 0 length) := by
  rw [check_of_page (Region.address_mapping object 0 length)]
  rfl

/-- What the test on the length of a mapping asks for. -/
theorem checkMappedLength_eq_ok_iff {length : Nat} :
    layout.checkMappedLength length = .ok () ↔
      layout.Representable ∧ layout.timestampOffset + timestampSize ≤ length ∧
        layout.versionOffset % versionSize = 0 ∧ layout.timestampOffset % timestampSize = 0 := by
  simp only [checkMappedLength, verify_eq_ok_iff, decide_eq_true_eq]

/-- How a length or an alignment is found wanting. -/
theorem verify_eq_error (representable : layout.Representable) {length : Nat}
    {aligned : (offset align : Nat) → Bool} {failure : Failure}
    (unfit : layout.verify length aligned = .error failure) :
    length < layout.timestampOffset + timestampSize ∧
        failure = .refused (.regionTooSmall length (layout.timestampOffset + timestampSize)) ∨
      layout.timestampOffset + timestampSize ≤ length ∧
        (aligned layout.versionOffset versionSize = false ∧
            failure = .refused (.misaligned "version" layout.versionOffset versionSize) ∨
          aligned layout.versionOffset versionSize = true ∧
            aligned layout.timestampOffset timestampSize = false ∧
            failure = .refused (.misaligned "timestamp" layout.timestampOffset timestampSize)) := by
  unfold verify at unfit
  simp only [requiredLength_eq_ok representable, Bool.not_eq_true'] at unfit
  split at unfit
  · next short => exact .inl ⟨short, (Except.error.inj unfit).symm⟩
  · next long =>
    refine .inr ⟨Nat.not_lt.1 long, ?_⟩
    split at unfit
    · next version => exact .inl ⟨version, (Except.error.inj unfit).symm⟩
    · next version =>
      split at unfit
      · next timestamp =>
        exact .inr ⟨eq_true_of_ne_false version, timestamp, (Except.error.inj unfit).symm⟩
      · cases unfit

/-- How the length of a mapping or an alignment in it is found wanting. -/
theorem checkMappedLength_eq_error (representable : layout.Representable) {length : Nat}
    {failure : Failure} (unfit : layout.checkMappedLength length = .error failure) :
    length < layout.timestampOffset + timestampSize ∧
        failure = .refused (.regionTooSmall length (layout.timestampOffset + timestampSize)) ∨
      layout.timestampOffset + timestampSize ≤ length ∧
        (layout.versionOffset % versionSize ≠ 0 ∧
            failure = .refused (.misaligned "version" layout.versionOffset versionSize) ∨
          layout.versionOffset % versionSize = 0 ∧
            layout.timestampOffset % timestampSize ≠ 0 ∧
            failure = .refused (.misaligned "timestamp" layout.timestampOffset timestampSize)) := by
  simpa only [decide_eq_true_eq, decide_eq_false_iff_not] using
    verify_eq_error representable unfit

/-- A length or an alignment that will not do is refused. -/
theorem unfit_is_refused (representable : layout.Representable) {length : Nat}
    {failure : Failure} (unfit : layout.checkMappedLength length = .error failure) :
    ∃ refusal, failure = .refused refusal := by
  rcases checkMappedLength_eq_error representable unfit with
    ⟨_, short⟩ | ⟨_, ⟨_, version⟩ | ⟨_, _, timestamp⟩⟩
  · exact ⟨_, short⟩
  · exact ⟨_, version⟩
  · exact ⟨_, timestamp⟩

end Layout

/-! ## The values of the fields -/

namespace ControlFields

/-- The value of the version field in a storage. -/
def versionIn (fields : ControlFields) (storage : Storage) : Int32 :=
  StoredWord.ofBytes ((storage.content fields.region.object).read
    (fields.region.start + fields.layout.versionOffset) versionSize)

/-- The value of the timestamp field in a storage. -/
def timestampIn (fields : ControlFields) (storage : Storage) : Milliseconds :=
  StoredWord.ofBytes ((storage.content fields.region.object).read
    (fields.region.start + fields.layout.timestampOffset) timestampSize)

/-- The region of the fields can carry them. -/
def Fit (fields : ControlFields) : Prop := fields.layout.check fields.region = .ok ()

variable {fields : ControlFields}

theorem Fit.version_access (fit : fields.Fit) :
    fields.region.checkAccess fields.layout.versionOffset versionSize versionSize = .ok () := by
  obtain ⟨_, room, version, _⟩ := Layout.verify_eq_ok_iff.1 fit
  have ordered := fields.layout.ordered
  exact Region.checkAccess_eq_ok_iff.2 ⟨by omega, version⟩

theorem Fit.timestamp_access (fit : fields.Fit) :
    fields.region.checkAccess fields.layout.timestampOffset timestampSize timestampSize =
      .ok () := by
  obtain ⟨_, room, _, timestamp⟩ := Layout.verify_eq_ok_iff.1 fit
  exact Region.checkAccess_eq_ok_iff.2 ⟨room, timestamp⟩

/-- The version field of a region that fits can be read in every storage. -/
theorem Fit.version_eq (fit : fields.Fit) (storage : Storage) :
    fields.version storage = .ok (fields.versionIn storage) :=
  Region.load_eq_ok (α := Int32) fit.version_access storage

/-- The timestamp field of a region that fits can be read in every storage. -/
theorem Fit.timestamp_eq (fit : fields.Fit) (storage : Storage) :
    fields.timestamp storage = .ok (fields.timestampIn storage) :=
  Region.load_eq_ok (α := Milliseconds) fit.timestamp_access storage

end ControlFields

/-! ## The control span -/

section Span

variable {layout : Layout} (representable : layout.Representable)
  (versionAligned : layout.versionOffset % versionSize = 0)
  (timestampAligned : layout.timestampOffset % timestampSize = 0)

/-- A mapping of a whole file, or of a beginning of it that has room for the control fields. -/
def ControlFields.ofFile (layout : Layout) (object : ObjectId) (length : Nat) : ControlFields :=
  ⟨.mapping object 0 length, layout⟩

/-- The version of a file is the same in every mapping of it. -/
theorem ControlFields.versionIn_ofFile (layout : Layout) (object : ObjectId) (length other : Nat) :
    (ofFile layout object length).versionIn = (ofFile layout object other).versionIn := rfl

/-- The timestamp of a file is the same in every mapping of it. -/
theorem ControlFields.timestampIn_ofFile (layout : Layout) (object : ObjectId)
    (length other : Nat) :
    (ofFile layout object length).timestampIn = (ofFile layout object other).timestampIn := rfl

/-- The control fields of a file, seen through a mapping of nothing but the span that holds them. -/
def ControlFields.ofSpan (layout : Layout) (object : ObjectId) : ControlFields :=
  ⟨.mapping object layout.versionOffset
    (layout.timestampOffset + timestampSize - layout.versionOffset), layout.rebased⟩

include representable

theorem Layout.controlSpan_eq_ok :
    layout.controlSpan = .ok (layout.versionOffset,
      layout.timestampOffset + timestampSize - layout.versionOffset) := by
  simp only [controlSpan, requiredLength_eq_ok representable]

/-- The rebased layout asks for exactly the span. -/
theorem Layout.requiredLength_rebased :
    layout.rebased.requiredLength =
      .ok (layout.timestampOffset + timestampSize - layout.versionOffset) := by
  have ordered := layout.ordered
  have shorter : layout.rebased.Representable := by
    simp only [Representable, rebased] at *
    omega
  rw [requiredLength_eq_ok shorter]
  simp only [rebased, Except.ok.injEq]
  omega

include versionAligned timestampAligned

/-- A file with room for the control fields passes the test. -/
theorem ControlFields.fit_ofFile (object : ObjectId) {length : Nat}
    (room : layout.timestampOffset + timestampSize ≤ length) :
    (ofFile layout object length).Fit := by
  rw [Fit, ofFile, ← Layout.checkMappedLength_eq_check]
  exact Layout.checkMappedLength_eq_ok_iff.2 ⟨representable, room, versionAligned, timestampAligned⟩

/-- A region that shows the span of a file passes the test of the rebased layout. -/
theorem Layout.check_rebased_of_page {region : Region}
    (long : region.capacity = layout.timestampOffset + timestampSize - layout.versionOffset)
    (page : region.address % pageSize = layout.versionOffset % pageSize) :
    layout.rebased.check region = .ok () := by
  have ordered := layout.ordered
  refine Layout.verify_eq_ok_iff.2 ⟨?_, ?_, ?_, ?_⟩
  · simp only [Layout.Representable, Layout.rebased] at *
    omega
  · simp only [Layout.rebased]
    omega
  · rw [Region.alignedAt_of_page ⟨1024, rfl⟩ page]
    exact decide_eq_true versionAligned
  · rw [Region.alignedAt_of_page ⟨512, rfl⟩ page, decide_eq_true_eq]
    simp only [Layout.rebased]
    rwa [Nat.add_sub_cancel' (by omega)]

/-- The span passes the test of the rebased layout. -/
theorem ControlFields.fit_ofSpan (object : ObjectId) : (ofSpan layout object).Fit :=
  Layout.check_rebased_of_page representable versionAligned timestampAligned rfl
    (Region.address_mapping _ _ _)

/-- The span shows the version of the file. -/
theorem ControlFields.version_span (object : ObjectId) {length : Nat}
    (room : layout.timestampOffset + timestampSize ≤ length) :
    (ofSpan layout object).version = (ofFile layout object length).version := by
  funext storage
  rw [(fit_ofSpan representable versionAligned timestampAligned object).version_eq,
    (fit_ofFile representable versionAligned timestampAligned object room).version_eq]
  simp only [versionIn, ofSpan, ofFile, Region.mapping, Layout.rebased, Nat.zero_add, Nat.add_zero]

/-- The span shows the timestamp of the file. -/
theorem ControlFields.timestamp_span (object : ObjectId) {length : Nat}
    (room : layout.timestampOffset + timestampSize ≤ length) :
    (ofSpan layout object).timestamp = (ofFile layout object length).timestamp := by
  have ordered := layout.ordered
  funext storage
  rw [(fit_ofSpan representable versionAligned timestampAligned object).timestamp_eq,
    (fit_ofFile representable versionAligned timestampAligned object room).timestamp_eq]
  have same : layout.versionOffset + (layout.timestampOffset - layout.versionOffset) =
      layout.timestampOffset := Nat.add_sub_cancel' (by omega)
  simp only [timestampIn, ofSpan, ofFile, Region.mapping, Layout.rebased, Nat.zero_add, same]

end Span

end Heartbeat
