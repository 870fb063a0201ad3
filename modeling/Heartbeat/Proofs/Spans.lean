import Heartbeat.Proofs.ByteArray

/-!
# Spans of files

A file is brought into view in one of four ways (`Opening`).  Of these a span is the one whose place
the caller chooses.  It may begin at any offset: what is mapped are the pages that it touches, and
the span is some of what they show (`Region.bytes_mapping_eq_drop`).

It has to end within the file, and the end is the sum of two numbers of the caller's that nothing
guards.  So a span is shown if the file covers it and refused if the file is too short, exactly, for
all ends that a machine word holds, unless the system turns it down
(`Storage.span_exact_until_overflow`).  A span that ends beyond
them is past the end of every file, but is not refused for it
(`Storage.span_overflow_is_not_refused`).
-/

set_option autoImplicit false

namespace Heartbeat

/-! ## Ways to map a file -/

/-- A way to get the bytes of a file into view. -/
inductive Opening where
  /-- The file is made, or emptied, and filled with zero bytes. -/
  | new (path : String) (length : Nat)
  /-- The file is made if there is none, and lengthened if it is too short. -/
  | keeping (path : String) (length : Nat)
  /-- All of an existing file. -/
  | whole (path : String)
  /-- Some bytes of an existing file. -/
  | span (path : String) (offset length : Nat)
  deriving DecidableEq, Repr

/-- Maps a file. -/
def Opening.perform (storage : Storage) :
    Opening → Except Fault (Except FileError Region) × Storage
  | new path length => (storage.mapNew path length).map .ok id
  | keeping path length => (storage.mapKeeping path length).map .ok id
  | whole path => (.ok (storage.mapWhole path), storage)
  | span path offset length => (storage.mapSpan path offset length, storage)

/-! ## The bytes of a file -/

/-- All bytes. -/
def Content.bytes (content : Content) : List UInt8 := content.read 0 content.size

@[simp] theorem Content.length_bytes (content : Content) :
    content.bytes.length = content.size := length_read ..

theorem Storage.fileBytes_eq_ok_iff {storage : Storage} {path : String} {bytes : List UInt8} :
    storage.fileBytes path = .ok bytes ↔
      ∃ object, storage.openFile path = .ok object ∧ bytes = (storage.content object).bytes := by
  unfold fileBytes
  cases storage.openFile path with
  | error => simp
  | ok object => simp [Content.bytes, eq_comm]

/-! ## Pages -/

namespace Region

variable {region : Region} {storage : Storage}

/-- The pages that a span touches, from the beginning of the first one to the end of the span. -/
def pagesOf (object : ObjectId) (offset length : Nat) : Region :=
  mapping object (offset - offset % pageSize) (offset % pageSize + length)

/-- The pages of a span begin at a page of the file and of memory. -/
theorem pagesOf_aligned (object : ObjectId) (offset length : Nat) :
    (pagesOf object offset length).start % pageSize = 0 ∧
      (pagesOf object offset length).address % pageSize = 0 := by
  have aligned : (offset - offset % pageSize) % pageSize = 0 :=
    Nat.mod_eq_zero_of_dvd (Nat.dvd_sub_mod offset)
  exact ⟨aligned, (address_mapping ..).trans aligned⟩

/-- A span lies in its pages as it does in the file. -/
theorem address_mapping_eq (object : ObjectId) (offset length : Nat) :
    (mapping object offset length).address =
      (pagesOf object offset length).address + offset % pageSize := by
  have aligned := (pagesOf_aligned object offset length).1
  change mappingAddress + offset % pageSize =
    mappingAddress + (pagesOf object offset length).start % pageSize + offset % pageSize
  rw [aligned, Nat.add_zero]

/-- A span shows what its pages show, without what comes before it. -/
theorem bytes_mapping_eq_drop (object : ObjectId) (offset length : Nat) (storage : Storage) :
    (mapping object offset length).bytes storage =
      ((pagesOf object offset length).bytes storage).drop (offset % pageSize) := by
  have shown := Content.read_add (storage.content object) (offset - offset % pageSize)
    (Nat.le_refl (offset % pageSize + length))
  rw [Nat.sub_add_cancel (Nat.mod_le _ _), List.take_of_length_le] at shown
  · exact shown
  · rw [List.length_drop, Content.length_read]
    omega

/-- A view of a span of the file at a path, whose bytes are known. -/
structure ShowsSpan (region : Region) (storage : Storage) (path : String) (bytes : List UInt8)
    (offset length : Nat) : Prop where
  /-- It is the file that is in view. -/
  leads : storage.openFile path = .ok region.object
  /-- As many bytes are in view as were asked for. -/
  capacity : region.capacity = length
  /-- They are the bytes of the file. -/
  shows : region.bytes storage = (bytes.drop offset).take length
  /-- Each of them can be loaded. -/
  each : ∀ i, i < length → ∃ byte, bytes[offset + i]? = some byte ∧
    region.loadBytes storage i 1 = .ok [byte]
  /-- The pages that it touches are mapped from the beginning of a page on. -/
  aligned : (pagesOf region.object offset length).address % pageSize = 0
  /-- It lies in its pages as it does in the file. -/
  address : region.address = (pagesOf region.object offset length).address + offset % pageSize
  /-- It shows what its pages show, without what comes before it. -/
  pages : region.bytes storage =
    ((pagesOf region.object offset length).bytes storage).drop (offset % pageSize)

/-- A span within a file shows some of its bytes. -/
theorem bytes_mapping_of_within (storage : Storage) (object : ObjectId) {offset length : Nat}
    (within : offset + length ≤ (storage.content object).size) :
    (mapping object offset length).bytes storage =
      ((storage.content object).bytes.drop offset).take length := by
  have shown := Content.read_add (storage.content object) 0 within
  rwa [Nat.zero_add] at shown

/-- A mapping of a span within a file is a view of it. -/
theorem showsSpan_mapping {path : String} {object : ObjectId} {offset length : Nat}
    (opened : storage.openFile path = .ok object)
    (within : offset + length ≤ (storage.content object).size) :
    (mapping object offset length).ShowsSpan storage path (storage.content object).bytes offset
      length := by
  have shows := bytes_mapping_of_within storage object within
  refine ⟨opened, rfl, shows, fun i here => ?_, (pagesOf_aligned object offset length).2,
    address_mapping_eq object offset length, bytes_mapping_eq_drop object offset length storage⟩
  have inside : offset + i < (storage.content object).bytes.length := by
    rw [Content.length_bytes]
    omega
  refine ⟨_, List.getElem?_eq_getElem inside, loadBytes_one ?_⟩
  rw [shows, List.getElem?_take_of_lt here, List.getElem?_drop, List.getElem?_eq_getElem inside]

end Region

namespace Storage

variable {storage : Storage} {path : String} {object : ObjectId} {offset length : Nat}

/-- How a span of an existing file is decided that the system lets be opened. -/
theorem mapSpan_of_openFile (opened : storage.openFile path = .ok object)
    (positive : length ≠ 0) (opens : storage.system.Grants (.opening path)) :
    storage.mapSpan path offset length =
      if addressSpace ≤ offset + length then .error .sumTooLarge
      else if (storage.content object).size < offset + length then
        .ok (.error (.spanPastEnd (storage.content object).size (offset + length)))
      else .ok ((storage.system.answer (.span object offset length)).map fun _ =>
        .mapping object offset length) := by
  simp only [mapSpan, if_neg positive, System.answer_of_grants opens, opened, checkedSum]
  by_cases word : offset + length < addressSpace
  · simp only [if_pos word, if_neg (Nat.not_le.2 word)]
    cases storage.system.answer (.span object offset length) <;> rfl
  · simp only [if_neg word, if_pos (Nat.not_lt.1 word)]

/-- If the system does not let a file be opened, no span of it is looked at. -/
theorem mapSpan_of_not_opens (positive : length ≠ 0)
    (refuses : ¬ storage.system.Grants (.opening path)) :
    ∃ refusal, storage.mapSpan path offset length = .ok (.error (.turnedDown refusal)) := by
  obtain ⟨refusal, refused⟩ := System.answer_of_not_grants refuses
  exact ⟨refusal, by rw [mapSpan, if_neg positive, refused]⟩

/-- What the system turns down is no file that ends too early. -/
theorem kind_turnedDown_ne (refusal : SystemRefusal) :
    (FileError.turnedDown refusal).kind ≠ .unexpectedEof := by
  cases refusal <;> exact nofun

/-- A span of a file is shown exactly if the file covers it, until its end overflows.

Nothing is changed by mapping a span.  A span of no bytes is refused as an invalid argument,
whatever the path is and wherever it leads.  Of an existing file that may be opened, a span whose
end a machine word holds is refused as one of a file that ends too early if the end is past the end
of the file, and for no other reason but that the system turns the mapping down, and otherwise it is
a view of the bytes of the file from the offset on, at a page boundary or not.  If no machine word
holds the end, then it is a fault, whatever the length of the file. -/
theorem span_exact_until_overflow {bytes : List UInt8} (held : storage.fileBytes path = .ok bytes)
    (offset length : Nat) :
    let spanEnd := offset + length
    let answer := (Opening.span path offset length).perform storage
    let opens := storage.system.Grants (.opening path)
    let maps := ∀ object, storage.openFile path = .ok object →
      storage.system.Grants (.span object offset length)
    answer.2 = storage ∧
    (0 < length →
      (opens → spanEnd < addressSpace →
        (∀ error, answer.1 = .ok (.error error) ∧ error.kind = .unexpectedEof ↔
          bytes.length < spanEnd ∧ error = .spanPastEnd bytes.length spanEnd) ∧
        (spanEnd ≤ bytes.length →
          (maps → ∃ region, answer.1 = .ok (.ok region) ∧
            region.ShowsSpan storage path bytes offset length) ∧
          (¬ maps → ∃ refusal, answer.1 = .ok (.error (.turnedDown refusal))))) ∧
      (opens → addressSpace ≤ spanEnd → answer.1 = .error .sumTooLarge) ∧
      (¬ opens → ∃ refusal, answer.1 = .ok (.error (.turnedDown refusal)))) ∧
    ∀ (elsewhere : Storage) (other : String),
      (Opening.span other offset 0).perform elsewhere = (.ok (.error .emptyMapping), elsewhere) ∧
      FileError.emptyMapping.kind = .invalidInput := by
  intro spanEnd answer opens maps
  obtain ⟨object, opened, rfl⟩ := fileBytes_eq_ok_iff.1 held
  refine ⟨rfl, fun positive => ?_, fun elsewhere other => ⟨rfl, rfl⟩⟩
  have nonzero := Nat.ne_of_gt positive
  rw [Content.length_bytes]
  refine ⟨fun opens word => ?_, fun opens overflows => ?_, mapSpan_of_not_opens nonzero⟩
  · have decided : answer.1 = _ := mapSpan_of_openFile opened nonzero opens
    rw [if_neg (Nat.not_le.2 word)] at decided
    have maps_iff : maps ↔ storage.system.Grants (.span object offset length) :=
      ⟨fun maps => maps object opened,
        fun grants _ opened' => Except.ok.inj (opened.symm.trans opened') ▸ grants⟩
    rw [decided, maps_iff]
    by_cases short : (storage.content object).size < spanEnd
    · rw [if_pos short]
      refine ⟨fun error => ?_, fun within => absurd short (Nat.not_lt.2 within)⟩
      constructor
      · rintro ⟨same, -⟩
        exact ⟨short, (Except.error.inj (Except.ok.inj same)).symm⟩
      · rintro ⟨-, rfl⟩
        exact ⟨rfl, rfl⟩
    · rw [if_neg short]
      refine ⟨fun error => ?_, fun within => ⟨fun grants => ?_, fun refuses => ?_⟩⟩
      · refine iff_of_false ?_ fun past => short past.1
        rintro ⟨refused, early⟩
        cases answered : storage.system.answer (.span object offset length) with
        | ok =>
          rw [answered] at refused
          cases refused
        | error denied =>
          obtain ⟨refusal, rfl⟩ := System.answer_eq_error answered
          rw [answered] at refused
          cases refused
          exact kind_turnedDown_ne refusal early
      · rw [System.answer_of_grants grants]
        exact ⟨_, rfl, Region.showsSpan_mapping opened within⟩
      · obtain ⟨refusal, refused⟩ := System.answer_of_not_grants refuses
        rw [refused]
        exact ⟨refusal, rfl⟩
  · exact (mapSpan_of_openFile opened nonzero opens).trans (if_pos overflows)

/-- In a file of eight bytes the last three are shown from an odd offset on, and a fourth is
refused. -/
theorem span_exact_until_overflow_odd :
    let storage := ((FileChange.overwrite "r" 0 [1, 2, 3, 4, 5, 6, 7, 8]).perform .empty).2
    (∃ region, (Opening.span "r" 5 3).perform storage = (.ok (.ok region), storage) ∧
      region.bytes storage = [6, 7, 8]) ∧
    (Opening.span "r" 5 4).perform storage = (.ok (.error (.spanPastEnd 8 9)), storage) := by
  intro storage
  have held : storage.fileBytes "r" = .ok [1, 2, 3, 4, 5, 6, 7, 8] := by decide +kernel
  have grants (demand : Demand) : storage.system.Grants demand := rfl
  obtain ⟨-, shown, -⟩ := span_exact_until_overflow held 5 3
  obtain ⟨-, refused, -⟩ := span_exact_until_overflow held 5 4
  obtain ⟨region, maps, shows⟩ := (((shown (by decide)).1 (grants _) (by decide)).2
    (by decide)).1 fun _ _ => grants _
  exact ⟨⟨region, Prod.ext maps rfl, shows.shows⟩,
    Prod.ext ((((refused (by decide)).1 (grants _) (by decide)).1 _).2 ⟨by decide, rfl⟩).1 rfl⟩

/-- A file of eight bytes does not cover the span from the last offset on, but the span is not
refused. -/
theorem span_overflow_is_not_refused :
    let storage := ((FileChange.overwrite "r" 0 [1, 2, 3, 4, 5, 6, 7, 8]).perform .empty).2
    storage.fileBytes "r" = .ok [1, 2, 3, 4, 5, 6, 7, 8] ∧ 8 < 18446744073709551615 + 1 ∧
      (Opening.span "r" 18446744073709551615 1).perform storage =
        (.error .sumTooLarge, storage) := by
  intro storage
  have held : storage.fileBytes "r" = .ok [1, 2, 3, 4, 5, 6, 7, 8] := by decide +kernel
  obtain ⟨object, opened, -⟩ := fileBytes_eq_ok_iff.1 held
  have faults : storage.mapSpan "r" 18446744073709551615 1 = .error .sumTooLarge :=
    (mapSpan_of_openFile opened Nat.one_ne_zero rfl).trans (if_pos (by decide))
  exact ⟨held, by decide, Prod.ext faults rfl⟩

end Storage

end Heartbeat
