import Heartbeat.Proofs.OwnerActs
import Heartbeat.Proofs.Watching

/-!
# How a region is made

An owner makes its region in small steps: a directory, an empty file, its length, the payload, a
heartbeat, the version.  `InMaking` says what may be found at any point between two of them and
`Follows` how a later point may differ from an earlier one.  Whatever an owner does, its chronicle
keeps to both (`Chronicle.Makes`), and that is all a watcher has to know
(`Chronicle.Makes.unfolds`).

Once the file has its length, an owner does nothing but put words into the region, and what has to
be shown for each of them is what it does to the version (`Chronicle.Holds.put`).
-/

set_option autoImplicit false

namespace Heartbeat

/-! ## Putting words into a region -/

namespace Content

variable {α : Type} [StoredWord α] {content : Content}

/-- The word that the bytes at an offset stand for. -/
def word (α : Type) [StoredWord α] (content : Content) (offset : Nat) : α :=
  StoredWord.ofBytes (content.read offset (StoredWord.width α))

/-- A word that was written is read back. -/
theorem word_write (content : Content) (offset : Nat) (value : α) :
    (content.write offset (StoredWord.toBytes value)).word α offset = value := by
  rw [word, ← StoredWord.length_toBytes value, read_write, StoredWord.ofBytes_toBytes]

/-- Bytes that are written elsewhere do not change a word. -/
theorem word_write_of_off {offset start : Nat} {bytes : List UInt8}
    (off : ∀ i, offset ≤ i → i < offset + StoredWord.width α →
      ¬ (start ≤ i ∧ i < start + bytes.length)) :
    (content.write start bytes).word α offset = content.word α offset := by
  refine congrArg StoredWord.ofBytes (List.map_congr_left fun i listed => ?_)
  have bound := List.mem_range.1 listed
  rw [byte_write, if_neg (off (offset + i) (by omega) (by omega))]

end Content

namespace Region

/-- The word that the bytes at an offset stand for. -/
def word (α : Type) [StoredWord α] (region : Region) (storage : Storage) (offset : Nat) : α :=
  StoredWord.ofBytes
    ((storage.content region.object).read (region.start + offset) (StoredWord.width α))

/-- The storage with other bytes at an offset, those of a word. -/
def put {α : Type} [StoredWord α] (region : Region) (storage : Storage) (offset : Nat)
    (value : α) : Storage :=
  storage.modify region.object (·.write (region.start + offset) (StoredWord.toBytes value))

variable {α β : Type} [StoredWord α] [StoredWord β] {region : Region} {storage : Storage}

section Put

variable (made : region.object < storage.objects.size) (offset : Nat) (value : α)
include made

theorem content_put : (region.put storage offset value).content region.object =
    (storage.content region.object).write (region.start + offset) (StoredWord.toBytes value) := by
  rw [put, Storage.content_modify _ _ _ _ made, if_pos rfl]

theorem word_put : region.word α (region.put storage offset value) offset = value := by
  change Content.word α _ _ = value
  rw [content_put made, Content.word_write]

theorem word_put_of_apart {other : Nat}
    (apart : other + StoredWord.width β ≤ offset ∨ offset + StoredWord.width α ≤ other) :
    region.word β (region.put storage offset value) other = region.word β storage other := by
  have length := StoredWord.length_toBytes value
  change Content.word β _ _ = Content.word β _ _
  rw [content_put made, Content.word_write_of_off fun i _ _ => by omega]

end Put

end Region

/-! ## What is found of a region in the making -/

/-- The path of a region leads to its file, which has the length of the region. -/
structure InPlace (path : String) (fields : ControlFields) (storage : Storage) : Prop where
  /-- The path leads to the file. -/
  opened : storage.openFile path = .ok fields.region.object
  /-- The file has its length. -/
  size : (storage.content fields.region.object).size = fields.region.capacity

theorem InPlace.put {path : String} {fields : ControlFields} {storage : Storage} {α : Type}
    [StoredWord α] (inPlace : InPlace path fields storage) (offset : Nat) (value : α) :
    InPlace path fields (fields.region.put storage offset value) where
  opened := Storage.openFile_of_namesKept (.modify _ _ _) inPlace.opened
  size := by
    rw [Region.content_put (Storage.made_of_openFile inPlace.opened), Content.size_write,
      inPlace.size]

/-- What may be found while an owner makes a region and afterwards. -/
structure InMaking (path : String) (fields : ControlFields) (version : Int32)
    (beaten : Milliseconds → Prop) (told : Storage → Prop) (storage : Storage) : Prop where
  /-- If the path leads to a file, then to that of the region. -/
  object : ∀ {object : ObjectId}, storage.openFile path = .ok object →
    object = fields.region.object
  /-- The file is empty, or it has its length. -/
  size : (storage.content fields.region.object).size = 0 ∨
    (storage.content fields.region.object).size = fields.region.capacity
  /-- Behind a version there is the right version, a heartbeat and the payload. -/
  published : fields.versionIn storage ≠ 0 → fields.versionIn storage = version ∧
    beaten (fields.timestampIn storage) ∧ told storage

theorem InPlace.inMaking {path : String} {fields : ControlFields} {version : Int32}
    {beaten : Milliseconds → Prop} {told : Storage → Prop} {storage : Storage}
    (inPlace : InPlace path fields storage)
    (published : fields.versionIn storage ≠ 0 → fields.versionIn storage = version ∧
      beaten (fields.timestampIn storage) ∧ told storage) :
    InMaking path fields version beaten told storage :=
  ⟨fun opened => Except.ok.inj (opened.symm.trans inPlace.opened), .inr inPlace.size, published⟩

/-- How what is found of a region may change: it does not go back. -/
structure Follows (fields : ControlFields) (before after : Storage) : Prop where
  /-- What has a name keeps it. -/
  kept : Storage.NamesKept before after
  /-- A file that is not empty keeps its length. -/
  size : (before.content fields.region.object).size ≠ 0 →
    (after.content fields.region.object).size = (before.content fields.region.object).size
  /-- What is published remains so. -/
  published : fields.versionIn before ≠ 0 → fields.versionIn after ≠ 0

namespace Follows

variable {fields : ControlFields}

theorem refl (storage : Storage) : Follows fields storage storage := ⟨.refl _, fun _ => rfl, id⟩

theorem trans {before between after : Storage} (first : Follows fields before between)
    (second : Follows fields between after) : Follows fields before after where
  kept := first.kept.trans second.kept
  size filled := by
    have same := first.size filled
    rw [second.size (same ▸ filled), same]
  published shown := second.published (first.published shown)

/-- As long as the file is empty, or is not there, there is nothing to go back on. -/
theorem of_empty {before after : Storage} (kept : Storage.NamesKept before after)
    (empty : (before.content fields.region.object).size = 0)
    (unpublished : fields.versionIn before = 0) : Follows fields before after :=
  ⟨kept, fun filled => absurd empty filled, fun shown => absurd unpublished shown⟩

end Follows

namespace Chronicle

section Making

variable {path : String} {fields : ControlFields} {version : Int32}
  {beaten : Milliseconds → Prop} {told : Storage → Prop} {chronicle : Chronicle}

/-- A chronicle of nothing but the making of a region. -/
structure Makes (path : String) (fields : ControlFields) (version : Int32)
    (beaten : Milliseconds → Prop) (told : Storage → Prop) (chronicle : Chronicle) : Prop where
  /-- Every storage is one of a region in the making. -/
  inMaking : ∀ i, InMaking path fields version beaten told (chronicle.history i)
  /-- It does not go back. -/
  follows : ∀ {i j : Nat}, i ≤ j → Follows fields (chronicle.history i) (chronicle.history j)
  /-- After its work the owner leaves everything as it is. -/
  still : ∀ {i : Nat}, chronicle.works ≤ i → chronicle.history i = chronicle.storage

namespace Makes

theorem start {storage : Storage} {times : Nat → Milliseconds}
    (inMaking : InMaking path fields version beaten told storage) :
    (Chronicle.start storage times).Makes path fields version beaten told :=
  ⟨fun _ => inMaking, fun _ => .refl _, fun _ => rfl⟩

theorem read (makes : chronicle.Makes path fields version beaten told) :
    chronicle.read.Makes path fields version beaten told :=
  ⟨makes.inMaking, makes.follows, makes.still⟩

/-- A piece of work that does not go back. -/
theorem leave (makes : chronicle.Makes path fields version beaten told) {storage : Storage}
    (inMaking : InMaking path fields version beaten told storage)
    (follows : Follows fields chronicle.storage storage) :
    (chronicle.leave storage).Makes path fields version beaten told where
  inMaking i := by
    rw [history_leave]
    split
    · exact makes.inMaking i
    · exact inMaking
  follows {i j} later := by
    rw [history_leave, history_leave]
    -- Both before the new storage, or only the earlier one, or none.
    by_cases after : j ≤ chronicle.works
    · rw [if_pos (Nat.le_trans later after), if_pos after]
      exact makes.follows later
    · rw [if_neg after]
      split
      · next before => exact (makes.follows before).trans follows
      · exact .refl _
  still {i} late := by
    rw [storage_leave]
    exact if_neg (Nat.not_le.2 late)

/-- What an owner makes unfolds before whoever meets it. -/
theorem unfolds (makes : chronicle.Makes path fields version beaten told)
    (whole : fields.region = .mapping fields.region.object 0 fields.region.capacity)
    (alive : ∀ time, beaten time → time ≠ 0) :
    Unfolds path fields version beaten told chronicle.history where
  kept later := (makes.follows later).kept
  sized {i j object} later opened room := by
    have same := (makes.inMaking i).object opened
    subst same
    -- A file with room for anything has been given its length, and there is only one length.
    have filled : ((chronicle.history i).content fields.region.object).size ≠ 0 := by
      simp only [timestampSize] at room
      omega
    rw [(makes.follows later).size filled,
      (makes.inMaking i).size.resolve_left filled]
    exact whole
  published {i j} later shown :=
    (makes.inMaking j).published ((makes.follows later).published shown)
  alive := alive

end Makes

/-- The chronicle of an owner that holds its region. -/
structure Holds (path : String) (fields : ControlFields) (version : Int32)
    (beaten : Milliseconds → Prop) (told : Storage → Prop) (chronicle : Chronicle) : Prop where
  /-- Up to now the region was made. -/
  makes : chronicle.Makes path fields version beaten told
  /-- Now it is in place. -/
  inPlace : InPlace path fields chronicle.storage

namespace Holds

theorem read (holds : chronicle.Holds path fields version beaten told) :
    chronicle.read.Holds path fields version beaten told :=
  ⟨holds.makes.read, holds.inPlace⟩

theorem made (holds : chronicle.Holds path fields version beaten told) :
    fields.region.object < chronicle.storage.objects.size :=
  Storage.made_of_openFile holds.inPlace.opened

/-- A word that is put into the region, if it does not take back the version and does not publish
one too early. -/
theorem put {α : Type} [StoredWord α] (holds : chronicle.Holds path fields version beaten told)
    (offset : Nat) (value : α)
    (stays : fields.versionIn chronicle.storage ≠ 0 →
      fields.versionIn (fields.region.put chronicle.storage offset value) ≠ 0)
    (published : fields.versionIn (fields.region.put chronicle.storage offset value) ≠ 0 →
      fields.versionIn (fields.region.put chronicle.storage offset value) = version ∧
        beaten (fields.timestampIn (fields.region.put chronicle.storage offset value)) ∧
        told (fields.region.put chronicle.storage offset value)) :
    (chronicle.leave (fields.region.put chronicle.storage offset value)).Holds path fields version
      beaten told := by
  have inPlace := holds.inPlace.put offset value
  refine ⟨holds.makes.leave (inPlace.inMaking published) ⟨.modify _ _ _, ?_, stays⟩, ?_⟩
  · intro _
    rw [inPlace.size, holds.inPlace.size]
  · rwa [storage_leave]

end Holds

end Making

end Chronicle

end Heartbeat
