import Heartbeat.Proofs.Guard
import Heartbeat.Proofs.Resolution

/-!
# What an owner does to its file

The owner of a file publishes versions and writes heartbeats, and meanwhile clocks are set.  None of
this makes, removes, renames or shortens anything: it changes bytes of the one file, at places that
the layout fixes.

Two storages are compared in two respects.  `SameBut` says that they differ in the bytes of one file
only, and `Content.Lengthens` that one content is another one with zero bytes added at the end.
Owner's acts keep both comparisons (`SharesFile.afterActs`), so a file that was lengthened somewhere
on the way still shows what the acts alone would have left in it.
-/

set_option autoImplicit false

namespace Heartbeat

/-! ## Bytes -/

namespace Content

/-- A content is another one with zero bytes added at the end. -/
structure Lengthens (alone lengthened : Content) : Prop where
  /-- No byte is lost. -/
  size : alone.size ≤ lengthened.size
  /-- Every byte is the same. -/
  same : ∀ i, i < alone.size → lengthened.byte i = alone.byte i
  /-- The bytes that were added are zero. -/
  zero : ∀ i, alone.size ≤ i → i < lengthened.size → lengthened.byte i = 0

theorem Lengthens.refl (content : Content) : Lengthens content content :=
  ⟨Nat.le_refl _, fun _ _ => rfl, fun _ outside inside => absurd inside (Nat.not_lt.2 outside)⟩

theorem Lengthens.trans {alone between lengthened : Content} (first : Lengthens alone between)
    (second : Lengthens between lengthened) : Lengthens alone lengthened := by
  refine ⟨Nat.le_trans first.size second.size, ?_, ?_⟩
  · intro i inside
    rw [second.same i (Nat.lt_of_lt_of_le inside first.size), first.same i inside]
  · intro i outside inside
    by_cases before : i < between.size
    · rw [second.same i before, first.zero i outside before]
    · exact second.zero i (Nat.not_lt.1 before) inside

/-- Growing a file adds zero bytes at the end. -/
theorem Lengthens.resize {content : Content} {size : Nat} (grows : content.size ≤ size) :
    Lengthens content (content.resize size) := by
  refine ⟨grows, ?_, ?_⟩
  · intro i inside
    rw [byte_resize, if_pos (by omega)]
  · intro i outside _
    rw [byte_resize, if_neg (by omega)]

variable {content : Content} {offset : Nat} {bytes : List UInt8}

/-- Overwriting bytes within a file does not change its size. -/
theorem size_overwrite (inside : offset + bytes.length ≤ content.size) :
    (content.overwrite offset bytes).size = content.size := by
  unfold overwrite
  split
  · rfl
  · simp only [size_write, size_resize]
    omega

/-- Overwriting bytes within a file sets them and keeps all others. -/
theorem byte_overwrite (inside : offset + bytes.length ≤ content.size) {i : Nat}
    (stored : i < content.size) :
    (content.overwrite offset bytes).byte i =
      if offset ≤ i ∧ i < offset + bytes.length then bytes.getD (i - offset) 0
      else content.byte i := by
  unfold overwrite
  split
  · next empty =>
    rw [List.isEmpty_iff.1 empty, if_neg]
    simp only [List.length_nil]
    omega
  · simp only [byte_write, byte_resize]
    split
    · rfl
    · rw [if_pos (by omega)]

/-- Contents that differ in their length still do so after both were overwritten. -/
theorem Lengthens.overwrite {alone lengthened : Content} (longer : Lengthens alone lengthened)
    (inside : offset + bytes.length ≤ alone.size) :
    Lengthens (alone.overwrite offset bytes) (lengthened.overwrite offset bytes) := by
  have known := longer.size
  have within : offset + bytes.length ≤ lengthened.size := by omega
  refine ⟨?_, ?_, ?_⟩
  · rwa [size_overwrite inside, size_overwrite within]
  · intro i stored
    rw [size_overwrite inside] at stored
    rw [byte_overwrite inside stored, byte_overwrite within (by omega), longer.same i stored]
  · intro i outside stored
    rw [size_overwrite inside] at outside
    rw [size_overwrite within] at stored
    rw [byte_overwrite within stored, if_neg (by omega), longer.zero i outside stored]

/-- Contents that differ in their length show the same bytes where both have some. -/
theorem Lengthens.read {alone lengthened : Content} (longer : Lengthens alone lengthened)
    {length : Nat} (inside : offset + length ≤ alone.size) :
    lengthened.read offset length = alone.read offset length := by
  apply List.map_congr_left
  intro i listed
  apply longer.same
  have bound := List.mem_range.1 listed
  omega

end Content

/-! ## Storages that differ in one file -/

namespace Storage

/-- Two storages have the same names and differ at most in the bytes of one object. -/
structure SameBut (object : ObjectId) (before after : Storage) : Prop where
  /-- Every directory and every file keeps its place. -/
  tree : after.tree = before.tree
  /-- Relative paths start where they did. -/
  workingDirectory : after.workingDirectory = before.workingDirectory
  /-- The named memories are the same. -/
  memories : after.memories = before.memories
  /-- Nothing is made. -/
  made : after.objects.size = before.objects.size
  /-- The bytes of every other object are the same. -/
  others : ∀ other, other ≠ object → after.content other = before.content other

namespace SameBut

variable {object : ObjectId} {before after : Storage}

theorem refl (object : ObjectId) (storage : Storage) : SameBut object storage storage :=
  ⟨rfl, rfl, rfl, rfl, fun _ _ => rfl⟩

theorem trans {between : Storage} (first : SameBut object before between)
    (second : SameBut object between after) : SameBut object before after where
  tree := second.tree.trans first.tree
  workingDirectory := second.workingDirectory.trans first.workingDirectory
  memories := second.memories.trans first.memories
  made := second.made.trans first.made
  others other apart := (second.others other apart).trans (first.others other apart)

theorem symm (same : SameBut object before after) : SameBut object after before where
  tree := same.tree.symm
  workingDirectory := same.workingDirectory.symm
  memories := same.memories.symm
  made := same.made.symm
  others other apart := (same.others other apart).symm

theorem namesKept (same : SameBut object before after) : NamesKept before after :=
  ⟨same.workingDirectory, fun found => by rwa [same.tree]⟩

/-- Changing the bytes of one object changes nothing else. -/
theorem modify (storage : Storage) (change : Content → Content)
    (made : object < storage.objects.size) :
    SameBut object storage (storage.modify object change) where
  tree := rfl
  workingDirectory := rfl
  memories := rfl
  made := Array.size_modify
  others other apart := by rw [content_modify _ _ _ _ made, if_neg apart]

end SameBut

/-- What is found as a file has a name. -/
theorem mem_objects_of_lookup {storage : Storage} {location : Location} {object : ObjectId}
    (found : storage.tree.lookup location = some (.file object)) :
    object ∈ storage.tree.objects := by
  have below : location ≠ [] := by
    rintro rfl
    exact absurd (storage.tree.lookup_root.symm.trans found) nofun
  exact Tree.mem_objects_iff.2 ⟨location, Tree.mem_entries_iff.2 ⟨below, found⟩⟩

/-- The object of a file has a name. -/
theorem mem_objects_of_openFile {storage : Storage} {path : String} {object : ObjectId}
    (opened : storage.openFile path = .ok object) : object ∈ storage.tree.objects := by
  obtain ⟨_, _, _, found, _⟩ := openFile_eq_ok_iff.1 opened
  exact mem_objects_of_lookup found

/-- The object of a file was made. -/
theorem made_of_openFile {storage : Storage} {path : String} {object : ObjectId}
    (opened : storage.openFile path = .ok object) : object < storage.objects.size :=
  storage.named object (mem_objects_of_openFile opened)

/-- Overwriting bytes of a file by its path changes the bytes of its object. -/
theorem afterActs_overwrite {storage : Storage} {path : String} {object : ObjectId}
    (opened : storage.openFile path = .ok object) (offset : Nat) (bytes : List UInt8) :
    storage.afterActs [.files (.overwrite path offset bytes)] =
      storage.modify object (·.overwrite offset bytes) := by
  change (FileChange.perform (.overwrite path offset bytes) storage).2 = _
  simp only [FileChange.perform, overwriteFile, openOrCreateFile_of_openFile opened,
    FileChange.settle]

end Storage

/-! ## Acts of an owner -/

/-- What happens while the owner of a file is alone with it: it publishes versions and writes
heartbeats, and clocks are set. -/
inductive OwnerAct (path : String) (layout : Layout) : Act → Prop where
  /-- A clock is set. -/
  | setTime (time : Milliseconds) : OwnerAct path layout (.setTime time)
  /-- A version is published. -/
  | publish (version : Int32) : OwnerAct path layout
      (.files (.overwrite path layout.versionOffset (StoredWord.toBytes version)))
  /-- A heartbeat is written. -/
  | beat (time : Milliseconds) : OwnerAct path layout
      (.files (.overwrite path layout.timestampOffset (StoredWord.toBytes time)))

section Owner

variable {path : String} {layout : Layout} {object : ObjectId} {act : Act}

/-- An owner writes nothing past the control fields. -/
theorem OwnerAct.overwrites (owner : OwnerAct path layout act) :
    (∃ time, act = .setTime time) ∨
      ∃ offset bytes, offset + bytes.length ≤ layout.timestampOffset + timestampSize ∧
        act = .files (.overwrite path offset bytes) := by
  have ordered := layout.ordered
  cases owner with
  | setTime time => exact .inl ⟨time, rfl⟩
  | publish version =>
    refine .inr ⟨_, _, ?_, rfl⟩
    have width : (StoredWord.toBytes version).length = 4 := StoredWord.length_toBytes version
    simp only [versionSize, timestampSize] at *
    omega
  | beat time =>
    refine .inr ⟨_, _, ?_, rfl⟩
    have width : (StoredWord.toBytes time).length = 8 := StoredWord.length_toBytes time
    simp only [timestampSize]
    omega

/-- A file with room for the control fields in two storages that differ only in what was added to
its end. -/
structure SharesFile (path : String) (layout : Layout) (object : ObjectId)
    (alone lengthened : Storage) : Prop where
  /-- The file has room for the control fields. -/
  has : alone.HasFields path layout object
  /-- There is no other difference. -/
  same : Storage.SameBut object alone lengthened
  /-- The file is the same but for zero bytes at the end. -/
  longer : (alone.content object).Lengthens (lengthened.content object)

namespace SharesFile

variable {alone lengthened : Storage}

theorem refl (has : alone.HasFields path layout object) :
    SharesFile path layout object alone alone := ⟨has, .refl _ _, .refl _⟩

/-- The lengthened file has room for the control fields as well. -/
theorem hasFields (shares : SharesFile path layout object alone lengthened) :
    lengthened.HasFields path layout object :=
  ⟨Storage.openFile_of_namesKept shares.same.namesKept shares.has.1,
    Nat.le_trans shares.has.2 shares.longer.size⟩

theorem trans {between : Storage} (first : SharesFile path layout object alone between)
    (second : SharesFile path layout object between lengthened) :
    SharesFile path layout object alone lengthened :=
  ⟨first.has, first.same.trans second.same, first.longer.trans second.longer⟩

/-- Growing a file adds nothing but zero bytes to its end. -/
theorem resize {storage : Storage} (has : storage.HasFields path layout object) {size : Nat}
    (grows : (storage.content object).size ≤ size) :
    SharesFile path layout object storage (storage.modify object (·.resize size)) := by
  have made := Storage.made_of_openFile has.1
  refine ⟨has, .modify _ _ made, ?_⟩
  rw [Storage.content_modify _ _ _ _ made, if_pos rfl]
  exact .resize grows

/-- What the system grants makes no difference to a file. -/
theorem under (shares : SharesFile path layout object alone lengthened) (system : System) :
    SharesFile path layout object alone (lengthened.under system) :=
  have same := shares.same
  ⟨shares.has, ⟨same.tree, same.workingDirectory, same.memories, same.made, same.others⟩,
    shares.longer⟩

/-- Both storages show the same version. -/
theorem versionIn (shares : SharesFile path layout object alone lengthened) (length : Nat) :
    (ControlFields.ofFile layout object length).versionIn lengthened =
      (ControlFields.ofFile layout object length).versionIn alone := by
  have ordered := layout.ordered
  have room := shares.has.2
  refine congrArg StoredWord.ofBytes (shares.longer.read ?_)
  simp only [ControlFields.ofFile, Region.mapping]
  omega

/-- Both storages show the same timestamp. -/
theorem timestampIn (shares : SharesFile path layout object alone lengthened) (length : Nat) :
    (ControlFields.ofFile layout object length).timestampIn lengthened =
      (ControlFields.ofFile layout object length).timestampIn alone := by
  have room := shares.has.2
  refine congrArg StoredWord.ofBytes (shares.longer.read ?_)
  simp only [ControlFields.ofFile, Region.mapping]
  omega

/-- Overwriting the control fields in both storages is no new difference. -/
theorem overwrite (shares : SharesFile path layout object alone lengthened) {offset : Nat}
    {bytes : List UInt8}
    (inside : offset + bytes.length ≤ layout.timestampOffset + timestampSize) :
    SharesFile path layout object (alone.modify object (·.overwrite offset bytes))
      (lengthened.modify object (·.overwrite offset bytes)) := by
  have madeAlone := Storage.made_of_openFile shares.has.1
  have made := Storage.made_of_openFile shares.hasFields.1
  have kept : Storage.SameBut object alone (alone.modify object (·.overwrite offset bytes)) :=
    .modify _ _ madeAlone
  have within : offset + bytes.length ≤ (alone.content object).size :=
    Nat.le_trans inside shares.has.2
  refine ⟨⟨Storage.openFile_of_namesKept kept.namesKept shares.has.1, ?_⟩,
    kept.symm.trans (shares.same.trans (.modify _ _ made)), ?_⟩
  · rw [Storage.content_modify _ _ _ _ madeAlone, if_pos rfl, Content.size_overwrite within]
    exact shares.has.2
  · rw [Storage.content_modify _ _ _ _ madeAlone, if_pos rfl,
      Storage.content_modify _ _ _ _ made, if_pos rfl]
    exact shares.longer.overwrite within

/-- Acts of the owner are no new difference. -/
theorem afterActs (shares : SharesFile path layout object alone lengthened) {acts : List Act}
    (owner : ∀ act ∈ acts, OwnerAct path layout act) :
    SharesFile path layout object (alone.afterActs acts) (lengthened.afterActs acts) := by
  induction acts generalizing alone lengthened with
  | nil => exact shares
  | cons act acts ih =>
    rw [Storage.afterActs_cons, Storage.afterActs_cons lengthened]
    refine ih ?_ fun other listed => owner other (List.mem_cons_of_mem _ listed)
    rcases (owner act (List.mem_cons_self ..)).overwrites with
      ⟨time, rfl⟩ | ⟨offset, bytes, inside, rfl⟩
    · exact shares
    · rw [Storage.afterActs_overwrite shares.has.1,
        Storage.afterActs_overwrite shares.hasFields.1]
      exact shares.overwrite inside

end SharesFile

/-- Acts of the owner leave everything as it is but the bytes of the file, and it keeps its length.
-/
theorem afterActs_sameBut {storage : Storage} (has : storage.HasFields path layout object)
    {acts : List Act} (owner : ∀ act ∈ acts, OwnerAct path layout act) :
    Storage.SameBut object storage (storage.afterActs acts) ∧
      ((storage.afterActs acts).content object).size = (storage.content object).size := by
  induction acts generalizing storage with
  | nil => exact ⟨.refl _ _, rfl⟩
  | cons act acts ih =>
    rw [Storage.afterActs_cons]
    have rest : ∀ other ∈ acts, OwnerAct path layout other :=
      fun other listed => owner other (List.mem_cons_of_mem _ listed)
    rcases (owner act (List.mem_cons_self ..)).overwrites with
      ⟨time, rfl⟩ | ⟨offset, bytes, inside, rfl⟩
    · exact ih has rest
    · have made := Storage.made_of_openFile has.1
      have within : offset + bytes.length ≤ (storage.content object).size :=
        Nat.le_trans inside has.2
      have sized : ((storage.modify object (·.overwrite offset bytes)).content object).size =
          (storage.content object).size := by
        rw [Storage.content_modify _ _ _ _ made, if_pos rfl, Content.size_overwrite within]
      rw [Storage.afterActs_overwrite has.1]
      obtain ⟨same, length⟩ :=
        ih ((SharesFile.refl has).overwrite inside).hasFields rest
      exact ⟨.trans (.modify _ _ made) same, length.trans sized⟩

/-- Overwriting a word by the path of a file comes to the same as storing it through a mapping,
which is what an owner does. -/
theorem afterActs_overwrite_of_store {α : Type} [StoredWord α] {storage : Storage}
    (has : storage.HasFields path layout object) {length offset : Nat} (value : α)
    (inside : offset + StoredWord.width α ≤ layout.timestampOffset + timestampSize)
    (access : (Region.mapping object 0 length).checkAccess offset (StoredWord.width α)
      (StoredWord.width α) = .ok ()) :
    ∃ stored, (Region.mapping object 0 length).store storage offset value = .ok stored ∧
      SharesFile path layout object stored
        (storage.afterActs [.files (.overwrite path offset (StoredWord.toBytes value))]) := by
  have made := Storage.made_of_openFile has.1
  have within : offset + (StoredWord.toBytes value).length ≤ (storage.content object).size := by
    rw [StoredWord.length_toBytes]
    exact Nat.le_trans inside has.2
  have kept (change : Content → Content) :
      Storage.SameBut object storage (storage.modify object change) := .modify _ _ made
  refine ⟨_, Region.store_eq_ok access storage value, ⟨?_, ?_⟩, ?_, ?_⟩
  · exact Storage.openFile_of_namesKept (kept _).namesKept has.1
  · rw [show (Region.mapping object 0 length).object = object from rfl,
      Storage.content_modify _ _ _ _ made, if_pos rfl]
    exact has.2
  · rw [Storage.afterActs_overwrite has.1]
    exact (kept _).symm.trans (kept _)
  · rw [Storage.afterActs_overwrite has.1, show (Region.mapping object 0 length).object = object
      from rfl, Storage.content_modify _ _ _ _ made, if_pos rfl,
      Storage.content_modify _ _ _ _ made, if_pos rfl]
    have start : (Region.mapping object 0 length).start + offset = offset := Nat.zero_add _
    refine ⟨?_, ?_, ?_⟩
    · rw [Content.size_overwrite within]
      exact Nat.le_refl _
    · intro i stored
      rw [Content.byte_overwrite within stored, start, Content.byte_write]
    · intro i outside stored
      rw [Content.size_overwrite within] at stored
      exact absurd stored (Nat.not_lt.2 outside)

end Owner

end Heartbeat
