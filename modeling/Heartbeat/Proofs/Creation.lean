import Heartbeat.Proofs.Granting
import Heartbeat.Proofs.Making
import Heartbeat.Takeover

/-!
# How a file comes to be

An owner that finds nothing at its directory makes the directory and the file in it.  The file is a
new one, since there was none (`Storage.Vacant`), so what others may see of it is an empty file and
then a file of zero bytes, and neither shows a version (`ensures_createInDirectory`).
-/

set_option autoImplicit false

namespace Heartbeat

/-! ## Steps of an owner -/

namespace Recording

variable {α : Type} {chronicle : Chronicle} {returned : α → Chronicle → Prop}
  {ended : Option Failure → Chronicle → Prop}

theorem ensures_look {view : Storage → Except Failure α} {value : α}
    (seen : view chronicle.storage = .ok value) (holds : returned value chronicle) :
    (Observer.look view : Recording α).Ensures chronicle returned ended :=
  .of_returned (congrArg (some · , chronicle) seen) holds

theorem ensures_ofExcept {result : Except Failure α}
    (gives : ∀ value, result = .ok value → returned value chronicle)
    (fails : ∀ failure, result = .error failure → ended (some failure) chronicle) :
    (Observer.ofExcept result : Recording α).Ensures chronicle returned ended := by
  cases result with
  | ok value => exact gives value rfl
  | error failure => exact fails failure rfl

/-- A piece of work leaves a storage whether or not it succeeds. -/
theorem ensures_work {step : Storage → Except Failure α × Storage}
    (succeeds : ∀ value, (step chronicle.storage).1 = .ok value →
      returned value (chronicle.leave (step chronicle.storage).2))
    (fails : ∀ failure, (step chronicle.storage).1 = .error failure →
      ended (some failure) (chronicle.leave (step chronicle.storage).2)) :
    (Worker.work step : Recording α).Ensures chronicle returned ended := by
  have whole : (Worker.work step : Recording α) chronicle =
      (some (step chronicle.storage).1, chronicle.leave (step chronicle.storage).2) := rfl
  cases result : (step chronicle.storage).1 with
  | ok value => exact .of_returned (by rw [whole, result]) (succeeds value result)
  | error failure => exact .of_failed (by rw [whole, result]) (fails failure result)

theorem ensures_change {step : Storage → Except Failure Storage} {after : Storage}
    {returned : Unit → Chronicle → Prop} (changes : step chronicle.storage = .ok after)
    (holds : returned () (chronicle.leave after)) :
    (Worker.change step : Recording Unit).Ensures chronicle returned ended := by
  apply ensures_work
  · intro _ _
    simp only [changes]
    exact holds
  · intro _ failed
    simp only [changes, reduceCtorEq] at failed

end Recording

/-! ## Where nothing is -/

namespace Storage

/-- There is no such directory, and no such file in it, also once the directory is there.  A path
that goes up may lead to an old file only then; for any other path it is enough that nothing is
there before (`Vacant.of_not_pathExists`). -/
structure Vacant (storage : Storage) (directory filename : String) : Prop where
  /-- The directory does not exist. -/
  absent : storage.pathExists directory = false
  /-- The path of the file does not come to lead to a file when the directory is made. -/
  free : ∀ object, (storage.makeDirectories directory).2.openFile
    (Path.join directory filename) ≠ .ok object

theorem isDirectory_of_not_pathExists {storage : Storage} {path : String}
    (absent : storage.pathExists path = false) : storage.isDirectory path = false := by
  unfold pathExists at absent
  unfold isDirectory
  cases located : storage.locate path with
  | error _ => rfl
  | ok found => simp [located, Except.toOption] at absent

/-- A path that does not go up leads to no file that it did not lead to before. -/
theorem Vacant.of_not_pathExists {storage : Storage} {directory filename : String}
    (absent : storage.pathExists directory = false)
    (free : storage.pathExists (Path.join directory filename) = false)
    (plain : ".." ∉ Path.names (Path.join directory filename)) :
    storage.Vacant directory filename := by
  refine ⟨absent, ?_⟩
  intro object opened
  have only := onlyDirectories_makeDirectories storage directory
  obtain ⟨checked, location, walked, found, noSlash⟩ := openFile_eq_ok_iff.1 opened
  have old := only.files found
  rw [only.kept.startOf_eq] at walked
  have walks := walk_of_onlyDirectories only plain walked (old ▸ Option.some_ne_none _)
  have there := pathExists_of_openFile
    (openFile_eq_ok_iff.2 ⟨checked, location, walks.1, old, noSlash⟩)
  exact Bool.false_ne_true (free.symm.trans there)

theorem content_fresh (storage : Storage) : storage.content storage.fresh = .zeros 0 := by
  unfold content fresh
  rw [Array.getElem?_eq_none (Nat.le_refl _)]
  rfl

theorem content_addFile (storage : Storage) (location : Location) :
    (storage.addFile location).content storage.fresh = .zeros 0 := by
  unfold content fresh addFile
  rw [Array.getElem?_push_size]
  rfl

/-- A new file, which is empty, changes the bytes of nothing. -/
theorem content_addFile_eq (storage : Storage) (location : Location) (object : ObjectId) :
    (storage.addFile location).content object = storage.content object := by
  by_cases new : object = storage.fresh
  · rw [new, content_addFile, content_fresh]
  · have old : object ≠ storage.objects.size := new
    unfold content addFile
    rw [Array.getElem?_push, if_neg old]

/-- Whether a file is opened or made, no bytes are changed. -/
theorem content_eq_of_openOrCreateFile {storage opened : Storage} {path : String}
    {object : ObjectId} (made : storage.openOrCreateFile path = .ok (object, opened))
    (other : ObjectId) : opened.content other = storage.content other := by
  obtain ⟨_, _, _, _, _, ⟨_, rfl⟩ | ⟨_, rfl, rfl⟩⟩ := openOrCreateFile_eq_ok made
  · rfl
  · exact content_addFile_eq _ _ other

/-- Where there is no file, a new one is made and not an old one emptied. -/
theorem openEmptied_of_absent {storage after : Storage} {path : String} {object : ObjectId}
    (absent : ∀ object, storage.openFile path ≠ .ok object)
    (opened : storage.openEmptied path = (.ok object, after)) :
    object = storage.fresh ∧ after.openFile path = .ok object ∧ NamesKept storage after ∧
      after.content object = (Content.zeros 0).resize 0 := by
  obtain ⟨grown, made, rfl⟩ := openEmptied_eq_ok opened
  obtain ⟨leads, kept⟩ := openFile_of_openOrCreateFile made
  obtain ⟨_, _, _, _, _, ⟨_, same⟩ | ⟨_, rfl, rfl⟩⟩ := openOrCreateFile_eq_ok made
  · -- An existing file would have been found before.
    exact absurd (same ▸ leads) (absent object)
  · have exists' := made_of_openFile leads
    refine ⟨rfl, openFile_of_namesKept (.modify _ _ _) leads, kept.trans (.modify _ _ _), ?_⟩
    rw [content_modify _ _ _ _ exists', if_pos rfl, content_addFile]

end Storage

/-! ## A file of zero bytes -/

namespace ControlFields

variable {fields : ControlFields} {storage : Storage}

/-- Bytes that are all zero show no version. -/
theorem versionIn_eq_zero (zero : ∀ i, (storage.content fields.region.object).byte i = 0) :
    fields.versionIn storage = 0 := by
  rw [versionIn, Content.read_of_zero zero]
  decide

/-- Bytes that are all zero show no heartbeat. -/
theorem timestampIn_eq_zero (zero : ∀ i, (storage.content fields.region.object).byte i = 0) :
    fields.timestampIn storage = 0 := by
  rw [timestampIn, Content.read_of_zero zero]
  decide

/-- The file of a region is empty, or is not there yet. -/
structure Blank (fields : ControlFields) (storage : Storage) : Prop where
  size : (storage.content fields.region.object).size = 0
  zero : ∀ i, (storage.content fields.region.object).byte i = 0

variable {path : String} {version : Int32} {beaten : Milliseconds → Prop}
  {told : Storage → Prop}

theorem Blank.inMaking (blank : fields.Blank storage)
    (object : ∀ {object : ObjectId}, storage.openFile path = .ok object →
      object = fields.region.object) : InMaking path fields version beaten told storage :=
  ⟨object, .inl blank.size, fun shown => absurd (versionIn_eq_zero blank.zero) shown⟩

theorem Blank.follows (blank : fields.Blank storage) {after : Storage}
    (kept : Storage.NamesKept storage after) : Follows fields storage after :=
  .of_empty kept blank.size (versionIn_eq_zero blank.zero)

/-- An empty file that is given the length of the region is the region, and shows no version. -/
theorem Blank.resize (blank : fields.Blank storage)
    (leads : storage.openFile path = .ok fields.region.object) :
    InPlace path fields (storage.modify fields.region.object (·.resize fields.region.capacity)) ∧
      fields.versionIn
        (storage.modify fields.region.object (·.resize fields.region.capacity)) = 0 := by
  have content := Storage.content_modify storage fields.region.object fields.region.object
    (·.resize fields.region.capacity) (Storage.made_of_openFile leads)
  rw [if_pos rfl] at content
  refine ⟨⟨Storage.openFile_of_namesKept (.modify _ _ _) leads, ?_⟩,
    versionIn_eq_zero ?_⟩
  · rw [content, Content.size_resize]
  · intro i
    rw [content, Content.byte_resize, blank.zero, ite_self]

end ControlFields

namespace Handshake

variable {handshake : Handshake} {directory filename : String} {length : Nat}
  {version : Int32} {beaten : Milliseconds → Prop} {told : Storage → Prop}

section File

variable {path : String} {fields : ControlFields} {chronicle : Chronicle} {task : String}

/-- A file is made where none was, and it is empty. -/
theorem ensures_openEmptied (makes : chronicle.Makes path fields version beaten told)
    (absent : ∀ object, chronicle.storage.openFile path ≠ .ok object)
    (blank : fields.Blank chronicle.storage)
    (fresh : chronicle.storage.fresh = fields.region.object) :
    (Worker.work fun storage =>
        if length = 0 then (filesResult task path (.error .emptyMapping), storage)
        else
          let opened := storage.openEmptied path
          (filesResult task path opened.1, opened.2) : Recording ObjectId).Ensures chronicle
      (fun made after => made = fields.region.object ∧
        after.Makes path fields version beaten told ∧
        after.storage.openFile path = .ok fields.region.object ∧ fields.Blank after.storage ∧
        after.times = chronicle.times ∧ after.reads = chronicle.reads)
      (fun _ after => after.Makes path fields version beaten told) := by
  have unchanged : (chronicle.leave chronicle.storage).Makes path fields version beaten told :=
    makes.leave (blank.inMaking fun opened => absurd opened (absent _)) (.refl _)
  rcases emptied : chronicle.storage.openEmptied path with ⟨result, left⟩
  apply Recording.ensures_work
  · intro made opened
    by_cases none : length = 0
    · simp only [if_pos none, filesResult, reduceCtorEq] at opened
    simp only [if_neg none, emptied] at opened ⊢
    cases result with
    | error _ => simp only [filesResult, reduceCtorEq] at opened
    | ok other =>
      cases opened
      obtain ⟨same, leads, kept, content⟩ := Storage.openEmptied_of_absent absent emptied
      obtain rfl := same.trans fresh
      have empty : fields.Blank left := by
        refine ⟨?_, ?_⟩
        · rw [content, Content.size_resize]
        · intro i
          rw [content, Content.byte_resize, Content.byte_zeros, ite_self]
      refine ⟨rfl, makes.leave (empty.inMaking ?_) (blank.follows kept), ?_, ?_, rfl, rfl⟩
      · intro _ opened
        exact Except.ok.inj (opened.symm.trans leads)
      · rwa [Chronicle.storage_leave]
      · rwa [Chronicle.storage_leave]
  · intro failure unopened
    by_cases none : length = 0
    · simp only [if_pos none]
      exact unchanged
    simp only [if_neg none, emptied] at unopened ⊢
    cases result with
    | ok _ => simp only [filesResult, reduceCtorEq] at unopened
    | error _ => exact Storage.openEmptied_eq_error emptied ▸ unchanged

/-- An empty file is given its length and mapped.  If it is the mapping that fails, the file has its
length, and shows no version. -/
theorem ensures_mapResized (makes : chronicle.Makes path fields version beaten told)
    (leads : chronicle.storage.openFile path = .ok fields.region.object)
    (blank : fields.Blank chronicle.storage)
    (whole : fields.region = .mapping fields.region.object 0 fields.region.capacity) :
    (Worker.work fun storage =>
        let mapped := storage.mapResized fields.region.object fields.region.capacity
        (filesResult task path mapped.1, mapped.2) : Recording Region).Ensures chronicle
      (fun region after => region = fields.region ∧
        after.Holds path fields version beaten told ∧ fields.versionIn after.storage = 0 ∧
        after.times = chronicle.times ∧ after.reads = chronicle.reads)
      (fun _ after => after.Makes path fields version beaten told) := by
  obtain ⟨inPlace, still⟩ := blank.resize leads
  have sized : (chronicle.leave (chronicle.storage.modify fields.region.object
      (·.resize fields.region.capacity))).Makes path fields version beaten told :=
    makes.leave (inPlace.inMaking fun shown => absurd still shown) (blank.follows (.modify _ _ _))
  rcases resized : chronicle.storage.mapResized fields.region.object fields.region.capacity with
    ⟨result, left⟩
  apply Recording.ensures_work
  · intro region mapped
    simp only [resized] at mapped ⊢
    obtain rfl := filesResult_eq_ok_iff.1 mapped
    obtain ⟨-, rfl, rfl⟩ := Storage.mapResized_eq_ok resized
    refine ⟨whole.symm, ⟨sized, ?_⟩, ?_, rfl, rfl⟩
    · rwa [Chronicle.storage_leave]
    · rwa [Chronicle.storage_leave]
  · intro _ _
    have remains := Storage.mapResized_snd chronicle.storage fields.region.object
      fields.region.capacity
    simp only [resized] at remains ⊢
    rcases remains with rfl | rfl
    · exact makes.leave
        (blank.inMaking fun opened => Except.ok.inj (opened.symm.trans leads)) (.refl _)
    · exact sized

end File

/-- A new file is empty first and then has its length, and all its bytes are zero. -/
theorem ensures_createFile {path : String} (place : path = Path.join directory filename)
    {object : ObjectId} {fields : ControlFields}
    (file : fields = .ofFile handshake.layout object length) {chronicle : Chronicle}
    (makes : chronicle.Makes path fields version beaten told)
    (absent : ∀ object, chronicle.storage.openFile path ≠ .ok object)
    (blank : fields.Blank chronicle.storage) (fresh : chronicle.storage.fresh = object) :
    (handshake.createFile directory filename length : Recording Handle).Ensures chronicle
      (fun handle after => handle.fields = .ok fields ∧ fields.Fit ∧
        after.Holds path fields version beaten told ∧ fields.versionIn after.storage = 0 ∧
        after.times = chronicle.times ∧ after.reads = chronicle.reads)
      (fun _ after => after.Makes path fields version beaten told) := by
  subst place file
  refine .bind ((ensures_openEmptied makes absent blank fresh).imp ?_ fun _ _ makes => makes)
  rintro _ opened ⟨rfl, makes, leads, empty, times, reads⟩
  refine .bind ((ensures_mapResized makes leads empty rfl).imp ?_ fun _ _ makes => makes)
  rintro _ after ⟨rfl, holds, unpublished, times', reads'⟩
  refine .bind (.of_returned rfl ?_)
  refine Recording.ensures_ofExcept ?_ fun _ _ => holds.makes
  intro handle given
  unfold Handle.ofView at given
  split at given
  · cases given
  · next fit =>
    cases given
    exact ⟨rfl, fit, holds, unpublished, times'.trans times, reads'.trans reads⟩

/-- Where no directory is, there is nothing to protect and nothing to delete. -/
theorem ensures_prepareDirectory {start : Storage} (absent : start.pathExists directory = false)
    (force : Bool) (rounds : Nat) (times : Nat → Milliseconds) :
    (handshake.prepareDirectory directory filename force rounds : Recording Unit).Ensures
      (.start start times)
      (fun _ after => after =
        (Chronicle.start start times).leave (start.makeDirectories directory).2)
      (fun _ after => after =
        (Chronicle.start start times).leave (start.makeDirectories directory).2) := by
  unfold prepareDirectory
  refine .bind (Recording.ensures_look (congrArg Except.ok
    (Storage.isDirectory_of_not_pathExists absent)) ?_)
  simp only [Bool.false_eq_true, if_false]
  exact Recording.ensures_work (fun _ _ => rfl) fun _ _ => rfl

/-- Where nothing is, an owner makes a directory and a file of zero bytes. -/
theorem ensures_createInDirectory {start : Storage} (vacant : start.Vacant directory filename)
    {path : String} (place : path = Path.join directory filename) {fields : ControlFields}
    (file : fields = .ofFile handshake.layout start.fresh length) (force : Bool) (rounds : Nat)
    (times : Nat → Milliseconds) :
    (handshake.createInDirectory directory filename length force rounds :
        Recording Handle).Ensures (.start start times)
      (fun handle after => handle.fields = .ok fields ∧ fields.Fit ∧
        after.Holds path fields version beaten told ∧ fields.versionIn after.storage = 0 ∧
        after.times = times ∧ after.reads = 0)
      (fun _ after => after.Makes path fields version beaten told) := by
  have only := Storage.onlyDirectories_makeDirectories start directory
  have content (storage : Storage) (same : storage.objects = start.objects) :
      storage.content fields.region.object = .zeros 0 := by
    rw [file]
    exact (congrArg (fun objects : Array Content => (objects[start.fresh]?).getD (Content.zeros 0))
      same).trans start.content_fresh
  have blank (storage : Storage) (same : storage.objects = start.objects) :
      fields.Blank storage :=
    ⟨congrArg Content.size (content storage same),
      fun i => congrArg (Content.byte · i) (content storage same)⟩
  -- A file that the path led to before would still be there when the directory is made.
  have makes : (Chronicle.start start times).Makes path fields version beaten told :=
    .start ((blank start rfl).inMaking fun opened =>
      absurd (place ▸ Storage.openFile_of_namesKept only.kept opened) (vacant.free _))
  have makes' := makes.leave
    ((blank _ only.objects).inMaking fun opened => absurd (place ▸ opened) (vacant.free _))
    ((blank start rfl).follows only.kept)
  have now := (Chronicle.start start times).storage_leave (start.makeDirectories directory).2
  refine .bind (Recording.ensures_ofExcept ?_ fun _ _ => makes)
  intro _ _
  refine .bind ((ensures_prepareDirectory vacant.absent force rounds times).imp ?_
    fun _ _ same => same ▸ makes')
  rintro _ _ rfl
  apply ensures_createFile place file makes'
  · rw [now, place]
    exact vacant.free
  · rw [now]
    exact blank _ only.objects
  · rw [now]
    exact congrArg Array.size only.objects

end Handshake

end Heartbeat
