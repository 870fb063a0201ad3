import Heartbeat.Proofs.Making
import Heartbeat.Proofs.TakeoverSteps

/-!
# What a creation leaves behind

Whatever was there before, and whatever others did meanwhile, a creation that succeeds leaves a file
at its path that has its length and belongs to its handle, and the directory that it was asked for
(`Handshake.gives_createInDirectory`).  All that it does to its clock is to read it.  The empty path
is no directory, even where it stands for one.
-/

set_option autoImplicit false

namespace Heartbeat

namespace Storage

variable {storage : Storage} {path : String} {object : ObjectId}

/-- A file that was emptied, or made, is what its path leads to. -/
theorem openFile_of_openEmptied {emptied : Storage}
    (opened : storage.openEmptied path = (.ok object, emptied)) :
    emptied.openFile path = .ok object ∧ NamesKept storage emptied := by
  obtain ⟨_, made, rfl⟩ := openEmptied_eq_ok opened
  obtain ⟨leads, kept⟩ := openFile_of_openOrCreateFile made
  exact ⟨openFile_of_namesKept (.modify _ _ _) leads, kept.trans (.modify _ _ _)⟩

/-- A file that was given its length is in place. -/
theorem inPlace_of_mapResized (layout : Layout) {length : Nat} {region : Region} {sized : Storage}
    (leads : storage.openFile path = .ok object)
    (mapped : storage.mapResized object length = (.ok region, sized)) :
    InPlace path (.ofFile layout object length) sized ∧ NamesKept storage sized := by
  obtain ⟨-, -, rfl⟩ := mapResized_eq_ok mapped
  refine ⟨⟨openFile_of_namesKept (.modify _ _ _) leads, ?_⟩, .modify _ _ _⟩
  have content := content_modify storage object object (·.resize length) (made_of_openFile leads)
  rw [if_pos rfl] at content
  exact (congrArg Content.size content).trans (Content.size_resize _ _)

end Storage

namespace Handshake

variable {handshake : Handshake} {directory filename : String} {length : Nat}

/-- A handle, its control fields and a storage are what a creation gives and leaves. -/
structure Places (handshake : Handshake) (directory filename : String) (length : Nat)
    (handle : Handle) (fields : ControlFields) (storage : Storage) : Prop where
  /-- The handle knows the directory and the path, and has the region in view. -/
  handle : handle = ⟨handshake.layout, some directory, some (Path.join directory filename),
    some ⟨fields.region, .owned⟩, false⟩
  /-- The region is a mapping of a file of the length asked for. -/
  file : ∃ object, fields = .ofFile handshake.layout object length
  /-- The region can carry the control fields. -/
  fit : fields.Fit
  /-- The path leads to that file. -/
  inPlace : InPlace (Path.join directory filename) fields storage
  /-- The directory is there, unless its path is empty. -/
  directory : directory ≠ "" → storage.isDirectory directory = true

/-- The handle is one on the control fields. -/
theorem Places.fields {handle : Handle} {fields : ControlFields} {storage : Storage}
    (places : handshake.Places directory filename length handle fields storage) :
    handle.fields = .ok fields := by
  obtain ⟨object, rfl⟩ := places.file
  rw [places.handle]
  rfl

/-- A word that is put into the region moves nothing. -/
theorem Places.put {handle : Handle} {fields : ControlFields} {storage : Storage} {α : Type}
    [StoredWord α] (places : handshake.Places directory filename length handle fields storage)
    (offset : Nat) (value : α) :
    handshake.Places directory filename length handle fields
      (fields.region.put storage offset value) :=
  ⟨places.handle, places.file, places.fit, places.inPlace.put offset value,
    fun named => Storage.isDirectory_of_namesKept (.modify _ _ _) (places.directory named)⟩

/-- The object of the region was made. -/
theorem Places.made {handle : Handle} {fields : ControlFields} {storage : Storage}
    (places : handshake.Places directory filename length handle fields storage) :
    fields.region.object < storage.objects.size := Storage.made_of_openFile places.inPlace.opened

/-- What a creation in a prepared directory leaves. -/
theorem Creates.places {world prepared : World} {object : ObjectId} {handle : Handle}
    {after : Storage} (prepares : Prepares directory world prepared)
    (creates : handshake.Creates directory filename length prepared.storage object handle after) :
    handshake.Places directory filename length handle (.ofFile handshake.layout object length)
      after := by
  obtain ⟨emptied, opened, mapped⟩ := creates.file
  obtain ⟨leads, kept⟩ := Storage.openFile_of_openEmptied opened
  obtain ⟨inPlace, kept'⟩ := Storage.inPlace_of_mapResized handshake.layout leads mapped
  obtain ⟨before, made⟩ := prepares.made
  exact ⟨creates.handle, ⟨object, rfl⟩, creates.fit, inPlace, fun named =>
    Storage.isDirectory_of_namesKept (kept.trans kept')
      (Storage.isDirectory_of_makeDirectories named made)⟩

/-- A creation that succeeds leaves its file and its directory, and all that it does to its clock is
to read it. -/
theorem gives_createInDirectory (force : Bool) (rounds : Nat) (environment : Environment) :
    ((handshake.createInDirectory directory filename length force rounds : Activity Handle).run
      environment).Gives fun handle after =>
        (∃ fields, handshake.Places directory filename length handle fields after.storage) ∧
          ∃ readings, after.clock = (environment.world.ticks readings).clock := by
  cases fits : handshake.layout.checkMappedLength length with
  | error failure =>
    rw [run_createInDirectory_of_unfit fits]
    trivial
  | ok =>
    refine (outcome_createInDirectory fits force rounds).gives.imp ?_
    rintro handle after ⟨prepared, prepares, ⟨object, creates⟩, still⟩
    obtain ⟨readings, moved⟩ := prepares.clock
    exact ⟨⟨_, creates.places prepares⟩, readings, still.trans moved⟩

end Handshake

end Heartbeat
