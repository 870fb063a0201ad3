import Heartbeat.Proofs.Creation
import Heartbeat.Proofs.PlainPaths
import Heartbeat.Proofs.TakeoverSteps

/-!
# A creation makes a new file

A creation in a directory with a plain path never empties an old file.  Either there was no
directory, or it was deleted with all that it held (`Handshake.Prepares.inversion`), so there is
nothing where the file is to be, and what is opened there is a new object
(`Handshake.Creates.fresh`).  The bytes of every other object stay as they are
(`Handshake.Prepares.objects`, `Handshake.Creates.content_eq`).
-/

set_option autoImplicit false

namespace Heartbeat

namespace Storage

variable {storage before left after : Storage} {directory filename path : String}

/-- A deletion by a plain path takes the directory away with all that it held, if there was one. -/
theorem Removes.inversion (plain : Path.Plain directory)
    (removes : storage.Removes directory left) :
    left.isDirectory directory = false ∧
      (left = storage ∨ left = storage.prune (storage.place directory)) := by
  cases located : storage.locate directory with
  | error cause =>
    have unchanged : storage.removeTree directory = (.error cause, storage) := by
      simp only [removeTree, located]
    have absent : storage.isDirectory directory = false := by simp only [isDirectory, located]
    rcases removes with removed | removed
    · cases unchanged.symm.trans removed
    · cases unchanged.symm.trans removed
      exact ⟨absent, .inl rfl⟩
  | ok found =>
    obtain ⟨location, entry⟩ := found
    cases entry with
    | file object =>
      have refused : storage.removeTree directory = (.error .notADirectory, storage) := by
        simp only [removeTree, located]
      rcases removes with removed | removed <;> cases refused.symm.trans removed
    | directory =>
      have pruned := removeTree_plain plain located
      rcases removes with removed | removed <;> cases pruned.symm.trans removed
      refine ⟨Bool.eq_false_iff.2 fun there => ?_, .inr rfl⟩
      obtain ⟨_, still⟩ := isDirectory_iff.1 there
      have found := (locate_plain plain still).2
      have gone : (storage.prune (storage.place directory)).tree.lookup (storage.place directory) =
          none := (Tree.lookup_prune _ _ _).trans
        (if_pos ⟨place_ne_nil plain, Location.within_self _⟩)
      exact nomatch gone.symm.trans found

/-- A directory that had to be made was not at its place before. -/
theorem lookup_place_of_made (plain : Path.Plain directory)
    (absent : before.isDirectory directory = false)
    (made : before.makeDirectories directory = (.ok (), after)) :
    before.tree.lookup (before.place directory) ≠ some .directory := by
  intro old
  have only := onlyDirectories_of_makeDirectories made
  obtain ⟨location, located⟩ := isDirectory_iff.1 (isDirectory_of_makeDirectories plain.spelled made)
  obtain rfl := (locate_plain plain located).1
  obtain ⟨checked, walked, -⟩ := locate_eq_directory_iff.1 located
  rw [place, only.kept.startOf_eq] at walked
  have goesUp : ".." ∉ Path.names directory := fun listed => (plain.holdable _ listed).rises rfl
  have walks := walk_of_onlyDirectories only goesUp walked (old ▸ Option.some_ne_none _)
  exact Bool.false_ne_true (absent.symm.trans
    (isDirectory_iff.2 ⟨_, locate_eq_directory_iff.2 ⟨checked, walks.1, old⟩⟩))

/-- There is no file in a directory that was just made. -/
theorem openFile_ne_of_made (plain : Path.Plain directory) (named : Path.IsFilename filename)
    (absent : before.isDirectory directory = false)
    (made : before.makeDirectories directory = (.ok (), after)) (object : ObjectId) :
    after.openFile (Path.join directory filename) ≠ .ok object := by
  intro opened
  have only := onlyDirectories_of_makeDirectories made
  obtain ⟨_, location, walked, found, _⟩ := openFile_eq_ok_iff.1 opened
  rw [only.kept.startOf_eq] at walked
  have reached := walk_of_holdable (plain.join named).holdable walked
  have holder := Tree.lookup_dropLast (only.files found)
  rw [reached, ← place, place_join plain named, List.dropLast_concat] at holder
  exact lookup_place_of_made plain absent made holder

/-- Opening a file, and emptying or making it, leaves the bytes of every other object. -/
theorem content_openEmptied {object other : ObjectId}
    (opened : storage.openEmptied path = (.ok object, after)) (apart : other ≠ object) :
    after.content other = storage.content other := by
  obtain ⟨_, made, rfl⟩ := openEmptied_eq_ok opened
  rw [content_modify_of_ne _ _ apart, content_eq_of_openOrCreateFile made]

end Storage

namespace Handshake

variable {handshake : Handshake} {directory filename : String} {length : Nat}
  {world prepared : World}

/-- However a directory with a plain path is prepared, there was none when it was made, and all that
was done before is to read the clock and to delete it. -/
theorem Prepares.inversion (plain : Path.Plain directory)
    (prepares : Prepares directory world prepared) :
    ∃ (readings : Nat) (before : Storage),
      (before = (world.ticks readings).storage ∨
        before = (world.ticks readings).storage.prune
          ((world.ticks readings).storage.place directory)) ∧
      before.isDirectory directory = false ∧
      before.makeDirectories directory = (.ok (), prepared.storage) ∧
      prepared.clock = (world.ticks readings).clock := by
  cases prepares with
  | new absent made => exact ⟨0, world.storage, .inl rfl, absent, made, rfl⟩
  | anew there removes made =>
    obtain ⟨absent, left⟩ := removes.inversion plain
    exact ⟨_, _, left, absent, made, rfl⟩

/-- What a preparation leaves of the objects is what the readings of the clock leave. -/
theorem Prepares.objects (plain : Path.Plain directory)
    (prepares : Prepares directory world prepared) :
    ∃ readings, prepared.clock = (world.ticks readings).clock ∧
      prepared.storage.objects = (world.ticks readings).storage.objects := by
  obtain ⟨readings, before, left, -, made, clock⟩ := prepares.inversion plain
  refine ⟨readings, clock, (Storage.onlyDirectories_of_makeDirectories made).objects.trans ?_⟩
  rcases left with rfl | rfl <;> rfl

/-- A creation that succeeds prepared the directory and created the file in it. -/
theorem inversion_of_created {force : Bool} {rounds : Nat} {environment after : Environment}
    {handle : Handle}
    (created : (handshake.createInDirectory directory filename length force rounds :
      Activity Handle).run environment = .returned handle after) :
    ∃ (prepared : World) (object : ObjectId), Prepares directory environment.world prepared ∧
      handshake.Creates directory filename length prepared.storage object handle after.storage ∧
      after.clock = prepared.clock := by
  cases fits : handshake.layout.checkMappedLength length with
  | error failure =>
    rw [run_createInDirectory_of_unfit fits] at created
    cases created
  | ok =>
    obtain ⟨prepared, prepares, ⟨object, creates⟩, still⟩ :=
      (outcome_createInDirectory fits force rounds).gives.of_eq created
    exact ⟨prepared, object, prepares, creates, still⟩

variable {before after : Storage} {object : ObjectId} {handle : Handle}

/-- A file that is created in a directory that was just made is a new one. -/
theorem Creates.fresh (plain : Path.Plain directory) (named : Path.IsFilename filename)
    (prepares : Prepares directory world prepared)
    (creates : handshake.Creates directory filename length prepared.storage object handle after) :
    object = prepared.storage.fresh := by
  obtain ⟨_, _, _, absent, made, _⟩ := prepares.inversion plain
  obtain ⟨_, opened, _⟩ := creates.file
  exact (Storage.openEmptied_of_absent (Storage.openFile_ne_of_made plain named absent made)
    opened).1

/-- A creation leaves the bytes of every other object. -/
theorem Creates.content_eq
    (creates : handshake.Creates directory filename length before object handle after)
    {other : ObjectId} (apart : other ≠ object) : after.content other = before.content other := by
  obtain ⟨emptied, opened, mapped⟩ := creates.file
  obtain ⟨-, -, rfl⟩ := Storage.mapResized_eq_ok mapped
  rw [Storage.content_modify_of_ne _ _ apart, Storage.content_openEmptied opened apart]

end Handshake

end Heartbeat
