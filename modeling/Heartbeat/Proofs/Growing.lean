import Heartbeat.Proofs.Resolution
import Heartbeat.Proofs.World
import Mathlib.Logic.Relation

/-!
# What all acts of others are made of

Whatever others do, they do it in elementary changes: the bytes of one object are changed, a file or
a directory is added, names are removed or moved (`Storage.Alters`).  Each operation on files and
each store into a memory is a series of such changes, so all that happens while a clock is read is
one, too (`Storage.Altered.ticks`), and what no elementary change touches is never touched.

Deleting a file takes its name away and leaves its object, so the objects of a storage only become
more (`Storage.Grows.ticks`).  And no change moves the directory from which relative paths start, so
a path is always looked for at the same place (`Storage.workingDirectory_afterActs`).
-/

set_option autoImplicit false

namespace Heartbeat.Storage

/-! ## Elementary changes -/

/-- An elementary change of a storage. -/
inductive Alters : Storage → Storage → Prop where
  | modify (storage : Storage) (object : ObjectId) (change : Content → Content) :
      Alters storage (storage.modify object change)
  | addFile (storage : Storage) (location : Location) : Alters storage (storage.addFile location)
  | addDirectory (storage : Storage) (location : Location) :
      Alters storage (storage.addDirectory location)
  | prune (storage : Storage) (top : Location) : Alters storage (storage.prune top)
  | clear (storage : Storage) (top : Location) : Alters storage (storage.clear top)
  | move (storage : Storage) (source target : Location) :
      Alters storage (storage.move source target)

/-- One storage comes from another by elementary changes. -/
abbrev Altered : Storage → Storage → Prop := Relation.ReflTransGen Alters

namespace Altered

variable {before between after storage : Storage} {path : String}

theorem openOrCreateFile {object : ObjectId}
    (made : before.openOrCreateFile path = .ok (object, after)) : before.Altered after := by
  obtain ⟨_, _, _, _, _, ⟨_, rfl⟩ | ⟨_, _, rfl⟩⟩ := openOrCreateFile_eq_ok made
  · exact .refl
  · exact .single (.addFile _ _)

theorem makeDirectory (made : before.makeDirectory path = .ok after) : before.Altered after := by
  unfold Storage.makeDirectory at made
  repeat' split at made
  all_goals cases made
  exact .single (.addDirectory _ _)

theorem removeEmptied (storage : Storage) (path : String) :
    storage.Altered (storage.removeEmptied path).2 := by
  unfold Storage.removeEmptied
  split
  · exact .refl
  · exact .refl
  · exact .refl
  · exact .refl
  · exact .refl
  · exact .single (.prune _ _)

theorem remove (storage : Storage) (path : String) :
    storage.Altered (storage.remove path).2 := by
  unfold Storage.remove
  split
  · exact .single (.prune _ _)
  · unfold removeTree
    split
    · exact .refl
    · exact .refl
    · exact .head (.clear _ _) (removeEmptied _ path)

theorem moveEntry {old new : Location} {asksForDirectory : Bool} {entry : Entry}
    (moved : before.moveEntry old new asksForDirectory entry = .ok after) :
    before.Altered after := by
  unfold Storage.moveEntry at moved
  repeat' split at moved
  all_goals cases moved
  -- Nothing is moved, or something is moved to a free place, or to one that is made free.
  all_goals first
    | exact .refl
    | exact .single (.move _ _ _)
    | exact .head (.prune _ _) (.single (.move _ _ _))

theorem rename {target : String} (renamed : before.rename path target = .ok after) :
    before.Altered after := by
  unfold Storage.rename at renamed
  repeat' split at renamed
  any_goals cases renamed
  exact moveEntry renamed

/-- A change to files and directories is a series of elementary changes. -/
theorem perform (change : FileChange) (storage : Storage) :
    storage.Altered (change.perform storage).2 := by
  have settles {result : Except FileError Storage}
      (alters : ∀ after, result = .ok after → storage.Altered after) :
      storage.Altered (FileChange.settle storage result).2 := by
    cases result with
    | error _ => exact .refl
    | ok after => exact alters after rfl
  cases change with
  | makeDirectories path =>
    exact makeDirectoryChain_induction (fun _ => .refl) .trans (fun _ _ _ => makeDirectory) storage
  | remove path => exact remove storage path
  | rename path target => exact settles fun _ => rename
  | setLength path length =>
    refine settles fun after sized => ?_
    unfold setLength at sized
    repeat' split at sized
    all_goals cases sized
    exact .single (.modify _ _ _)
  | overwrite path offset bytes =>
    refine settles fun after written => ?_
    unfold overwriteFile at written
    split at written
    · cases written
    · next opened =>
      cases written
      exact (openOrCreateFile opened).tail (.modify _ _ _)

/-- A store into a memory is an elementary change, or none. -/
theorem poke {α : Type} [StoredWord α] (storage : Storage) (memory : String) (offset : Nat)
    (value : α) : storage.Altered (storage.poke memory offset value) := by
  unfold Storage.poke
  split
  · exact .refl
  · split
    · exact .refl
    · next stored =>
      unfold Region.store at stored
      split at stored <;> cases stored
      exact .single (.modify _ _ _)

/-- Acts of others are a series of elementary changes. -/
theorem afterActs (storage : Storage) (acts : List Act) :
    storage.Altered (storage.afterActs acts) := by
  induction acts generalizing storage with
  | nil => exact .refl
  | cons act acts ih =>
    rw [afterActs_cons]
    refine .trans ?_ (ih _)
    cases act with
    | setTime _ => exact .refl
    | pokeInt32 memory offset value | pokeInt64 memory offset value => exact poke _ _ _ _
    | files change => exact perform change storage

/-- Readings of the clock, too. -/
theorem ticks (world : World) (readings : Nat) :
    world.storage.Altered (world.ticks readings).storage := by
  rw [World.storage_ticks]
  exact afterActs _ _

end Altered

/-! ## What no change takes away -/

/-- Every object that was made is there later. -/
def Grows (before after : Storage) : Prop := before.objects.size ≤ after.objects.size

namespace Grows

variable {before between after : Storage}

theorem refl (storage : Storage) : storage.Grows storage := Nat.le_refl _

theorem trans (first : before.Grows between) (second : between.Grows after) :
    before.Grows after := Nat.le_trans first second

theorem modify (storage : Storage) (object : ObjectId) (change : Content → Content) :
    storage.Grows (storage.modify object change) := Nat.le_of_eq Array.size_modify.symm

theorem addFile (storage : Storage) (location : Location) :
    storage.Grows (storage.addFile location) :=
  Nat.le_of_lt (Array.size_push _ ▸ Nat.lt_succ_self _)

/-- An elementary change takes no object away. -/
theorem of_alters (alters : before.Alters after) : before.Grows after := by
  cases alters with
  | modify object change => exact .modify _ object change
  | addFile location => exact .addFile _ location
  | addDirectory _ | prune _ | clear _ | move _ _ => exact .refl _

theorem of_altered (altered : before.Altered after) : before.Grows after := by
  induction altered with
  | refl => exact .refl _
  | tail _ alters ih => exact ih.trans (of_alters alters)

/-- Readings of the clock take no object away. -/
theorem ticks (world : World) (readings : Nat) :
    world.storage.Grows (world.ticks readings).storage := of_altered (.ticks world readings)

end Grows

/-- No elementary change moves the directory from which relative paths start. -/
theorem workingDirectory_of_altered {before after : Storage} (altered : before.Altered after) :
    after.workingDirectory = before.workingDirectory := by
  induction altered with
  | refl => rfl
  | tail _ alters ih => cases alters <;> exact ih

/-- Whatever others do, relative paths start where they did. -/
theorem workingDirectory_afterActs (storage : Storage) (acts : List Act) :
    (storage.afterActs acts).workingDirectory = storage.workingDirectory :=
  workingDirectory_of_altered (.afterActs storage acts)

end Heartbeat.Storage
