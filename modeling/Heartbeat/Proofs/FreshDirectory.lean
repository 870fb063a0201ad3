import Heartbeat.Proofs.Ancestors
import Heartbeat.Proofs.Growing
import Heartbeat.Proofs.Placement
import Heartbeat.Proofs.Publication
import Heartbeat.Proofs.Renewal

/-!
# What is in a directory that was created

A creation that succeeds takes away whatever was at the place of its directory, so that a new and
empty directory is there (`Handshake.Prepares.makesEmpty`), and adds a new file of zero bytes to it
(`Handshake.Creates.addsFile`).  Together with what others do at the readings of the clock that is
all: `Handshake.createInDirectory_leaves_one_file` says of every location, of every object and of the
memories what is there afterwards.
-/

set_option autoImplicit false

namespace Heartbeat

namespace Storage

/-- A new and empty directory is at a location, and nothing else was changed but that missing
directories above it were made. -/
structure MakesEmpty (top : Location) (before after : Storage) : Prop where
  /-- The directory is there. -/
  directory : after.tree.lookup top = some .directory
  /-- It holds nothing. -/
  empty : ∀ location : Location, location.within top = true → location ≠ top →
    after.tree.lookup location = none
  /-- Elsewhere everything is as before, unless it is a directory on the way and was not there. -/
  elsewhere : ∀ location : Location, location.within top = false →
    after.tree.lookup location = before.tree.lookup location ∨
      top.within location = true ∧ before.tree.lookup location = none ∧
        after.tree.lookup location = some .directory
  /-- No bytes change, and there are no new ones. -/
  objects : after.objects = before.objects
  /-- No memory is made, and none goes. -/
  memories : after.memories = before.memories
  /-- Relative paths start where they did. -/
  workingDirectory : after.workingDirectory = before.workingDirectory

variable {storage before after : Storage} {directory path : String}

/-- A directory that had to be made at a plain path is empty. -/
theorem makesEmpty_of_made (plain : Path.Plain directory)
    (absent : before.isDirectory directory = false)
    (made : before.makeDirectories directory = (.ok (), after)) :
    MakesEmpty (before.place directory) before after := by
  have makes := makesAbove_of_makeDirectories plain made
  have there : after.tree.lookup (before.place directory) = some .directory := by
    obtain ⟨_, located⟩ := isDirectory_iff.1 (isDirectory_of_makeDirectories plain.spelled made)
    rw [← place_congr makes.kept.workingDirectory]
    exact (locate_plain plain located).2
  -- A file would have stayed in the way, and a directory would have been found.
  have free : before.tree.lookup (before.place directory) = none := by
    cases old : before.tree.lookup (before.place directory) with
    | none => rfl
    | some entry =>
      obtain rfl := Option.some.inj ((makes.kept.lookup old).symm.trans there)
      exact absurd old (lookup_place_of_made plain absent made)
  refine ⟨there, ?_, fun location _ => makes.lookup location, makes.objects, makes.memories,
    makes.kept.workingDirectory⟩
  intro location inside other
  rcases makes.lookup location with same | ⟨above, _, _⟩
  · rw [same]
    exact Tree.lookup_eq_none_of_within free inside
  · exact absurd (Location.within_antisymm inside above) other

/-- What was pruned before makes no difference. -/
theorem MakesEmpty.of_prune {top : Location} (makes : MakesEmpty top (storage.prune top) after) :
    MakesEmpty top storage after where
  directory := makes.directory
  empty := makes.empty
  elsewhere location outside := by
    have pruned : (storage.prune top).tree.lookup location = storage.tree.lookup location := by
      refine (Tree.lookup_prune _ _ _).trans (if_neg ?_)
      rintro ⟨_, inside⟩
      exact Bool.false_ne_true (outside.symm.trans inside)
    have elsewhere := makes.elsewhere location outside
    rwa [pruned] at elsewhere
  objects := makes.objects
  memories := makes.memories
  workingDirectory := makes.workingDirectory

/-- A file that is opened at a plain path, and made if there is none, is made at its place. -/
theorem openEmptied_plain (plain : Path.Plain path) {object : ObjectId}
    (free : storage.tree.lookup (storage.place path) = none)
    (opened : storage.openEmptied path = (.ok object, after)) :
    object = storage.fresh ∧
      storage.tree.accepts (storage.place path) (.file storage.fresh) = true ∧
      after = (storage.addFile (storage.place path)).modify storage.fresh (·.resize 0) := by
  obtain ⟨_, made, rfl⟩ := openEmptied_eq_ok opened
  obtain ⟨holder, name, leads, -, -, course⟩ := openOrCreateFile_eq_ok made
  obtain ⟨-, -, -, -, held⟩ := destination_eq_into leads
  rw [← place_of_destination plain leads] at free ⊢
  rcases course with ⟨found, _⟩ | ⟨_, rfl, rfl⟩
  · exact nomatch free.symm.trans found
  · exact ⟨rfl, accepts_file held free, rfl⟩

/-- A new file of zero bytes is at a location, and nothing else was changed. -/
structure AddsFile (location : Location) (object : ObjectId) (length : Nat)
    (before after : Storage) : Prop where
  /-- The object of the file is a new one. -/
  fresh : object = before.fresh
  /-- It has one name, and every other name is as before. -/
  lookup : ∀ place, after.tree.lookup place =
    if place = location then some (.file object) else before.tree.lookup place
  /-- The file has its length. -/
  size : (after.content object).size = length
  /-- Its bytes are zero. -/
  zero : ∀ i, (after.content object).byte i = 0
  /-- No memory is made, and none goes. -/
  memories : after.memories = before.memories
  /-- Relative paths start where they did. -/
  workingDirectory : after.workingDirectory = before.workingDirectory

/-- A file that was added, emptied and given a length is one of zero bytes. -/
theorem addsFile_of_accepts {location : Location}
    (accepted : storage.tree.accepts location (.file storage.fresh) = true) (length : Nat) :
    AddsFile location storage.fresh length storage
      (((storage.addFile location).modify storage.fresh (·.resize 0)).modify storage.fresh
        (·.resize length)) := by
  have made : storage.fresh < (storage.addFile location).objects.size :=
    (Array.size_push _).symm ▸ Nat.lt_succ_self _
  have still : storage.fresh < ((storage.addFile location).modify storage.fresh
      (·.resize 0)).objects.size := Array.size_modify.symm ▸ made
  have content := content_modify _ _ storage.fresh (·.resize length) still
  rw [if_pos rfl, content_modify _ _ _ _ made, if_pos rfl, content_addFile] at content
  refine ⟨rfl, Tree.lookup_add accepted, ?_, fun i => ?_, rfl, rfl⟩
  · rw [content, Content.size_resize]
  · rw [content, Content.byte_resize, Content.byte_resize, Content.byte_zeros, ite_self, ite_self]

/-- A new and empty directory with a new file in it holds that file and nothing else. -/
theorem MakesEmpty.lookup_added {between : Storage} {top : Location} {name : String}
    {object : ObjectId} {length : Nat} (empties : MakesEmpty top before between)
    (adds : AddsFile (top ++ [name]) object length between after) :
    (∀ location : Location, location.within top = true → after.tree.lookup location =
      if location = top then some .directory
      else if location = top ++ [name] then some (.file object) else none) ∧
    ∀ location : Location, location.within top = false →
      after.tree.lookup location = before.tree.lookup location ∨
        top.within location = true ∧ before.tree.lookup location = none ∧
          after.tree.lookup location = some .directory := by
  constructor
  · intro location inside
    rw [adds.lookup]
    by_cases here : location = top
    · have other : top ≠ top ++ [name] := fun same => nomatch List.append_right_eq_self.1 same.symm
      rw [if_pos here, here, if_neg other]
      exact empties.directory
    · rw [if_neg here]
      split
      · rfl
      · exact empties.empty location inside here
  · intro location outside
    rw [adds.lookup, if_neg]
    · exact empties.elsewhere location outside
    · rintro rfl
      exact Bool.false_ne_true (outside.symm.trans (Location.within_append _ _))

end Storage

namespace Handshake

variable {handshake : Handshake} {directory filename : String} {length : Nat}
  {world prepared : World}

/-- A prepared directory is new and empty. -/
theorem Prepares.makesEmpty (plain : Path.Plain directory)
    (prepares : Prepares directory world prepared) :
    ∃ readings, prepared.clock = (world.ticks readings).clock ∧
      Storage.MakesEmpty (world.storage.place directory) (world.ticks readings).storage
        prepared.storage := by
  obtain ⟨readings, before, left, absent, made, clock⟩ := prepares.inversion plain
  have place : (world.ticks readings).storage.place directory = world.storage.place directory :=
    Storage.place_congr (Storage.workingDirectory_of_altered (.ticks world readings)) directory
  have makes := Storage.makesEmpty_of_made plain absent made
  refine ⟨readings, clock, ?_⟩
  rw [← place]
  rcases left with rfl | rfl
  · exact makes
  · exact makes.of_prune

variable {before after : Storage} {object : ObjectId} {handle : Handle}

/-- Where there was no file, a creation adds one of zero bytes. -/
theorem Creates.addsFile (plain : Path.Plain (Path.join directory filename))
    (free : before.tree.lookup (before.place (Path.join directory filename)) = none)
    (creates : handshake.Creates directory filename length before object handle after) :
    Storage.AddsFile (before.place (Path.join directory filename)) object length before after := by
  obtain ⟨emptied, opened, mapped⟩ := creates.file
  obtain ⟨rfl, accepted, rfl⟩ := Storage.openEmptied_plain plain free opened
  obtain ⟨-, -, rfl⟩ := Storage.mapResized_eq_ok mapped
  exact Storage.addsFile_of_accepts accepted length

/-- A creation that succeeds leaves one file.

Whatever was at the place of the directory and below it, there is a directory now that holds the
file and nothing else, and the file holds as many zero bytes as were asked for.  Elsewhere there is
what the acts of others left at the readings of the clock, and a directory wherever one was missing
on the way.  No other bytes are changed, and no memory comes or goes.  The handle has the layout of
the handshake, both paths, and the whole file in view, and it shows neither a version nor a
heartbeat. -/
theorem createInDirectory_leaves_one_file (plain : Path.Plain directory)
    (named : Path.IsFilename filename) {force : Bool} {rounds : Nat}
    {environment after : Environment} {handle : Handle}
    (created : (handshake.createInDirectory directory filename length force rounds :
      Activity Handle).run environment = .returned handle after) :
    let top := environment.storage.place directory
    let path := Path.join directory filename
    let met := environment.storage.afterActs
      (environment.clock.upcoming (after.clock.reads - environment.clock.reads))
    ∃ object,
      after.storage.locate directory = .ok (top, .directory) ∧
      (∀ location : Location, location.within top = true → after.storage.tree.lookup location =
        if location = top then some .directory
        else if location = top ++ [filename] then some (.file object) else none) ∧
      after.storage.openFile path = .ok object ∧
      after.storage.fileBytes path = .ok (List.replicate length 0) ∧
      (∀ location : Location, location.within top = false →
        after.storage.tree.lookup location = met.tree.lookup location ∨
          top.within location = true ∧ met.tree.lookup location = none ∧
            after.storage.tree.lookup location = some .directory) ∧
      environment.storage.objects.size ≤ object ∧
      (∀ other, other ≠ object → after.storage.content other = met.content other) ∧
      after.storage.memories = met.memories ∧
      after.storage.workingDirectory = environment.storage.workingDirectory ∧
      handle = ⟨handshake.layout, some directory, some path,
        some ⟨.mapping object 0 length, .owned⟩, false⟩ ∧
      handle.version after.storage = .ok 0 ∧ handle.timestamp after.storage = .ok 0 := by
  intro top path met
  obtain ⟨prepared, object, prepares, creates, still⟩ := inversion_of_created created
  obtain ⟨readings, clock, empties⟩ := prepares.makesEmpty plain
  have left : met = (environment.world.ticks readings).storage := by
    have reads : after.clock.reads - environment.clock.reads = readings := by
      rw [still, clock, World.reads_ticks]
      exact Nat.add_sub_cancel_left _ _
    rw [World.storage_ticks, ← reads]
    rfl
  have starts : prepared.storage.workingDirectory = environment.storage.workingDirectory :=
    empties.workingDirectory.trans
      (Storage.workingDirectory_of_altered (.ticks environment.world readings))
  -- The new file lies in the new directory, where nothing is.
  have file : prepared.storage.place path = top ++ [filename] := by
    rw [Storage.place_join plain named, Storage.place_congr starts]
  have free : prepared.storage.tree.lookup (prepared.storage.place path) = none := by
    rw [file]
    exact empties.empty _ (Location.within_append _ _)
      fun same => nomatch List.append_right_eq_self.1 same
  have adds := creates.addsFile (plain.join named) free
  rw [file] at adds
  have moved := adds.workingDirectory.trans starts
  have places := creates.places prepares
  have opened : after.storage.openFile path = .ok object := places.inPlace.opened
  obtain ⟨inside, outside⟩ := empties.lookup_added adds
  rw [left]
  refine ⟨object, ?_, inside, opened, ?_, outside, ?_, ?_, adds.memories.trans empties.memories,
    moved, creates.handle, ?_, ?_⟩
  · obtain ⟨location, located⟩ := Storage.isDirectory_iff.1 (places.directory plain.spelled)
    rw [located, (Storage.locate_plain plain located).1, Storage.place_congr moved]
  · rw [Storage.fileBytes, opened]
    exact congrArg Except.ok (by rw [Content.read_of_zero adds.zero, adds.size])
  · rw [adds.fresh, Storage.fresh, empties.objects]
    exact Storage.Grows.ticks environment.world readings
  · intro other apart
    rw [creates.content_eq apart, Storage.content, Storage.content, empties.objects]
  · rw [Handle.version_eq places.fields places.fit, ControlFields.versionIn_eq_zero adds.zero]
  · rw [Handle.timestamp_eq places.fields places.fit, ControlFields.timestampIn_eq_zero adds.zero]

/-- The owner of `run/cnc`, which holds version 1 and a heartbeat, is replaced by force, and the
file is twice as long. -/
theorem createInDirectory_leaves_one_file_owned :
    Path.Plain "run" ∧ Path.IsFilename "cnc" ∧ ∃ handle after object,
      (ofOwned.createInDirectory "run" "cnc" 32 true 2 : Activity Handle).run
        ⟨.ticking 120 1, .owned, []⟩ = .returned handle after ∧
      after.storage.tree.lookup ["run", "cnc"] = some (.file object) ∧
      after.storage.fileBytes (Path.join "run" "cnc") = .ok (List.replicate 32 0) ∧
      handle.version after.storage = .ok 0 := by
  have plain : Path.Plain "run" := by decide
  have named : Path.IsFilename "cnc" := by decide
  obtain ⟨handle, after, created⟩ : ∃ handle after,
      (ofOwned.createInDirectory "run" "cnc" 32 true 2 : Activity Handle).run
        ⟨.ticking 120 1, .owned, []⟩ = .returned handle after := ⟨_, _, rfl⟩
  obtain ⟨object, _, held, _, bytes, _, _, _, _, _, _, version, _⟩ :=
    createInDirectory_leaves_one_file plain named created
  exact ⟨plain, named, handle, after, object, created, held ["run", "cnc"] rfl, bytes, version⟩

end Handshake

end Heartbeat
