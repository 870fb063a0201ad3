import Heartbeat.Bytes.Content
import Heartbeat.Storage.System
import Heartbeat.Storage.Tree

/-!
# The storage that processes share

All that the processes of one machine share: the bytes of every file and of every named piece of
memory, and the names under which they are found.  Bytes live in numbered objects that are never
taken away, so whoever has mapped an object keeps its bytes when the name is deleted or goes to
another object.  The system that opens, sizes and maps the files belongs to the machine, too, and no
operation changes it.

`fresh_not_shared` is the fact behind that: the number of a new object belongs to no name and to no
object made before.
-/

set_option autoImplicit false

namespace Heartbeat

/-- A view of consecutive bytes of an object, such as a mapped file. -/
structure Region where
  /-- The object that holds the bytes. -/
  object : ObjectId
  /-- The offset in the object of the first byte in view. -/
  start : Nat
  /-- The number of bytes in view. -/
  capacity : Nat
  /-- The address of the first byte in view. -/
  address : Nat
  deriving DecidableEq, Repr

/-- The files and the named memories of a machine. -/
structure Storage where
  /-- The bytes of every object made so far. -/
  objects : Array Content
  /-- The names of the files. -/
  tree : Tree
  /-- The directory from which relative paths start. -/
  workingDirectory : Location
  /-- The named memories. -/
  memories : List (String × Region)
  /-- How the system answers what it is asked for. -/
  system : System
  /-- Every name belongs to an object that was made. -/
  named : ∀ object ∈ tree.objects, object < objects.size

namespace Storage

/-- The bytes of an object. -/
def content (storage : Storage) (object : ObjectId) : Content :=
  (storage.objects[object]?).getD (.zeros 0)

/-- Changes the bytes of an object. -/
def modify (storage : Storage) (object : ObjectId) (change : Content → Content) : Storage :=
  { storage with
    objects := storage.objects.modify object change
    named := by
      intro other listed
      rw [Array.size_modify]
      exact storage.named other listed }

/-- The number that the next object gets. -/
def fresh (storage : Storage) : ObjectId := storage.objects.size

theorem fresh_not_shared (storage : Storage) : storage.fresh ∉ storage.tree.objects := by
  intro listed
  exact Nat.lt_irrefl _ (storage.named _ listed)

/-- Adds a directory at a free place in a directory. -/
def addDirectory (storage : Storage) (location : Location) : Storage :=
  { storage with
    tree := storage.tree.add location .directory
    named := by
      intro object listed
      obtain ⟨place, member⟩ := Tree.mem_objects_iff.1 listed
      apply storage.named
      rw [Tree.mem_objects_iff]
      unfold Tree.add at member
      split at member
      · rcases List.mem_cons.1 member with same | older
        · cases same
        · exact ⟨place, older⟩
      · exact ⟨place, member⟩ }

/-- Adds an empty file at a free place in a directory. -/
def addFile (storage : Storage) (location : Location) : Storage :=
  { storage with
    objects := storage.objects.push (.zeros 0)
    tree := storage.tree.add location (.file storage.fresh)
    named := by
      intro object listed
      obtain ⟨place, member⟩ := Tree.mem_objects_iff.1 listed
      rw [Array.size_push]
      have known : ∀ place, (place, Entry.file object) ∈ storage.tree.entries →
          object < storage.objects.size + 1 := fun place older =>
        Nat.lt_succ_of_lt (storage.named _ (Tree.mem_objects_iff.2 ⟨place, older⟩))
      unfold Tree.add at member
      split at member
      · rcases List.mem_cons.1 member with same | older
        · cases same
          exact Nat.lt_succ_self _
        · exact known _ older
      · exact known _ member }

theorem objects_without {tree : Tree} {gone : Location → Bool}
    {downward : ∀ location, gone location.dropLast = true → gone location = true}
    {object : ObjectId} (listed : object ∈ (tree.without gone downward).objects) :
    object ∈ tree.objects := by
  obtain ⟨place, member⟩ := Tree.mem_objects_iff.1 listed
  exact Tree.mem_objects_iff.2 ⟨place, (List.mem_filter.1 member).1⟩

/-- Removes a location and everything below it. -/
def prune (storage : Storage) (top : Location) : Storage :=
  { storage with
    tree := storage.tree.prune top
    named := fun object listed => storage.named object (objects_without listed) }

/-- Removes everything below a location. -/
def clear (storage : Storage) (top : Location) : Storage :=
  { storage with
    tree := storage.tree.clear top
    named := fun object listed => storage.named object (objects_without listed) }

/-- Moves a location and everything below it to a free place in a directory. -/
def move (storage : Storage) (source target : Location) : Storage :=
  { storage with
    tree := storage.tree.move source target
    named := by
      intro object listed
      obtain ⟨place, member⟩ := Tree.mem_objects_iff.1 listed
      apply storage.named
      rw [Tree.mem_objects_iff]
      unfold Tree.move at member
      split at member
      · obtain ⟨⟨older, entry⟩, known, same⟩ := List.mem_map.1 member
        obtain ⟨_, rfl⟩ := Prod.mk.inj same
        exact ⟨older, known⟩
      · exact ⟨place, member⟩ }

/-- Makes a named memory of zero bytes at an address.  A memory that had the name keeps its bytes
and loses the name. -/
def addMemory (storage : Storage) (name : String) (capacity address : Nat) : Storage :=
  { storage with
    objects := storage.objects.push (.zeros capacity)
    memories := (name, ⟨storage.fresh, 0, capacity, address⟩) ::
      storage.memories.filter fun memory => memory.1 ≠ name
    named := by
      intro object listed
      rw [Array.size_push]
      exact Nat.lt_succ_of_lt (storage.named object listed) }

/-- The memory that has a name. -/
def memory? (storage : Storage) (name : String) : Option Region :=
  (storage.memories.find? fun memory => memory.1 = name).map Prod.snd

/-- The storage as another process finds it, or the same one at another time: the files are the
same, and the system may answer otherwise. -/
def under (storage : Storage) (system : System) : Storage := { storage with system }

/-- A storage with a root directory and nothing else, in which the root is the working directory and
the system grants everything. -/
def empty : Storage where
  objects := #[]
  tree := .empty
  workingDirectory := []
  memories := []
  system := .generous
  named := by
    intro object listed
    simp [Tree.objects, Tree.empty] at listed

/-- Changing one object changes its bytes and no others. -/
theorem content_modify (storage : Storage) (object other : ObjectId)
    (change : Content → Content) (made : object < storage.objects.size) :
    (storage.modify object change).content other =
      if other = object then change (storage.content object) else storage.content other := by
  unfold content modify
  by_cases same : other = object
  · subst same
    simp [made, Array.getElem_modify_self]
  · simp [Array.getElem?_modify, same, Ne.symm same]

/-- Changing one object leaves the bytes of the others, whether or not it was made. -/
theorem content_modify_of_ne (storage : Storage) {object other : ObjectId}
    (change : Content → Content) (apart : other ≠ object) :
    (storage.modify object change).content other = storage.content other := by
  unfold content modify
  simp [Array.getElem?_modify, Ne.symm apart]

end Storage

end Heartbeat
