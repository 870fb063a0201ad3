import Heartbeat.Region
import Heartbeat.Storage.Files

/-!
# Changes made by others

What another process can do to files and named memories.  A change that fails may leave part of its
work behind, as a chain of directories that ends at a file does.
-/

set_option autoImplicit false

namespace Heartbeat

/-- A change to files and directories. -/
inductive FileChange where
  /-- Makes a directory and every missing one on the way to it. -/
  | makeDirectories (path : String)
  /-- Deletes a file, or a directory and everything in it. -/
  | remove (path : String)
  /-- Gives an entry another place. -/
  | rename (path target : String)
  /-- Sets the length of a file. -/
  | setLength (path : String) (length : Nat)
  /-- Stores bytes in a file, which is made if there is none. -/
  | overwrite (path : String) (offset : Nat) (bytes : List UInt8)
  deriving DecidableEq, Repr

namespace FileChange

/-- The result of a change that happens or does not. -/
def settle (storage : Storage) : Except FileError Storage → Except FileError Unit × Storage
  | .ok after => (.ok (), after)
  | .error error => (.error error, storage)

/-- Makes a change, and says whether it succeeded and what it left. -/
def perform (change : FileChange) (storage : Storage) : Except FileError Unit × Storage :=
  match change with
  | makeDirectories path => storage.makeDirectories path
  | remove path => storage.remove path
  | rename path target => settle storage (storage.rename path target)
  | setLength path length => settle storage (storage.setLength path length)
  | overwrite path offset bytes => settle storage (storage.overwriteFile path offset bytes)

end FileChange

namespace Storage

/-- Stores a word in a named memory, or does nothing if there is no such memory or no room. -/
def poke {α : Type} [StoredWord α] (storage : Storage) (memory : String) (offset : Nat)
    (value : α) : Storage :=
  match storage.memory? memory with
  | none => storage
  | some region =>
    match region.store storage offset value with
    | .error _ => storage
    | .ok after => after

end Storage

end Heartbeat
