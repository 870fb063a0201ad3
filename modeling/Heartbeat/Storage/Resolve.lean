import Heartbeat.Storage
import Heartbeat.Storage.Path

/-!
# From paths to locations

A path is walked name by name from the root or from the working directory.  A dot stays, two dots
go to the holding directory (of the root: the root), any other name has to be in the directory
reached so far.  Every question that ends at something existing goes through `Storage.locate`, and
every operation that may make or remove a name goes through `Storage.destination`, which walks to
the holding directory and leaves the last step to the operation.
-/

set_option autoImplicit false

namespace Heartbeat

/-- The last step of a path, as the operations that make or remove names tell it apart. -/
inductive LastStep where
  /-- The path is only the root. -/
  | root
  /-- The last name is a dot. -/
  | stay
  /-- The last name is two dots. -/
  | up
  /-- The last name is one that a directory can hold. -/
  | into (name : String)
  deriving DecidableEq, Repr

namespace LastStep

/-- The step that a name asks for. -/
def ofName (name : String) : LastStep :=
  if name = "." then .stay else if name = ".." then .up else .into name

end LastStep

namespace Storage

/-- Where a path starts. -/
def startOf (storage : Storage) (path : String) : Location :=
  if Path.isAbsolute path then [] else storage.workingDirectory

/-- One step of a walk. -/
def step (storage : Storage) (location : Location) (name : String) :
    Except FileError Location :=
  match storage.tree.lookup location with
  | none => .error .notFound
  | some (.file _) => .error .notADirectory
  | some .directory =>
    match LastStep.ofName name with
    | .root | .stay => .ok location
    | .up => .ok location.dropLast
    | .into name =>
      if Path.longestName < name.utf8ByteSize then .error .nameTooLong
      else if storage.tree.lookup (location ++ [name]) = none then .error .notFound
      else .ok (location ++ [name])

/-- A walk over names. -/
def walk (storage : Storage) : (location : Location) → (names : List String) →
    Except FileError Location
  | location, [] => .ok location
  | location, name :: rest =>
    match storage.step location name with
    | .error error => .error error
    | .ok next => walk storage next rest

/-- The existing location that a path leads to, and what is there. -/
def locate (storage : Storage) (path : String) : Except FileError (Location × Entry) :=
  match Path.check path with
  | .error error => .error error
  | .ok () =>
    match storage.walk (storage.startOf path) (Path.names path) with
    | .error error => .error error
    | .ok location =>
      match storage.tree.lookup location with
      | none => .error .notFound
      | some .directory => .ok (location, .directory)
      | some (.file object) =>
        if Path.endsInSlash path then .error .notADirectory else .ok (location, .file object)

/-- The directory that holds, or would hold, what a path names, and the last step into it. -/
def destination (storage : Storage) (path : String) :
    Except FileError (Location × LastStep) :=
  match Path.check path with
  | .error error => .error error
  | .ok () =>
    match (Path.names path).getLast? with
    | none => .ok ([], .root)
    | some last =>
      match storage.walk (storage.startOf path) (Path.names path).dropLast with
      | .error error => .error error
      | .ok holder =>
        match storage.tree.lookup holder with
        | none => .error .notFound
        | some (.file _) => .error .notADirectory
        | some .directory => .ok (holder, .ofName last)

/-- Whether a path leads to something. -/
def pathExists (storage : Storage) (path : String) : Bool :=
  (storage.locate path).toOption.isSome

/-- Whether a path leads to a directory. -/
def isDirectory (storage : Storage) (path : String) : Bool :=
  match storage.locate path with
  | .ok (_, .directory) => true
  | _ => false

/-- The size that a directory reports. -/
def directorySize : Nat := 4096

/-- The size of what a path leads to. -/
def sizeOf? (storage : Storage) (path : String) : Option Nat :=
  match storage.locate path with
  | .ok (_, .directory) => some directorySize
  | .ok (_, .file object) => some (storage.content object).size
  | .error _ => none

end Storage

end Heartbeat
