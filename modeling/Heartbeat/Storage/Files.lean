import Heartbeat.Storage.Resolve

/-!
# Operations on files and directories

Opening, creating, sizing, overwriting, renaming and deleting, as the system does them.  An
operation that can stop half way answers with the storage it leaves behind also when it fails; one
that either happens or does not answers with a storage only if it happened.
-/

set_option autoImplicit false

namespace Heartbeat

/-- The greatest length of a file. -/
def longestFile : Nat := 9223372036854775807

namespace Storage

/-! ## Opening -/

/-- The object of an existing file that is opened for reading and writing. -/
def openFile (storage : Storage) (path : String) : Except FileError ObjectId :=
  match storage.locate path with
  | .error error => .error error
  | .ok (_, .directory) => .error .isADirectory
  | .ok (_, .file object) => .ok object

/-- Opens a file for reading and writing and makes it, empty, if there is none. -/
def openOrCreateFile (storage : Storage) (path : String) :
    Except FileError (ObjectId × Storage) :=
  match storage.destination path with
  | .error error => .error error
  | .ok (holder, .into name) =>
    if Path.endsInSlash path then .error .isADirectory
    else if Path.longestName < name.utf8ByteSize then .error .nameTooLong
    else
      match storage.tree.lookup (holder ++ [name]) with
      | some .directory => .error .isADirectory
      | some (.file object) => .ok (object, storage)
      | none => .ok (storage.fresh, storage.addFile (holder ++ [name]))
  | .ok _ => .error .isADirectory

/-- The bytes of an existing file. -/
def fileBytes (storage : Storage) (path : String) : Except FileError (List UInt8) :=
  match storage.openFile path with
  | .error error => .error error
  | .ok object =>
    let content := storage.content object
    .ok (content.read 0 content.size)

/-- The text of an existing file. -/
def readText (storage : Storage) (path : String) : Except FileError String :=
  match storage.fileBytes path with
  | .error error => .error error
  | .ok bytes =>
    match String.fromUTF8? ⟨bytes.toArray⟩ with
    | some text => .ok text
    | none => .error .notText

/-- Sets the length of an existing file. -/
def setLength (storage : Storage) (path : String) (length : Nat) : Except FileError Storage :=
  match storage.openFile path with
  | .error error => .error error
  | .ok object =>
    if longestFile < length then .error .lengthTooLarge
    else .ok (storage.modify object (·.resize length))

/-- Stores bytes in a file, which is made if there is none and grows if it is too short. -/
def overwriteFile (storage : Storage) (path : String) (offset : Nat) (bytes : List UInt8) :
    Except FileError Storage :=
  match storage.openOrCreateFile path with
  | .error error => .error error
  | .ok (object, opened) => .ok (opened.modify object (·.overwrite offset bytes))

/-! ## Directories -/

/-- Makes a directory in an existing one. -/
def makeDirectory (storage : Storage) (path : String) : Except FileError Storage :=
  match storage.destination path with
  | .error error => .error error
  | .ok (holder, .into name) =>
    if Path.longestName < name.utf8ByteSize then .error .nameTooLong
    else if storage.tree.lookup (holder ++ [name]) = none then
      .ok (storage.addDirectory (holder ++ [name]))
    else .error .alreadyExists
  | .ok _ => .error .alreadyExists

/-- Makes the first of some directories, after the ones that follow it if those are missing.  The
paths are those of a directory, of the one that holds it, and so on. -/
def makeDirectoryChain (storage : Storage) : List String → Except FileError Unit × Storage
  | [] => (.ok (), storage)
  | path :: holders =>
    if path = "" then (.ok (), storage)
    else
      match storage.makeDirectory path with
      | .ok made => (.ok (), made)
      | .error .notFound =>
        match makeDirectoryChain storage holders with
        | (.error error, left) => (.error error, left)
        | (.ok (), held) =>
          match held.makeDirectory path with
          | .ok made => (.ok (), made)
          | .error error => (if held.isDirectory path then .ok () else .error error, held)
      | .error error => (if storage.isDirectory path then .ok () else .error error, storage)

/-- Makes a directory and every missing one on the way to it. -/
def makeDirectories (storage : Storage) (path : String) : Except FileError Unit × Storage :=
  storage.makeDirectoryChain (Path.ancestors path)

/-! ## Deleting -/

/-- Removes the name of a directory whose contents are gone.  A name that is gone too is no
failure. -/
def removeEmptied (storage : Storage) (path : String) : Except FileError Unit × Storage :=
  match storage.destination path with
  | .error .notFound => (.ok (), storage)
  | .error error => (.error error, storage)
  | .ok (_, .root) => (.error .busy, storage)
  | .ok (_, .stay) => (.error .invalidArgument, storage)
  | .ok (_, .up) => (.error .directoryNotEmpty, storage)
  | .ok (holder, .into name) => (.ok (), storage.prune (holder ++ [name]))

/-- Deletes a directory and everything in it.  The contents go first. -/
def removeTree (storage : Storage) (path : String) : Except FileError Unit × Storage :=
  match storage.locate path with
  | .error error => (.error error, storage)
  | .ok (_, .file _) => (.error .notADirectory, storage)
  | .ok (location, .directory) => (storage.clear location).removeEmptied path

/-- Deletes a file, or a directory and everything in it. -/
def remove (storage : Storage) (path : String) : Except FileError Unit × Storage :=
  match storage.locate path with
  | .ok (location, .file _) => (.ok (), storage.prune location)
  | _ => storage.removeTree path

/-! ## Renaming -/

/-- Whether a directory holds nothing. -/
def isEmptyDirectory (storage : Storage) (location : Location) : Bool :=
  storage.tree.entries.all fun entry => !entry.1.within location || entry.1 = location

/-- What a move between two places in directories leaves.  A file replaces a file, and a directory
an empty directory.  With a slash at the end of a path only a directory can be moved. -/
def moveEntry (storage : Storage) (old new : Location) (asksForDirectory : Bool) :
    Entry → Except FileError Storage
  | .file _ =>
    if asksForDirectory then .error .notADirectory
    else
      match storage.tree.lookup new with
      | none => .ok (storage.move old new)
      | some (.file _) =>
        if old = new then .ok storage else .ok ((storage.prune new).move old new)
      | some .directory =>
        if Location.within old new then .error .directoryNotEmpty else .error .isADirectory
  | .directory =>
    if old = new then .ok storage
    else if Location.within new old then .error .invalidArgument
    else if Location.within old new then .error .directoryNotEmpty
    else
      match storage.tree.lookup new with
      | none => .ok (storage.move old new)
      | some (.file _) => .error .notADirectory
      | some .directory =>
        if storage.isEmptyDirectory new then .ok ((storage.prune new).move old new)
        else .error .directoryNotEmpty

/-- Gives what is at one path another path.  The old path is looked up before the new one. -/
def rename (storage : Storage) (path target : String) : Except FileError Storage :=
  if Path.hasNul path || Path.hasNul target then .error .embeddedNul
  else
    match storage.destination path, storage.destination target with
    | .error error, _ => .error error
    | _, .error error => .error error
    | .ok (holder, .into name), .ok (targetHolder, .into targetName) =>
      if Path.longestName < name.utf8ByteSize then .error .nameTooLong
      else
        match storage.tree.lookup (holder ++ [name]) with
        | none => .error .notFound
        | some entry =>
          if Path.longestName < targetName.utf8ByteSize then .error .nameTooLong
          else
            storage.moveEntry (holder ++ [name]) (targetHolder ++ [targetName])
              (Path.endsInSlash path || Path.endsInSlash target) entry
    | .ok _, .ok _ => .error .busy

end Storage

end Heartbeat
