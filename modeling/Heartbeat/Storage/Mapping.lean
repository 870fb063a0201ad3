import Heartbeat.Fault
import Heartbeat.Storage.Files

/-!
# Mapping files

The four ways to get a file's bytes into view.  A new mapping starts with a file of zeros, an
adopting one keeps what the file holds and lengthens it if it is too short, and the other two map an
existing file as it is, the whole of it or a span.  Where something is changed or decided by it, the
system may turn down each step, and what was done before stays done.

A mapping starts at a page, a span keeps its distance from the page before it, so an address in a
span is as aligned as the file offset is.
-/

set_option autoImplicit false

namespace Heartbeat

/-- The size of a page of memory. -/
def pageSize : Nat := 4096

/-- The page address at which mappings are placed. -/
def mappingAddress : Nat := pageSize * 1073741824

namespace Region

/-- The bytes of an object from an offset on, as a mapping shows them. -/
def mapping (object : ObjectId) (offset length : Nat) : Region where
  object
  start := offset
  capacity := length
  address := mappingAddress + offset % pageSize

end Region

namespace Storage

/-- Opens a file for reading and writing and makes it, empty, if there is none and the system allows
it. -/
def makeFile (storage : Storage) (path : String) : Except FileError (ObjectId × Storage) :=
  match storage.system.answer (.making path) with
  | .error error => .error error
  | .ok () => storage.openOrCreateFile path

/-- Makes an empty file, or empties an existing one. -/
def openEmptied (storage : Storage) (path : String) : Except FileError ObjectId × Storage :=
  match storage.makeFile path with
  | .error error => (.error error, storage)
  | .ok (object, opened) => (.ok object, opened.modify object (·.resize 0))

/-- Maps an opened file from its beginning, if the system allows it. -/
def mapBeginning (storage : Storage) (object : ObjectId) (length : Nat) :
    Except FileError Region :=
  match storage.system.answer (.mapping object length) with
  | .error error => .error error
  | .ok () => .ok (.mapping object 0 length)

/-- Gives an opened file a length and maps all of it.  Nothing is mapped if no file can be that long
or the system does not allow the length, and the file is as it was then.  If it is the mapping that
the system does not allow, the file has its new length. -/
def mapResized (storage : Storage) (object : ObjectId) (length : Nat) :
    Except FileError Region × Storage :=
  if longestFile < length then (.error .lengthTooLarge, storage)
  else
    match storage.system.answer (.sizing object length) with
    | .error error => (.error error, storage)
    | .ok () =>
      let sized := storage.modify object (·.resize length)
      (sized.mapBeginning object length, sized)

/-- Makes a file of zero bytes, or empties an existing one and fills it with zero bytes, and maps
all of it.  If it cannot have that length, an empty file is left. -/
def mapNew (storage : Storage) (path : String) (length : Nat) :
    Except FileError Region × Storage :=
  if length = 0 then (.error .emptyMapping, storage)
  else
    match storage.openEmptied path with
    | (.error error, left) => (.error error, left)
    | (.ok object, emptied) => emptied.mapResized object length

/-- Opens a file, or makes it, and maps its first bytes.  What the file holds stays, and a shorter
file is lengthened by zero bytes. -/
def mapKeeping (storage : Storage) (path : String) (length : Nat) :
    Except FileError Region × Storage :=
  if length = 0 then (.error .emptyMapping, storage)
  else
    match storage.makeFile path with
    | .error error => (.error error, storage)
    | .ok (object, opened) =>
      if (opened.content object).size < length then opened.mapResized object length
      else (opened.mapBeginning object length, opened)

/-- Maps an existing file, all of it.  That the system turns this down is not modelled: nothing is
changed before, and the failure would be reported like that to open the file. -/
def mapWhole (storage : Storage) (path : String) : Except FileError Region :=
  match storage.openFile path with
  | .error error => .error error
  | .ok object => .ok (.mapping object 0 (storage.content object).size)

/-- Maps a span of an existing file, if the system allows it.  The span has to lie within the
file. -/
def mapSpan (storage : Storage) (path : String) (offset length : Nat) :
    Except Fault (Except FileError Region) :=
  if length = 0 then .ok (.error .emptyMapping)
  else
    match storage.system.answer (.opening path) with
    | .error error => .ok (.error error)
    | .ok () =>
      match storage.openFile path with
      | .error error => .ok (.error error)
      | .ok object =>
        match checkedSum offset length with
        | .error fault => .error fault
        | .ok spanEnd =>
          let size := (storage.content object).size
          if size < spanEnd then .ok (.error (.spanPastEnd size spanEnd))
          else
            match storage.system.answer (.span object offset length) with
            | .error error => .ok (.error error)
            | .ok () => .ok (.ok (.mapping object offset length))

end Storage

end Heartbeat
