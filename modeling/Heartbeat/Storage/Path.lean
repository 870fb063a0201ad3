import Heartbeat.Storage.Error
import Heartbeat.Text.Pieces

/-!
# Paths

A path is text: names with slashes between them.  This module says what a path spells, how two
paths are joined and what the path of the holding directory is, all without asking a file system
whether anything exists.  Joining and taking the parent keep the spelling: inner slashes and dots
stay as they were written.
-/

set_option autoImplicit false

namespace Heartbeat.Path

/-- The longest name of a directory entry, in bytes. -/
def longestName : Nat := 255

/-- The length in bytes from which on a path is too long. -/
def pathLimit : Nat := 4096

/-- Whether a path starts at the root. -/
def isAbsolute (path : String) : Bool := path.toList.head? = some '/'

/-- Whether a path ends in a slash, which asks for a directory. -/
def endsInSlash (path : String) : Bool := path.toList.getLast? = some '/'

/-- The pieces of a path between its slashes. -/
def segments (path : String) : List String := (Text.pieces '/' path.toList).map String.ofList

/-- The names that a path spells, the first one first. -/
def names (path : String) : List String := (segments path).filter fun name => name ≠ ""

/-- The path of `right` seen from the directory `left`.  An absolute path stays itself, and a slash
is put in between unless `left` is empty or ends in one. -/
def join (left right : String) : String :=
  if isAbsolute right then right
  else if left = "" ∨ endsInSlash left then left ++ right
  else left ++ "/" ++ right

/-- The positions of the segments that count as steps.  An empty segment does not count, nor does a
dot, except at the very start. -/
def countedPositions (segments : List String) : List Nat :=
  (segments.zipIdx.filter fun (segment, i) =>
    segment ≠ "" && (segment ≠ "." || i == 0)).map Prod.snd

/-- The path of the directory that holds what a path names, spelled as in that path, if the path
names anything but the root. -/
def parent? (path : String) : Option String :=
  let parts := segments path
  match (countedPositions parts).reverse with
  | [] => none
  | [_] => some (if isAbsolute path then "/" else "")
  | _ :: holder :: _ => some ("/".intercalate (parts.take (holder + 1)))

/-- A path, its parent, the parent of that, and so on, at most `limit` of them. -/
def ancestorsUpTo : (limit : Nat) → String → List String
  | 0, _ => []
  | limit + 1, path =>
    match parent? path with
    | none => [path]
    | some parent => path :: ancestorsUpTo limit parent

/-- A path and the paths of everything that it lies in.  Each has one name less than the one
before, so the length of the path bounds their number. -/
def ancestors (path : String) : List String := ancestorsUpTo (path.length + 2) path

/-- Whether a path contains the zero byte, with which the system ends a path. -/
def hasNul (path : String) : Bool := path.toList.contains '\x00'

/-- Whether a path can be handed to the system at all. -/
def check (path : String) : Except FileError Unit :=
  if hasNul path then .error .embeddedNul
  else if path = "" then .error .notFound
  else if pathLimit ≤ path.utf8ByteSize then .error .nameTooLong
  else .ok ()

end Heartbeat.Path
