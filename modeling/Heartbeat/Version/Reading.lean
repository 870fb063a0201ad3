import Heartbeat.Text.Blank
import Heartbeat.Text.Pieces
import Heartbeat.Version

/-!
# Reading a version

A version is written as three numbers with dots between them and any blanks around the whole.  Each
number is one optional plus sign and one or more ASCII digits, leading zeros allowed, of a value of
at most 255.
-/

set_option autoImplicit false

namespace Heartbeat

/-- The value of a non-empty run of ASCII digits. -/
def decimal? (digits : List Char) : Option Nat :=
  if !digits.isEmpty && digits.all Char.isDigit then
    some (digits.foldl (fun value digit => 10 * value + (digit.toNat - 48)) 0)
  else none

/-- The value of one part of a version. -/
def versionPart? (part : List Char) : Option UInt8 :=
  let digits :=
    match part with
    | '+' :: rest => rest
    | _ => part
  match decimal? digits with
  | some value => if value ≤ 255 then some (UInt8.ofNat value) else none
  | none => none

/-- A text that is not a version. -/
structure UnreadableVersion where
  /-- The whole text, blanks included. -/
  text : String
  deriving DecidableEq, Repr

namespace UnreadableVersion

/-- The report on a text that is not a version. -/
def message (error : UnreadableVersion) : String :=
  s!"invalid semantic version '{error.text}', expected major.minor.patch"

end UnreadableVersion

namespace SemanticVersion

/-- The version that a text stands for, if it stands for one. -/
def ofChars? (text : List Char) : Option SemanticVersion :=
  match Text.pieces '.' (Text.trim text) with
  | [major, minor, patch] =>
    match versionPart? major, versionPart? minor, versionPart? patch with
    | some major, some minor, some patch => some ⟨major, minor, patch⟩
    | _, _, _ => none
  | _ => none

/-- Reads a version. -/
def read (text : String) : Except UnreadableVersion SemanticVersion :=
  match ofChars? text.toList with
  | some version => .ok version
  | none => .error ⟨text⟩

end SemanticVersion

end Heartbeat
