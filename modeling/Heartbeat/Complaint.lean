import Heartbeat.Configuration
import Heartbeat.Refusal
import Heartbeat.Text.Pieces
import Heartbeat.Version.Reading

/-!
# Complaints

What a program says when it gives up: what it failed at, and below that the causes, the outermost
first.  A single cause is indented, and several causes are numbered from zero.  The further lines of
a cause start where its first line does.
-/

set_option autoImplicit false

namespace Heartbeat

/-- Why a program gave up. -/
structure Complaint where
  /-- What failed. -/
  message : String
  /-- What made it fail, the outermost cause first. -/
  causes : List String := []
  deriving DecidableEq, Repr

namespace Complaint

/-- The complaint about a failure. -/
def ofFailure : Failure → Complaint
  | .refused refusal => ⟨refusal.message, refusal.causes⟩
  | .fault fault => ⟨fault.message, []⟩

/-- The complaint about a missing configuration. -/
def ofConfigurationError (error : ConfigurationError) : Complaint := ⟨error.message, error.causes⟩

/-- The complaint about a text that is not a version. -/
def ofUnreadableVersion (error : UnreadableVersion) : Complaint := ⟨error.message, []⟩

/-- The same complaint as the cause of another failure. -/
def under (complaint : Complaint) (message : String) : Complaint :=
  ⟨message, complaint.message :: complaint.causes⟩

/-- A text whose lines after the first one are moved to the right. -/
def indentRest (columns : Nat) (text : String) : String :=
  ("\n" ++ String.ofList (List.replicate columns ' ')).intercalate
    ((Text.pieces '\n' text.toList).map String.ofList)

/-- A number, right-aligned in five columns. -/
def ordinal (number : Nat) : String :=
  let digits := toString number
  String.ofList (List.replicate (5 - digits.length) ' ') ++ digits

/-- A complaint as a program prints it. -/
def text (complaint : Complaint) : String :=
  let head := "Error: " ++ complaint.message ++ "\n"
  match complaint.causes with
  | [] => head
  | [cause] => head ++ "\nCaused by:\n    " ++ indentRest 4 cause ++ "\n"
  | causes =>
    head ++ "\nCaused by:\n" ++
      String.join (causes.zipIdx.map fun (cause, number) =>
        ordinal number ++ ": " ++ indentRest 7 cause ++ "\n")

end Complaint

end Heartbeat
