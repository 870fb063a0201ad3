/-!
# What can go wrong with files

The causes by which opening, sizing, mapping, reading or deleting a file fails, the kind that each
belongs to, and its text.  Most causes are the operating system's and carry its number.  A few are
found before the system is asked, and those have a text of their own.
-/

set_option autoImplicit false

namespace Heartbeat

/-- The kinds of failure that a caller can tell apart. -/
inductive FileErrorKind where
  /-- Nothing has this name. -/
  | notFound
  /-- A directory stands where a file is wanted. -/
  | isADirectory
  /-- A file stands where a directory is wanted. -/
  | notADirectory
  /-- The name is taken. -/
  | alreadyExists
  /-- An argument makes no sense. -/
  | invalidInput
  /-- A name or a path is too long. -/
  | invalidFilename
  /-- The bytes are not what they should be. -/
  | invalidData
  /-- The file ends too early. -/
  | unexpectedEof
  /-- A directory that should be empty is not. -/
  | directoryNotEmpty
  /-- The entry is in use. -/
  | resourceBusy
  /-- The process may not do this. -/
  | permissionDenied
  /-- Not enough memory, or not enough of its addresses, is left. -/
  | outOfMemory
  /-- No file can be that long here. -/
  | fileTooLarge
  /-- No room is left for files. -/
  | storageFull
  /-- None of the kinds that have a name. -/
  | uncategorized
  deriving DecidableEq, Repr

/-- Why the system turns down a request with which nothing is wrong.  Whether it does depends on
what no file shows: on permissions, on limits, and on what others use up. -/
inductive SystemRefusal where
  /-- The process may not do this. -/
  | permissionDenied
  /-- Not enough memory, or not enough of its addresses, is left. -/
  | outOfMemory
  /-- No file can be that long here. -/
  | fileTooLarge
  /-- No room is left for files. -/
  | storageFull
  /-- Another reason, with its number and its text. -/
  | other (number : Nat) (text : String)
  deriving DecidableEq, Repr

/-- A cause of failure. -/
inductive FileError where
  /-- Nothing has this name. -/
  | notFound
  /-- A directory stands where a file is wanted. -/
  | isADirectory
  /-- A file stands where a directory is wanted. -/
  | notADirectory
  /-- The name is taken. -/
  | alreadyExists
  /-- The system does not take this argument. -/
  | invalidArgument
  /-- A name has more than 255 bytes or a path more than 4095. -/
  | nameTooLong
  /-- A directory that should be empty is not. -/
  | directoryNotEmpty
  /-- The root cannot be removed. -/
  | busy
  /-- The path contains a zero byte. -/
  | embeddedNul
  /-- A mapping of no bytes was asked for. -/
  | emptyMapping
  /-- A file cannot be that long. -/
  | lengthTooLarge
  /-- A span to be mapped ends past the file. -/
  | spanPastEnd (fileLength spanEnd : Nat)
  /-- The bytes of a text file are not UTF-8. -/
  | notText
  /-- The system turns the request down. -/
  | turnedDown (refusal : SystemRefusal)
  deriving DecidableEq, Repr

namespace SystemRefusal

/-- The kind that a refusal belongs to. -/
def kind : SystemRefusal → FileErrorKind
  | permissionDenied => .permissionDenied
  | outOfMemory => .outOfMemory
  | fileTooLarge => .fileTooLarge
  | storageFull => .storageFull
  | other _ _ => .uncategorized

/-- The system's report on a refusal. -/
def message : SystemRefusal → String
  | permissionDenied => "Permission denied (os error 13)"
  | outOfMemory => "Cannot allocate memory (os error 12)"
  | fileTooLarge => "File too large (os error 27)"
  | storageFull => "No space left on device (os error 28)"
  | other number text => s!"{text} (os error {number})"

end SystemRefusal

namespace FileError

/-- The kind that a cause belongs to. -/
def kind : FileError → FileErrorKind
  | notFound => .notFound
  | isADirectory => .isADirectory
  | notADirectory => .notADirectory
  | alreadyExists => .alreadyExists
  | invalidArgument | embeddedNul | emptyMapping | lengthTooLarge => .invalidInput
  | nameTooLong => .invalidFilename
  | directoryNotEmpty => .directoryNotEmpty
  | busy => .resourceBusy
  | spanPastEnd _ _ => .unexpectedEof
  | notText => .invalidData
  | turnedDown refusal => refusal.kind

/-- The text that the mapping operations give a cause themselves, if they do. -/
def ownText? : FileError → Option String
  | emptyMapping => some "cannot map a zero-length region"
  | lengthTooLarge => some "number too large to fit in target type"
  | spanPastEnd fileLength spanEnd =>
    some s!"file is {fileLength} bytes, span ends at {spanEnd}"
  | _ => none

/-- The report on a cause. -/
def message (error : FileError) : String :=
  match error with
  | notFound => "No such file or directory (os error 2)"
  | isADirectory => "Is a directory (os error 21)"
  | notADirectory => "Not a directory (os error 20)"
  | alreadyExists => "File exists (os error 17)"
  | invalidArgument => "Invalid argument (os error 22)"
  | nameTooLong => "File name too long (os error 36)"
  | directoryNotEmpty => "Directory not empty (os error 39)"
  | busy => "Device or resource busy (os error 16)"
  | embeddedNul => "file name contained an unexpected NUL byte"
  | notText => "stream did not contain valid UTF-8"
  | turnedDown refusal => refusal.message
  | emptyMapping | lengthTooLarge | spanPastEnd _ _ => (ownText? error).getD ""

end FileError

end Heartbeat
