import Heartbeat.Fault
import Heartbeat.Storage.Files
import Heartbeat.Timestamp
import Heartbeat.Toml.Document

/-!
# The configuration of the two programs

The owner and the watcher of a region share one configuration, a TOML document in which every key
is optional.  A key that is given has to have a value of the right type and range, a key that is not
given has its default, and keys that neither program knows are ignored.

The defaults are used in two places: for the configuration without a document, and key by key for the
keys that a document leaves out.
-/

set_option autoImplicit false

namespace Heartbeat

namespace Toml

/-- The text that a value is. -/
def Item.text? : Item → Option String
  | .text value => some value
  | _ => none

/-- The truth value that a value is. -/
def Item.boolean? : Item → Option Bool
  | .boolean value => some value
  | _ => none

/-- The size, offset or number of milliseconds that a value is. -/
def Item.size? : Item → Option Nat
  | .integer value => if 0 ≤ value ∧ value < addressSpace then some value.toNat else none
  | _ => none

/-- The signed span of time that a value is. -/
def Item.milliseconds? : Item → Option Milliseconds
  | .integer value =>
    if Int64.minValue.toInt ≤ value ∧ value ≤ Int64.maxValue.toInt then some (Int64.ofInt value)
    else none
  | _ => none

/-- What a key is set to: the reading of its value, or the default of a key that is absent. -/
def Entries.setting {α : Type} (entries : Entries) (key : String) (read : Item → Option α)
    (default : α) : Option α :=
  match entries.get? key with
  | none => some default
  | some item => read item

end Toml

namespace Configuration.Defaults

/-- The directory in which an owner that is told no other makes its file. -/
def directory : String := "/dev/shm/vigil"

/-- The name of the file. -/
def filename : String := "cnc.dat"

/-- The length of the file, which is a page. -/
def fileLength : Nat := 4096

/-- The offset of the timestamp field, the first multiple of its size after a version field at the
start. -/
def timestampOffset : Nat := 8

/-- The timeout. -/
def timeout : Milliseconds := 1000

/-- The pause between two heartbeats. -/
def heartbeatInterval : Nat := 100

/-- Owners warn of a directory. -/
def warnsOfDirectory : Bool := true

/-- The protocol version. -/
def protocolVersion : String := "1.0.0"

/-- The events that are printed. -/
def logLevel : String := "info"

end Configuration.Defaults

/-- The settings that an owner and its watchers share. -/
structure Configuration where
  /-- The directory that holds the file. -/
  directory : String := Configuration.Defaults.directory
  /-- The name of the file in it. -/
  filename : String := Configuration.Defaults.filename
  /-- The length of the file. -/
  fileLength : Nat := Configuration.Defaults.fileLength
  /-- The offset of the version field. -/
  versionOffset : Nat := 0
  /-- The offset of the timestamp field. -/
  timestampOffset : Nat := Configuration.Defaults.timestampOffset
  /-- How old a live owner's heartbeat may be, and how long a wait may take. -/
  timeout : Milliseconds := Configuration.Defaults.timeout
  /-- The pause between two heartbeats, and between two looks at them, in milliseconds. -/
  heartbeatInterval : Nat := Configuration.Defaults.heartbeatInterval
  /-- Whether the owner deletes the directory without asking whether somebody lives there. -/
  replacesDirectory : Bool := false
  /-- Whether the owner reports a directory that is there before it starts. -/
  warnsOfDirectory : Bool := Configuration.Defaults.warnsOfDirectory
  /-- The version that the owner publishes and the watcher expects. -/
  protocolVersion : String := Configuration.Defaults.protocolVersion
  /-- Which diagnostic events are printed. -/
  logLevel : String := Configuration.Defaults.logLevel
  deriving DecidableEq, Repr

/-- Why there is no configuration. -/
inductive ConfigurationError where
  /-- The document could not be read. -/
  | unreadable (path : String) (cause : FileError)
  /-- The document is malformed, or a key has a value of a wrong type or range. -/
  | malformed
  deriving DecidableEq, Repr

namespace ConfigurationError

/-- The report on a configuration that there is not. -/
def message : ConfigurationError → String
  | unreadable path _ => s!"failed to read '{path}'"
  | malformed => "failed to parse config"

/-- The report on what made the document unreadable. -/
def causes : ConfigurationError → List String
  | unreadable _ cause => [cause.message]
  | malformed => []

end ConfigurationError

namespace Configuration

/-- The configuration in which no key is given. -/
def default : Configuration := {}

/-- The configuration that the entries of a document give.  A key that is not among them has a default
of its own, or that of its type. -/
def ofEntries? (entries : Toml.Entries) : Option Configuration := do
  let directory ← entries.setting "cnc_dir" Toml.Item.text? Defaults.directory
  let filename ← entries.setting "filename" Toml.Item.text? Defaults.filename
  let fileLength ← entries.setting "total_file_length" Toml.Item.size? Defaults.fileLength
  let versionOffset ← entries.setting "version_field_offset" Toml.Item.size? 0
  let timestampOffset ←
    entries.setting "timestamp_field_offset" Toml.Item.size? Defaults.timestampOffset
  let timeout ← entries.setting "timeout_ms" Toml.Item.milliseconds? Defaults.timeout
  let heartbeatInterval ←
    entries.setting "heartbeat_interval_ms" Toml.Item.size? Defaults.heartbeatInterval
  let replacesDirectory ← entries.setting "dir_delete_on_start" Toml.Item.boolean? false
  let warnsOfDirectory ←
    entries.setting "warn_if_directory_exists" Toml.Item.boolean? Defaults.warnsOfDirectory
  let protocolVersion ←
    entries.setting "protocol_version" Toml.Item.text? Defaults.protocolVersion
  let logLevel ← entries.setting "log_level" Toml.Item.text? Defaults.logLevel
  return { directory, filename, fileLength, versionOffset, timestampOffset, timeout,
           heartbeatInterval, replacesDirectory, warnsOfDirectory, protocolVersion, logLevel }

/-- The configuration that a document gives. -/
def ofDocument (document : String) : Except ConfigurationError Configuration :=
  match Toml.Entries.ofDocument? document with
  | none => .error .malformed
  | some entries =>
    match ofEntries? entries with
    | none => .error .malformed
    | some configuration => .ok configuration

/-- The configuration in a file. -/
def load (storage : Storage) (path : String) : Except ConfigurationError Configuration :=
  match storage.readText path with
  | .error cause => .error (.unreadable path cause)
  | .ok document => ofDocument document

end Configuration

end Heartbeat
