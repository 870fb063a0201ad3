import Heartbeat.Layout
import Heartbeat.Observer
import Heartbeat.Poll
import Heartbeat.VersionCheck

/-!
# The settings of a handshake

What a process has to know to create, adopt or watch a region: where the control fields lie, how old
a heartbeat may be, which versions are acceptable, and what to do with messages.  The clock is not
among them; it belongs to what the process runs in.

The timeout is both the greatest age of a live owner's heartbeat and the budget of every wait.
-/

set_option autoImplicit false

namespace Heartbeat

/-- The timeout of a handshake that asks for none, in milliseconds. -/
def defaultTimeout : Milliseconds := 10000

/-- The pause between two looks at a control field, in milliseconds. -/
def fieldPollInterval : Nat := 1

/-- The pause between two looks for a file, in milliseconds. -/
def filePollInterval : Nat := 16

/-- The settings of a handshake. -/
structure Handshake where
  /-- Where the control fields lie. -/
  layout : Layout
  /-- How old a live owner's heartbeat may be, and how long a wait may take. -/
  timeout : Milliseconds := defaultTimeout
  /-- Which versions are acceptable. -/
  check : VersionCheck := .any
  /-- What becomes of messages, if anything does. -/
  logger : Option Logger := none
  /-- Whether to report a directory that is there before a region is created in it. -/
  warnsOfDirectory : Bool := false

namespace Handshake

variable {m : Type → Type} [Observer m]

/-- Hands a message to the logger, if there is one. -/
def log (handshake : Handshake) (message : String) : m Unit :=
  match handshake.logger with
  | some logger => Observer.report (logger message)
  | none => pure ()

/-- Shows a version to the version check and fails with its refusal. -/
def consult (handshake : Handshake) (version : Int32) : m Unit := do
  Observer.report (.consulted version)
  match handshake.check version with
  | .ok () => pure ()
  | .error refusal => Observer.fail (.refused refusal)

/-- The settings as a diagnostic shows them. -/
def description (handshake : Handshake) : String :=
  let layout := handshake.layout
  "Handshake \x7b layout: ControlLayout \x7b version_offset: " ++ toString layout.versionOffset ++
    ", timestamp_offset: " ++ toString layout.timestampOffset ++
    " \x7d, timeout_ms: " ++ toString handshake.timeout.toInt ++
    ", logger: " ++ toString handshake.logger.isSome ++
    ", warn_if_directory_exists: " ++ toString handshake.warnsOfDirectory ++ ", .. \x7d"

end Handshake

end Heartbeat
