/-!
# What a process reports while it works

Messages for the logger of a handshake, diagnostic events, and the consultations of the version
check.  Reports go into a journal that nothing reads back, so they cannot change what a process
does.
-/

set_option autoImplicit false

namespace Heartbeat

/-- How much attention a diagnostic event asks for. -/
inductive Severity where
  /-- Of use when looking for a mistake. -/
  | debug
  /-- Of interest. -/
  | info
  /-- Possibly unwanted. -/
  | warn
  deriving DecidableEq, Repr

/-- The value of a field of a diagnostic event. -/
inductive Detail where
  /-- A number. -/
  | number (value : Int)
  /-- A text. -/
  | text (value : String)
  deriving DecidableEq, Repr

/-- One report. -/
inductive Report where
  /-- A message that a logger collected. -/
  | message (text : String)
  /-- A diagnostic event. -/
  | event (severity : Severity) (text : String) (details : List (String × Detail))
  /-- A version was shown to the version check. -/
  | consulted (version : Int32)
  deriving DecidableEq, Repr

/-- What a logger makes of a message. -/
abbrev Logger := String → Report

namespace Logger

/-- The logger that collects its messages. -/
def collecting : Logger := .message

/-- The logger that turns its messages into diagnostic events. -/
def diagnostic : Logger := fun text => .event .info text []

end Logger

end Heartbeat
