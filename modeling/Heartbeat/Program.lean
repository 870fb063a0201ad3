import Heartbeat.Complaint
import Heartbeat.Handshake

/-!
# Programs

A program is a computation that may give up with a complaint.  The failure of a step becomes the
complaint, under the name of what was being done where that says more than the failure itself.

Both programs start alike.  They read the configuration, then the protocol version in it, then the
layout, and complain about the first of these that is not in order.
-/

set_option autoImplicit false

namespace Heartbeat

/-- A computation that may give up with a complaint. -/
abbrev Program (m : Type → Type) (α : Type) : Type := ExceptT Complaint m α

namespace Program

variable {m : Type → Type} [Observer m]

/-- Does a step, and complains of its failure. -/
def step {α : Type} (process : m α) : Program m α := ExceptT.mk do
  match ← Observer.attempt process with
  | .ok value => pure (.ok value)
  | .error failure => pure (.error (.ofFailure failure))

/-- Does a step, and complains of its failure as the cause why a task failed. -/
def stepOf {α : Type} (task : String) (process : m α) : Program m α := ExceptT.mk do
  match ← Observer.attempt process with
  | .ok value => pure (.ok value)
  | .error failure => pure (.error ((Complaint.ofFailure failure).under task))

/-- Takes a result that was computed beforehand, or complains of its error. -/
def ofExcept {ε α : Type} (complain : ε → Complaint) : Except ε α → Program m α
  | .ok value => pure value
  | .error error => throw (complain error)

/-- Reads the configuration at a path.  Without a path every key has its default. -/
def configuration : (path : Option String) → Program m Configuration
  | none => pure .default
  | some path => do
    let loaded ← step (Observer.look fun storage => .ok (Configuration.load storage path))
    ofExcept .ofConfigurationError loaded

end Program

namespace Configuration

/-- The version and the settings that a configuration asks for. -/
def terms (configuration : Configuration) : Except Complaint (SemanticVersion × Handshake) :=
  match SemanticVersion.read configuration.protocolVersion with
  | .error error => .error (.ofUnreadableVersion error)
  | .ok version =>
    match Layout.ofOffsets configuration.versionOffset configuration.timestampOffset with
    | .error refusal => .error (.ofFailure (.refused refusal))
    | .ok layout =>
      .ok (version,
        { layout
          timeout := configuration.timeout
          check := .sameMajor version
          logger := some .diagnostic
          warnsOfDirectory := configuration.warnsOfDirectory })

/-- The directory and the name of the file, as the programs print them. -/
def place (configuration : Configuration) : String :=
  configuration.directory ++ "/" ++ configuration.filename

end Configuration

end Heartbeat
