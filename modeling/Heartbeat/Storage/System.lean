import Heartbeat.Storage.Error
import Heartbeat.Storage.Tree

/-!
# What the system is asked for

To open, to size and to map a file are requests, and the system may turn down each of them for
reasons that no file shows.  All that a request names is in its `Demand`, and a `System` answers
every demand.

No operation makes a demand twice: where one both looks at a file and makes one, it has a demand of
its own for each step of the two.  So one answer to each demand is all that an operation can find
out, and what another operation finds may be another system.
-/

set_option autoImplicit false

namespace Heartbeat

/-- What is asked of the system before a file is in view. -/
inductive Demand where
  /-- To open a file of which a span is to be mapped. -/
  | opening (path : String)
  /-- To open a file, and to make it if there is none. -/
  | making (path : String)
  /-- To give an opened file a length. -/
  | sizing (object : ObjectId) (length : Nat)
  /-- To map an opened file from its beginning. -/
  | mapping (object : ObjectId) (length : Nat)
  /-- To map a span of an opened file. -/
  | span (object : ObjectId) (offset length : Nat)
  deriving DecidableEq, Repr

/-- The answers to all demands.  A demand without a refusal is granted. -/
def System : Type := Demand → Option SystemRefusal

namespace System

/-- The system that grants everything. -/
def generous : System := fun _ => none

/-- A demand is granted. -/
def Grants (system : System) (demand : Demand) : Prop := system demand = none

/-- What a demand comes to. -/
def answer (system : System) (demand : Demand) : Except FileError Unit :=
  match system demand with
  | none => .ok ()
  | some refusal => .error (.turnedDown refusal)

instance (system : System) (demand : Demand) : Decidable (system.Grants demand) :=
  inferInstanceAs (Decidable (system demand = none))

@[simp]
theorem grants_generous (demand : Demand) : generous.Grants demand := rfl

theorem answer_of_grants {system : System} {demand : Demand} (grants : system.Grants demand) :
    system.answer demand = .ok () := by
  unfold answer
  rw [show system demand = none from grants]

theorem answer_eq_ok_iff {system : System} {demand : Demand} :
    system.answer demand = .ok () ↔ system.Grants demand := by
  constructor
  · intro granted
    unfold answer at granted
    split at granted
    · assumption
    · cases granted
  · exact answer_of_grants

/-- A demand that is not granted is turned down. -/
theorem answer_of_not_grants {system : System} {demand : Demand}
    (refuses : ¬ system.Grants demand) :
    ∃ refusal, system.answer demand = .error (.turnedDown refusal) := by
  unfold answer
  cases refused : system demand with
  | none => exact absurd refused refuses
  | some refusal => exact ⟨refusal, rfl⟩

/-- What is not answered by a grant is answered by a refusal. -/
theorem answer_eq_error {system : System} {demand : Demand} {error : FileError}
    (refused : system.answer demand = .error error) : ∃ refusal, error = .turnedDown refusal := by
  unfold answer at refused
  split at refused
  · cases refused
  · next refusal _ => exact ⟨refusal, (Except.error.inj refused).symm⟩

end System

end Heartbeat
