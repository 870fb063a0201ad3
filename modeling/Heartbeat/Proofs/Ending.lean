import Heartbeat.Proofs.Budget
import Heartbeat.Proofs.Verdict

/-!
# How a process that is granted rounds comes to an end

A process that waits is granted rounds, and a process that has ended within some number of rounds
ends in the same way within any greater number (`Patient`).  So it makes sense to say that it ends in
some way, without saying within how many rounds (`Ends`), and where one patient process follows
another, the two end as the second does from where the first ended (`ends_bind_iff`).

The waits for a file, for a version and for a heartbeat are patient, and they end as waits do
(`ends_awaitFile_iff`, `ends_awaitVersion_iff`, `ends_awaitHeartbeat_iff`).
-/

set_option autoImplicit false

namespace Heartbeat

variable {α β : Type}

/-- Granted some number of rounds, a process ends with a result in an environment. -/
def Ends (process : (rounds : Nat) → Activity α) (environment : Environment)
    (result : Except Failure α) (ended : Environment) : Prop :=
  ∃ rounds, (process rounds).run environment = .ofExcept result ended

/-- A process that ended within some number of rounds ends in the same way within any greater
number. -/
def Patient (process : (rounds : Nat) → Activity α) : Prop :=
  ∀ environment rounds result ended, (process rounds).run environment = .ofExcept result ended →
    ∀ more, rounds ≤ more → (process more).run environment = .ofExcept result ended

/-! ## Patience -/

namespace Patient

/-- A process that is not granted rounds has nothing to wait for. -/
theorem const (activity : Activity α) : Patient fun _ => activity :=
  fun _ _ _ _ ends _ _ => ends

theorem bind {process : Nat → Activity α} {next : Nat → α → Activity β} (first : Patient process)
    (second : ∀ value, Patient fun rounds => next rounds value) :
    Patient fun rounds => process rounds >>= next rounds := by
  intro environment rounds result ended ends more many
  rw [Activity.run_bind] at ends ⊢
  cases begun : (process rounds).run environment with
  | returned value middle =>
    rw [begun] at ends
    rw [first _ _ (.ok value) middle begun _ many]
    exact second value _ _ _ _ ends _ many
  | failed failure middle =>
    rw [begun] at ends
    rw [first _ _ (.error failure) middle begun _ many]
    exact ends
  | pending =>
    rw [begun] at ends
    exact absurd ends.symm (Outcome.ofExcept_ne_pending _ _)

/-- A wait with one more round does what the wait without it does, if that ends. -/
theorem pollUntilDeadline (deadline : Milliseconds) (interval : Nat)
    (probe : Activity (Option α)) :
    Patient (Heartbeat.pollUntilDeadline deadline interval probe) := by
  intro environment rounds result ended ends more many
  induction rounds generalizing environment more with
  | zero => exact absurd ends.symm (Outcome.ofExcept_ne_pending _ _)
  | succ rounds ih =>
    obtain ⟨more, rfl⟩ := Nat.exists_eq_add_of_le' (Nat.le_of_add_left_le many : 1 ≤ more)
    have rest := Nat.le_of_succ_le_succ many
    rw [Heartbeat.pollUntilDeadline, Activity.run_bind] at ends ⊢
    cases probed : probe.run environment with
    | failed _ _ | pending =>
      rw [probed] at ends
      exact ends
    | returned found after =>
      rw [probed] at ends
      cases found with
      | some _ => exact ends
      | none =>
        simp only [Activity.run_bind_of_returned _ (Activity.run_now _)] at ends ⊢
        by_cases late : deadline < after.world.shown
        · rw [if_pos late] at ends ⊢
          exact ends
        · rw [if_neg late] at ends ⊢
          rw [Activity.run_bind_of_returned _ (Activity.run_pause _ interval)] at ends ⊢
          exact ih _ ends _ rest

end Patient

/-! ## Ends of processes that follow each other -/

section Ends

variable {process : Nat → Activity α} {next : Nat → α → Activity β} {environment : Environment}
  {result : Except Failure β} {ended : Environment}

/-- A process that is not granted rounds ends as it runs. -/
theorem ends_const_iff {activity : Activity β} :
    Ends (fun _ => activity) environment result ended ↔
      activity.run environment = .ofExcept result ended :=
  ⟨fun ⟨_, ends⟩ => ends, fun ends => ⟨0, ends⟩⟩

/-- A process and those that follow it end as the latter do from where the former ended, or where
the former failed. -/
theorem ends_bind_iff (first : Patient process)
    (second : ∀ value, Patient fun rounds => next rounds value) :
    Ends (fun rounds => process rounds >>= next rounds) environment result ended ↔
      (∃ failure, Ends process environment (.error failure) ended ∧ result = .error failure) ∨
        ∃ value middle, Ends process environment (.ok value) middle ∧
          Ends (fun rounds => next rounds value) middle result ended := by
  constructor
  · rintro ⟨rounds, ends⟩
    rw [Activity.run_bind] at ends
    cases begun : (process rounds).run environment with
    | returned value middle =>
      rw [begun] at ends
      exact .inr ⟨value, middle, ⟨rounds, begun⟩, rounds, ends⟩
    | failed failure middle =>
      rw [begun] at ends
      obtain ⟨rfl, rfl⟩ := Outcome.ofExcept_inj.1 (show Outcome.ofExcept (.error failure) middle =
        Outcome.ofExcept result ended from ends)
      exact .inl ⟨failure, ⟨rounds, begun⟩, rfl⟩
    | pending =>
      rw [begun] at ends
      exact absurd ends.symm (Outcome.ofExcept_ne_pending _ _)
  · rintro (⟨failure, ⟨rounds, begun⟩, rfl⟩ | ⟨value, middle, ⟨earlier, begun⟩, later, ends⟩)
    · exact ⟨rounds, Activity.run_bind_of_failed _ begun⟩
    · refine ⟨max earlier later, ?_⟩
      rw [Activity.run_bind_of_returned _ (first _ _ (.ok value) _ begun _ (Nat.le_max_left _ _))]
      exact second value _ _ _ _ ends _ (Nat.le_max_right _ _)

/-- An activity that is not granted rounds, after a process that is. -/
theorem ends_bind_activity_iff (first : Patient process) {then' : α → Activity β} :
    Ends (fun rounds => process rounds >>= then') environment result ended ↔
      (∃ failure, Ends process environment (.error failure) ended ∧ result = .error failure) ∨
        ∃ value middle, Ends process environment (.ok value) middle ∧
          (then' value).run middle = .ofExcept result ended := by
  rw [ends_bind_iff first fun value => .const (then' value)]
  simp only [ends_const_iff]

/-- What follows an activity that returns goes on from there. -/
theorem ends_bind_of_returned {activity : Activity α} {value : α} {middle : Environment}
    (returned : activity.run environment = .returned value middle) :
    Ends (fun rounds => activity >>= next rounds) environment result ended ↔
      Ends (fun rounds => next rounds value) middle result ended := by
  simp only [Ends, Activity.run_bind_of_returned _ returned]

/-- Nothing follows an activity that fails. -/
theorem ends_bind_of_failed {activity : Activity α} {failure : Failure} {middle : Environment}
    (failed : activity.run environment = .failed failure middle) :
    Ends (fun rounds => activity >>= next rounds) environment result ended ↔
      result = .error failure ∧ ended = middle := by
  have fails : Outcome.ofExcept result ended = .ofExcept (.error failure) middle ↔ _ :=
    Outcome.ofExcept_inj
  rw [Outcome.ofExcept_error, eq_comm] at fails
  simp only [Ends, Activity.run_bind_of_failed _ failed, fails, exists_const]

end Ends

/-! ## Ends of waits -/

section Waits

variable {probe : Activity (Option α)} {seen : Storage → Option α}
  (looks : ∀ environment : Environment,
    probe.run environment = .returned (seen environment.storage) environment)
  (deadline : Milliseconds) (interval : Nat) {finish : Option α → Activity β} (give : α → β)
  {refusal : Refusal} (gives : ∀ value, finish (some value) = pure (give value))
  (refuses : finish none = Observer.fail (.refused refusal))
  {environment : Environment} {result : Except Failure β} {ended : Environment}

include looks gives refuses

/-- A wait that is refused when it ends empty-handed comes to the ends of waits and no others. -/
theorem ends_pollUntilDeadline_iff :
    Ends (fun rounds => pollUntilDeadline deadline interval probe rounds >>= finish) environment
        result ended ↔
      ∃ found after, Waits seen deadline environment.world found after ∧
        result = found.elim (.error (.refused refusal)) (fun value => .ok (give value)) ∧
        ended = environment.inside after := by
  constructor
  · rintro ⟨rounds, ends⟩
    rcases run_pollUntilDeadline_refusing looks deadline interval give gives refuses rounds
      environment with ⟨pending, _⟩ | ⟨found, after, waits, run⟩
    · exact absurd (ends.symm.trans pending) (Outcome.ofExcept_ne_pending _ _)
    · obtain ⟨rfl, rfl⟩ := Outcome.ofExcept_inj.1 (ends.symm.trans run)
      exact ⟨found, after, waits, rfl, rfl⟩
  · rintro ⟨found, after, waits, rfl, rfl⟩
    obtain ⟨enough, ends⟩ := run_pollUntilDeadline_refusing_of_waits looks deadline interval give
      gives refuses environment waits
    exact ⟨enough, ends enough (Nat.le_refl _)⟩

end Waits

section Aims

variable (deadline : Milliseconds) {environment : Environment} {ended : Environment}

/-- How the wait for a file ends. -/
theorem ends_awaitFile_iff (path : String) (required : Nat) {result : Except Failure Unit} :
    Ends (Handshake.awaitFile path required deadline) environment result ended ↔
      ∃ found after, Waits (·.sizeFrom? path required) deadline environment.world found after ∧
        result = found.elim (.error (.refused (.fileNotFound path))) (fun _ => .ok ()) ∧
        ended = environment.inside after :=
  ends_pollUntilDeadline_iff (Handshake.run_fileProbe path required) deadline filePollInterval
    (fun _ => ()) (fun _ => rfl) rfl

theorem patient_awaitFile (path : String) (required : Nat) :
    Patient (Handshake.awaitFile path required deadline : Nat → Activity Unit) :=
  .bind (.pollUntilDeadline _ _ _) fun _ => .const _

variable {fields : ControlFields}

theorem patient_awaitVersion : Patient (fields.awaitVersion deadline : Nat → Activity Int32) :=
  .bind (.pollUntilDeadline _ _ _) fun _ => .const _

theorem patient_awaitHeartbeat :
    Patient (fields.awaitHeartbeat deadline : Nat → Activity Milliseconds) :=
  .bind (.pollUntilDeadline _ _ _) fun _ => .const _

variable (fit : fields.Fit)
include fit

/-- How the wait for a version ends. -/
theorem ends_awaitVersion_iff {result : Except Failure Int32} :
    Ends (fields.awaitVersion deadline) environment result ended ↔
      ∃ found after, Waits fields.published? deadline environment.world found after ∧
        result = found.elim (.error (.refused .notInitialized)) .ok ∧
        ended = environment.inside after :=
  ends_pollUntilDeadline_iff (ControlFields.run_versionProbe fit) deadline fieldPollInterval id
    (fun _ => rfl) rfl

/-- How the wait for a heartbeat ends. -/
theorem ends_awaitHeartbeat_iff {result : Except Failure Milliseconds} :
    Ends (fields.awaitHeartbeat deadline) environment result ended ↔
      ∃ found after, Waits fields.heartbeat? deadline environment.world found after ∧
        result = found.elim (.error (.refused .noHeartbeat)) .ok ∧
        ended = environment.inside after :=
  ends_pollUntilDeadline_iff (ControlFields.run_heartbeatProbe fit) deadline fieldPollInterval id
    (fun _ => rfl) rfl

end Aims

end Heartbeat
