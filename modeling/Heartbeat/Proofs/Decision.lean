import Heartbeat.Liveness
import Heartbeat.Proofs.Access
import Heartbeat.Proofs.Waiting

/-!
# What the liveness decision answers

The decision makes one deadline, waits until it for a version, then for a heartbeat, asks the
version check, and reads the clock once more for the age.  `Decides` tells the possible courses of
this on control fields that fit their region, with the answer and the world in which each of them
ends.

`run_isActiveOn` says that a decision that ends within its rounds takes one of these courses, and
`run_isActiveOn_of_decides` that each of them is taken, given enough rounds.  All that a decision
does to its world is to read the clock (`Decides.ticks`), and it fails only for one of three reasons
(`Decides.refusal`).
-/

set_option autoImplicit false

namespace Heartbeat

/-- A value other than zero. -/
def nonzero? {α : Type} [DecidableEq α] [OfNat α 0] (value : α) : Option α :=
  if value = 0 then none else some value

theorem nonzero?_eq_some {α : Type} [DecidableEq α] [OfNat α 0] {value other : α} :
    nonzero? value = some other ↔ value = other ∧ other ≠ 0 := by
  unfold nonzero?
  by_cases zero : value = 0
  · rw [if_pos zero]
    exact ⟨nofun, fun ⟨same, other⟩ => absurd (same.symm.trans zero) other⟩
  · rw [if_neg zero, Option.some.injEq]
    exact ⟨fun same => ⟨same, same ▸ zero⟩, And.left⟩

theorem nonzero?_eq_none {α : Type} [DecidableEq α] [OfNat α 0] {value : α} :
    nonzero? value = none ↔ value = 0 := by
  unfold nonzero?
  by_cases zero : value = 0 <;> simp [zero]

namespace ControlFields

variable {fields : ControlFields}

/-- The version that a storage shows as published. -/
def published? (fields : ControlFields) (storage : Storage) : Option Int32 :=
  nonzero? (fields.versionIn storage)

/-- The heartbeat that a storage shows. -/
def heartbeat? (fields : ControlFields) (storage : Storage) : Option Milliseconds :=
  nonzero? (fields.timestampIn storage)

section Probes

variable (fit : fields.Fit) (environment : Environment)
include fit

/-- A look at the version field of a region that fits. -/
theorem run_versionProbe :
    (do
      let version ← Observer.look fun storage => Failure.ofFault (fields.version storage)
      pure (if version = 0 then none else some version) : Activity (Option Int32)).run environment =
    .returned (fields.published? environment.storage) environment := by
  have sight : (Observer.look fun storage => Failure.ofFault (fields.version storage) :
      Activity Int32).run environment =
        .returned (fields.versionIn environment.storage) environment := by
    rw [Activity.run_look, fit.version_eq]
    rfl
  rw [Activity.run_bind_of_returned _ sight]
  rfl

/-- A look at the timestamp field of a region that fits. -/
theorem run_heartbeatProbe :
    (do
      let timestamp ← Observer.look fun storage => Failure.ofFault (fields.timestamp storage)
      pure (if timestamp = 0 then none else some timestamp) :
        Activity (Option Milliseconds)).run environment =
    .returned (fields.heartbeat? environment.storage) environment := by
  have sight : (Observer.look fun storage => Failure.ofFault (fields.timestamp storage) :
      Activity Milliseconds).run environment =
        .returned (fields.timestampIn environment.storage) environment := by
    rw [Activity.run_look, fit.timestamp_eq]
    rfl
  rw [Activity.run_bind_of_returned _ sight]
  rfl

end Probes

section Waits

variable (fit : fields.Fit) (deadline : Milliseconds)
include fit

/-- A wait for a version is still going on, gives the version, or is refused at the deadline. -/
theorem run_awaitVersion (rounds : Nat) (environment : Environment) :
    ((fields.awaitVersion deadline rounds : Activity Int32).run environment = .pending ∧
        environment.world.InTime deadline rounds) ∨
      ∃ result after, Waits fields.published? deadline environment.world result after ∧
        (fields.awaitVersion deadline rounds : Activity Int32).run environment =
          .ofExcept (result.elim (.error (.refused .notInitialized)) .ok)
            (environment.inside after) :=
  run_pollUntilDeadline_refusing (run_versionProbe fit) deadline fieldPollInterval id
    (fun _ => rfl) rfl rounds environment

theorem run_awaitVersion_of_waits (environment : Environment) {result : Option Int32}
    {after : World} (waits : Waits fields.published? deadline environment.world result after) :
    ∃ enough, ∀ rounds, enough ≤ rounds →
      (fields.awaitVersion deadline rounds : Activity Int32).run environment =
        .ofExcept (result.elim (.error (.refused .notInitialized)) .ok)
          (environment.inside after) :=
  run_pollUntilDeadline_refusing_of_waits (run_versionProbe fit) deadline fieldPollInterval id
    (fun _ => rfl) rfl environment waits

/-- A wait for a heartbeat is still going on, gives the heartbeat, or is refused at the deadline. -/
theorem run_awaitHeartbeat (rounds : Nat) (environment : Environment) :
    ((fields.awaitHeartbeat deadline rounds : Activity Milliseconds).run environment = .pending ∧
        environment.world.InTime deadline rounds) ∨
      ∃ result after, Waits fields.heartbeat? deadline environment.world result after ∧
        (fields.awaitHeartbeat deadline rounds : Activity Milliseconds).run environment =
          .ofExcept (result.elim (.error (.refused .noHeartbeat)) .ok)
            (environment.inside after) :=
  run_pollUntilDeadline_refusing (run_heartbeatProbe fit) deadline fieldPollInterval id
    (fun _ => rfl) rfl rounds environment

theorem run_awaitHeartbeat_of_waits (environment : Environment) {result : Option Milliseconds}
    {after : World} (waits : Waits fields.heartbeat? deadline environment.world result after) :
    ∃ enough, ∀ rounds, enough ≤ rounds →
      (fields.awaitHeartbeat deadline rounds : Activity Milliseconds).run environment =
        .ofExcept (result.elim (.error (.refused .noHeartbeat)) .ok)
          (environment.inside after) :=
  run_pollUntilDeadline_refusing_of_waits (run_heartbeatProbe fit) deadline fieldPollInterval id
    (fun _ => rfl) rfl environment waits

/-- A version that is there already is given at once. -/
theorem run_awaitVersion_of_shown {rounds : Nat} (granted : rounds ≠ 0)
    (environment : Environment) (shown : fields.versionIn environment.storage ≠ 0) :
    (fields.awaitVersion deadline rounds : Activity Int32).run environment =
      .returned (fields.versionIn environment.storage) environment :=
  run_pollUntilDeadline_refusing_of_seen (run_versionProbe fit) deadline fieldPollInterval id
    (fun _ => rfl) rfl granted environment (nonzero?_eq_some.2 ⟨rfl, shown⟩)

/-- A heartbeat that is there already is given at once. -/
theorem run_awaitHeartbeat_of_shown {rounds : Nat} (granted : rounds ≠ 0)
    (environment : Environment) (shown : fields.timestampIn environment.storage ≠ 0) :
    (fields.awaitHeartbeat deadline rounds : Activity Milliseconds).run environment =
      .returned (fields.timestampIn environment.storage) environment :=
  run_pollUntilDeadline_refusing_of_seen (run_heartbeatProbe fit) deadline fieldPollInterval id
    (fun _ => rfl) rfl granted environment (nonzero?_eq_some.2 ⟨rfl, shown⟩)

end Waits

end ControlFields

/-! ## The decision -/

namespace Handshake

variable {handshake : Handshake} {fields : ControlFields} {world : World}

/-- The deadline that a wait makes in a world. -/
def deadlineIn (handshake : Handshake) (world : World) : Milliseconds :=
  world.shown.saturatingAdd handshake.timeout

/-- The two waits of a decision succeed: they give a version and a heartbeat, the latter in a world
in which the decision goes on. -/
structure Sights (handshake : Handshake) (fields : ControlFields) (world : World)
    (version : Int32) (timestamp : Milliseconds) (sighted : World) : Prop where
  waited : ∃ published,
    Waits fields.published? (handshake.deadlineIn world) world.tick (some version) published ∧
      Waits fields.heartbeat? (handshake.deadlineIn world) published (some timestamp) sighted

/-- What a decision reports when its version check has accepted a version. -/
def assessment (handshake : Handshake) (version : Int32) (age : Milliseconds) : List Report :=
  .consulted version :: (handshake.messages s!"heartbeat age is {age.toInt} ms" ++
    [.event .debug "evaluated cnc liveness"
      [("version", .number version.toInt), ("age_ms", .number age.toInt),
        ("timeout_ms", .number handshake.timeout.toInt)]])

/-- The courses that a decision can take from a world, with its answer, the world in which it ends
and what it reports. -/
inductive Decides (handshake : Handshake) (fields : ControlFields) (world : World) :
    Except Failure Bool → World → List Report → Prop where
  | notInitialized {after : World}
      (silent : Waits fields.published? (handshake.deadlineIn world) world.tick none after) :
      Decides handshake fields world (.error (.refused .notInitialized)) after []
  | noHeartbeat {version : Int32} {published after : World}
      (initialized :
        Waits fields.published? (handshake.deadlineIn world) world.tick (some version) published)
      (silent : Waits fields.heartbeat? (handshake.deadlineIn world) published none after) :
      Decides handshake fields world (.error (.refused .noHeartbeat)) after []
  | rejected {version : Int32} {timestamp : Milliseconds} {sighted : World} {refusal : Refusal}
      (sights : handshake.Sights fields world version timestamp sighted)
      (rejects : handshake.check version = .error refusal) :
      Decides handshake fields world (.error (.refused refusal)) sighted [.consulted version]
  | decided {version : Int32} {timestamp : Milliseconds} {sighted : World}
      (sights : handshake.Sights fields world version timestamp sighted)
      (accepts : handshake.check version = .ok ()) :
      Decides handshake fields world
        (.ok (isFresh (heartbeatAge sighted.shown timestamp) handshake.timeout)) sighted.tick
        (handshake.assessment version (heartbeatAge sighted.shown timestamp))

theorem Sights.ticks {version : Int32} {timestamp : Milliseconds} {sighted : World}
    (sights : handshake.Sights fields world version timestamp sighted) :
    ∃ readings, sighted = world.ticks readings := by
  obtain ⟨_, first, second⟩ := sights.waited
  obtain ⟨earlier, rfl⟩ := first.ticks
  obtain ⟨later, rfl⟩ := second.ticks
  exact ⟨1 + earlier + later, by rw [World.ticks_add, World.ticks_add]; rfl⟩

/-- All that a decision does to its world is to read the clock. -/
theorem Decides.ticks {answer : Except Failure Bool} {after : World} {reports : List Report}
    (decides : handshake.Decides fields world answer after reports) :
    ∃ readings, after = world.ticks readings := by
  cases decides with
  | notInitialized silent =>
    obtain ⟨readings, rfl⟩ := silent.ticks
    exact ⟨readings + 1, rfl⟩
  | noHeartbeat initialized silent =>
    obtain ⟨earlier, rfl⟩ := initialized.ticks
    obtain ⟨later, rfl⟩ := silent.ticks
    exact ⟨1 + earlier + later, by rw [World.ticks_add, World.ticks_add]; rfl⟩
  | rejected sights _ => exact sights.ticks
  | decided sights _ =>
    obtain ⟨readings, rfl⟩ := sights.ticks
    exact ⟨readings + 1, world.tick_ticks readings⟩

/-- A decision fails because there is no version, because there is no heartbeat, or because the
check refuses the version. -/
theorem Decides.refusal {failure : Failure} {after : World} {reports : List Report}
    (decides : handshake.Decides fields world (.error failure) after reports) :
    failure = .refused .notInitialized ∨ failure = .refused .noHeartbeat ∨
      ∃ version refusal, version ≠ 0 ∧ handshake.check version = .error refusal ∧
        failure = .refused refusal := by
  cases decides with
  | notInitialized _ => exact .inl rfl
  | noHeartbeat _ _ => exact .inr (.inl rfl)
  | rejected sights rejects =>
    obtain ⟨_, published, _⟩ := sights.waited
    exact .inr (.inr ⟨_, _, (nonzero?_eq_some.1 published.seen_after).2, rejects, rfl⟩)

/-- What is left of a decision after its two waits. -/
theorem run_verdict (handshake : Handshake) (version : Int32) (timestamp : Milliseconds)
    (environment : Environment) :
    (do
        handshake.consult version
        let age := heartbeatAge (← Waiting.now) timestamp
        handshake.log s!"heartbeat age is {age.toInt} ms"
        Observer.report (.event .debug "evaluated cnc liveness"
          [("version", .number version.toInt), ("age_ms", .number age.toInt),
            ("timeout_ms", .number handshake.timeout.toInt)])
        pure (isFresh age handshake.timeout) : Activity Bool).run environment =
      match handshake.check version with
      | .error refusal => .failed (.refused refusal) (environment.reporting [.consulted version])
      | .ok () =>
        .returned (isFresh (heartbeatAge environment.world.shown timestamp) handshake.timeout)
          ((environment.inside environment.world.tick).reporting
            (handshake.assessment version (heartbeatAge environment.world.shown timestamp))) := by
  have consulted := Activity.run_consult environment handshake version
  cases checked : handshake.check version with
  | error refusal =>
    rw [checked] at consulted
    exact Activity.run_bind_of_failed _ consulted
  | ok =>
    rw [checked] at consulted
    rw [Activity.run_bind_of_returned _ consulted,
      Activity.run_bind_of_returned _ (Activity.run_now _), Environment.world_reporting,
      Environment.reporting_inside,
      Activity.run_bind_of_returned _ (Activity.run_log_eq _ handshake _),
      Activity.run_bind_of_returned _ (Activity.run_report _ _), Activity.run_pure,
      Environment.reporting_reporting, Environment.reporting_reporting]
    rfl

theorem run_deadline (handshake : Handshake) (environment : Environment) :
    (deadlineAfter handshake.timeout : Activity Milliseconds).run environment =
      .returned (handshake.deadlineIn environment.world)
        (environment.inside environment.world.tick) := rfl

section Running

variable (fit : fields.Fit)
include fit

/-- A decision is still going on after its rounds, and read the clock in time so far, or has taken
one of its courses. -/
theorem run_isActiveOn (handshake : Handshake) (rounds : Nat) (environment : Environment) :
    ((handshake.isActiveOn fields rounds : Activity Bool).run environment = .pending ∧
        environment.world.tick.InTime (handshake.deadlineIn environment.world) rounds) ∨
      ∃ answer after reports, handshake.Decides fields environment.world answer after reports ∧
        (handshake.isActiveOn fields rounds : Activity Bool).run environment =
          .ofExcept answer ((environment.inside after).reporting reports) := by
  unfold isActiveOn
  rw [Activity.run_bind_of_returned _ (run_deadline handshake environment)]
  rcases ControlFields.run_awaitVersion fit (handshake.deadlineIn environment.world) rounds
    (environment.inside environment.world.tick) with
    ⟨pending, inTime⟩ | ⟨result, published, waits, waited⟩
  · exact .inl ⟨Activity.run_bind_of_pending _ pending, inTime⟩
  cases result with
  | none =>
    refine .inr ⟨_, published, _, .notInitialized waits, ?_⟩
    rw [Activity.run_bind_of_failed _ waited, Environment.reporting_nil]
    rfl
  | some version =>
    rw [Activity.run_bind_of_returned _ waited, Environment.inside_inside]
    rcases ControlFields.run_awaitHeartbeat fit (handshake.deadlineIn environment.world) rounds
      (environment.inside published) with ⟨pending, rest⟩ | ⟨result, sighted, beats, beaten⟩
    · obtain ⟨earlier, rfl, inTime⟩ := waits.inTime
      exact .inl ⟨Activity.run_bind_of_pending _ pending,
        (inTime.add rest).mono (Nat.le_add_left _ _)⟩
    cases result with
    | none =>
      refine .inr ⟨_, sighted, _, .noHeartbeat waits beats, ?_⟩
      rw [Activity.run_bind_of_failed _ beaten, Environment.reporting_nil]
      rfl
    | some timestamp =>
      rw [Activity.run_bind_of_returned _ beaten, Environment.inside_inside]
      have verdict := run_verdict handshake version timestamp (environment.inside sighted)
      have sights : handshake.Sights fields environment.world version timestamp sighted :=
        ⟨_, waits, beats⟩
      cases checked : handshake.check version with
      | error refusal =>
        rw [checked] at verdict
        exact .inr ⟨_, sighted, _, .rejected sights checked, verdict⟩
      | ok =>
        rw [checked] at verdict
        exact .inr ⟨_, sighted.tick, _, .decided sights checked, verdict⟩

/-- A decision that can take a course takes it, given enough rounds. -/
theorem run_isActiveOn_of_decides {environment : Environment} {answer : Except Failure Bool}
    {after : World} {reports : List Report}
    (decides : handshake.Decides fields environment.world answer after reports) :
    ∃ enough, ∀ rounds, enough ≤ rounds →
      (handshake.isActiveOn fields rounds : Activity Bool).run environment =
        .ofExcept answer ((environment.inside after).reporting reports) := by
  -- The two courses that get to see a heartbeat go the same way up to the version check.
  have ended : ∀ version timestamp sighted,
      handshake.Sights fields environment.world version timestamp sighted →
      ∃ enough, ∀ rounds, enough ≤ rounds →
        (handshake.isActiveOn fields rounds : Activity Bool).run environment =
          match handshake.check version with
          | .error refusal =>
            .failed (.refused refusal) ((environment.inside sighted).reporting [.consulted version])
          | .ok () =>
            .returned (isFresh (heartbeatAge sighted.shown timestamp) handshake.timeout)
              ((environment.inside sighted.tick).reporting
                (handshake.assessment version (heartbeatAge sighted.shown timestamp))) := by
    intro version timestamp sighted sights
    obtain ⟨published, waits, beats⟩ := sights.waited
    obtain ⟨first, initialized⟩ := ControlFields.run_awaitVersion_of_waits fit _
      (environment.inside environment.world.tick) waits
    obtain ⟨second, beaten⟩ := ControlFields.run_awaitHeartbeat_of_waits fit _
      (environment.inside published) beats
    refine ⟨max first second, ?_⟩
    intro rounds many
    unfold isActiveOn
    rw [Activity.run_bind_of_returned _ (run_deadline handshake environment),
      Activity.run_bind_of_returned _ (initialized rounds (by omega)),
      Environment.inside_inside, Activity.run_bind_of_returned _ (beaten rounds (by omega))]
    exact run_verdict handshake version timestamp (environment.inside sighted)
  cases decides with
  | notInitialized silent =>
    obtain ⟨enough, ends⟩ := ControlFields.run_awaitVersion_of_waits fit _
      (environment.inside environment.world.tick) silent
    refine ⟨enough, fun rounds many => ?_⟩
    unfold isActiveOn
    rw [Activity.run_bind_of_returned _ (run_deadline handshake environment),
      Activity.run_bind_of_failed _ (ends rounds many), Environment.reporting_nil]
    rfl
  | noHeartbeat initialized silent =>
    obtain ⟨first, begins⟩ := ControlFields.run_awaitVersion_of_waits fit _
      (environment.inside environment.world.tick) initialized
    obtain ⟨second, ends⟩ := ControlFields.run_awaitHeartbeat_of_waits fit _
      (environment.inside _) silent
    refine ⟨max first second, fun rounds many => ?_⟩
    unfold isActiveOn
    rw [Activity.run_bind_of_returned _ (run_deadline handshake environment),
      Activity.run_bind_of_returned _ (begins rounds (by omega)), Environment.inside_inside,
      Activity.run_bind_of_failed _ (ends rounds (by omega)), Environment.reporting_nil]
    rfl
  | rejected sights rejects =>
    simpa only [rejects, Outcome.ofExcept_error] using ended _ _ _ sights
  | decided sights accepts =>
    simpa only [accepts, Outcome.ofExcept_ok] using ended _ _ _ sights

/-- A decision on fields that show a version and a heartbeat when the deadline has been made is one
look at both of them. -/
theorem run_isActiveOn_of_shown (handshake : Handshake) {rounds : Nat} (granted : rounds ≠ 0)
    (environment : Environment) (published : fields.versionIn environment.world.tick.storage ≠ 0)
    (beating : fields.timestampIn environment.world.tick.storage ≠ 0) :
    let version := fields.versionIn environment.world.tick.storage
    let age := heartbeatAge environment.world.tick.shown
      (fields.timestampIn environment.world.tick.storage)
    (handshake.isActiveOn fields rounds : Activity Bool).run environment =
      match handshake.check version with
      | .error refusal =>
        .failed (.refused refusal)
          ((environment.inside environment.world.tick).reporting [.consulted version])
      | .ok () =>
        .returned (isFresh age handshake.timeout)
          ((environment.inside (environment.world.ticks 2)).reporting
            (handshake.assessment version age)) := by
  have published := ControlFields.run_awaitVersion_of_shown fit
    (handshake.deadlineIn environment.world) granted (environment.inside environment.world.tick)
    published
  have beating := ControlFields.run_awaitHeartbeat_of_shown fit
    (handshake.deadlineIn environment.world) granted (environment.inside environment.world.tick)
    beating
  unfold isActiveOn
  rw [Activity.run_bind_of_returned _ (run_deadline handshake environment),
    Activity.run_bind_of_returned _ published, Activity.run_bind_of_returned _ beating]
  exact run_verdict handshake _ _ (environment.inside environment.world.tick)

end Running

/-- Control fields that show the same values in every storage lead to the same decisions. -/
theorem isActiveOn_congr {m : Type → Type} [Observer m] {other : ControlFields}
    (version : fields.version = other.version) (timestamp : fields.timestamp = other.timestamp)
    (rounds : Nat) :
    (handshake.isActiveOn fields rounds : m Bool) = handshake.isActiveOn other rounds := by
  simp only [isActiveOn, ControlFields.awaitVersion, ControlFields.awaitHeartbeat, version,
    timestamp]

/-- The decision on a region that fits is the decision on its fields. -/
theorem run_isActive_of_fit {region : Region}
    (fit : (⟨region, handshake.layout⟩ : ControlFields).Fit)
    (rounds : Nat) (environment : Environment) :
    (handshake.isActive (some region) rounds : Activity Bool).run environment =
      (handshake.isActiveOn ⟨region, handshake.layout⟩ rounds : Activity Bool).run environment := by
  have fits : (requireFit handshake.layout region : Activity Unit).run environment =
      .returned () environment := by
    rw [requireFit, Activity.run_look, show handshake.layout.check region = .ok () from fit]
    rfl
  exact Activity.run_bind_of_returned _ fits

/-- The decision on a region that fits is still going on after its rounds, or has taken one of its
courses. -/
theorem run_isActive {region : Region} (fit : (⟨region, handshake.layout⟩ : ControlFields).Fit)
    (rounds : Nat) (environment : Environment) :
    (handshake.isActive (some region) rounds : Activity Bool).run environment = .pending ∨
      ∃ answer after reports,
        handshake.Decides ⟨region, handshake.layout⟩ environment.world answer after reports ∧
        (handshake.isActive (some region) rounds : Activity Bool).run environment =
          .ofExcept answer ((environment.inside after).reporting reports) := by
  rw [run_isActive_of_fit fit]
  exact (run_isActiveOn fit handshake rounds environment).imp_left And.left

end Handshake

end Heartbeat
