import Heartbeat.Proofs.Guard
import Heartbeat.Proofs.Probes

/-!
# What each answer of the liveness decision means

A decision that comes to an end does so in one of four ways, and from the failure or the answer, and
from what it reported, it can be told in which (`Handshake.isActive_answers_iff`).  That there is no
version, or no heartbeat, means that the wait for it probed nothing but zeros until a reading past
the deadline.  A refused version, or an answer, means that both waits found something, the second
starting where the first ended, and that the version check was then asked once, about the version
found.  The answer is whether the heartbeat found is at most as old as the timeout, by one further
reading of the clock.

A heartbeat from the future has a negative age, so it keeps its owner alive unless the timeout is
negative too (`Handshake.negative_age_can_be_stale`).
-/

set_option autoImplicit false

namespace Heartbeat

namespace Outcome

theorem ofExcept_inj {α : Type} {result other : Except Failure α} {after ended : Environment} :
    ofExcept result after = ofExcept other ended ↔ result = other ∧ after = ended := by
  cases result <;> cases other <;> simp

theorem ofExcept_ne_pending {α : Type} (result : Except Failure α) (after : Environment) :
    ofExcept result after ≠ .pending := by
  cases result <;> nofun

end Outcome

namespace ControlFields

variable (fields : ControlFields)

/-- A probe for a version finds nothing where the field is zero. -/
theorem published?_eq_none :
    (fun storage => fields.published? storage = none) =
      fun storage => fields.versionIn storage = 0 :=
  funext fun _ => propext nonzero?_eq_none

/-- A probe for a heartbeat finds nothing where the field is zero. -/
theorem heartbeat?_eq_none :
    (fun storage => fields.heartbeat? storage = none) =
      fun storage => fields.timestampIn storage = 0 :=
  funext fun _ => propext nonzero?_eq_none

end ControlFields

namespace Handshake

variable {handshake : Handshake} {fields : ControlFields} {world after : World}
  {version : Int32} {timestamp : Milliseconds}

/-! ## The courses of a decision, probe by probe -/

/-- The two waits of a decision succeed if each of them finds something, the second from where the
first ended. -/
theorem sights_iff :
    handshake.Sights fields world version timestamp after ↔
      ∃ probes later,
        world.tick.Finds fields.published? (handshake.deadlineIn world) probes version ∧
        (world.tick.ticks probes).Finds fields.heartbeat? (handshake.deadlineIn world) later
          timestamp ∧
        after = world.tick.ticks (probes + later) := by
  constructor
  · rintro ⟨published, first, second⟩
    obtain ⟨probes, version, rfl⟩ := waits_some_iff.1 first
    obtain ⟨later, heartbeat, rfl⟩ := waits_some_iff.1 second
    exact ⟨probes, later, version, heartbeat, (World.ticks_add _ _ _).symm⟩
  · rintro ⟨probes, later, version, heartbeat, rfl⟩
    refine ⟨_, waits_some_iff.2 ⟨probes, version, rfl⟩, waits_some_iff.2 ⟨later, heartbeat, ?_⟩⟩
    exact World.ticks_add _ _ _

/-- What a decision sees is not zero. -/
theorem Sights.ne_zero (sights : handshake.Sights fields world version timestamp after) :
    version ≠ 0 ∧ timestamp ≠ 0 := by
  obtain ⟨published, first, second⟩ := sights.waited
  exact ⟨(nonzero?_eq_some.1 first.seen_after).2, (nonzero?_eq_some.1 second.seen_after).2⟩

/-- A decision misses the version, without a report, if the wait for it probes nothing but zeros. -/
theorem decides_notInitialized_iff :
    handshake.Decides fields world (.error (.refused .notInitialized)) after [] ↔
      ∃ probes, world.tick.Expires (fun storage => fields.versionIn storage = 0)
          (handshake.deadlineIn world) probes ∧
        after = world.tick.ticks (probes + 1) := by
  rw [← fields.published?_eq_none, ← waits_none_iff]
  constructor
  · intro decides
    cases decides with
    | notInitialized silent => exact silent
  · exact .notInitialized

/-- A decision misses the heartbeat, without a report, if it finds a version and the wait for a
heartbeat then probes nothing but zeros. -/
theorem decides_noHeartbeat_iff :
    handshake.Decides fields world (.error (.refused .noHeartbeat)) after [] ↔
      ∃ version probes later,
        world.tick.Finds fields.published? (handshake.deadlineIn world) probes version ∧
        (world.tick.ticks probes).Expires (fun storage => fields.timestampIn storage = 0)
          (handshake.deadlineIn world) later ∧
        after = world.tick.ticks (probes + later + 1) := by
  rw [← fields.heartbeat?_eq_none]
  constructor
  · intro decides
    cases decides with
    | noHeartbeat initialized silent =>
      obtain ⟨probes, finds, rfl⟩ := waits_some_iff.1 initialized
      obtain ⟨later, expires, rfl⟩ := waits_none_iff.1 silent
      exact ⟨_, probes, later, finds, expires, (World.ticks_add world.tick probes _).symm⟩
  · rintro ⟨version, probes, later, finds, expires, rfl⟩
    exact .noHeartbeat (waits_some_iff.2 ⟨probes, finds, rfl⟩)
      (waits_none_iff.2 ⟨later, expires, World.ticks_add world.tick probes (later + 1)⟩)

/-- A decision reports a consultation and then fails if the version that it found is refused. -/
theorem decides_rejected_iff {refusal : Refusal} :
    handshake.Decides fields world (.error (.refused refusal)) after [.consulted version] ↔
      ∃ timestamp, handshake.Sights fields world version timestamp after ∧
        handshake.check version = .error refusal := by
  constructor
  · intro decides
    cases decides with
    | rejected sights rejects => exact ⟨_, sights, rejects⟩
  · rintro ⟨timestamp, sights, rejects⟩
    exact .rejected sights rejects

/-- A decision answers if the version that it found is accepted. -/
theorem decides_ok_iff {active : Bool} {reports : List Report} :
    handshake.Decides fields world (.ok active) after reports ↔
      ∃ version timestamp sighted, handshake.Sights fields world version timestamp sighted ∧
        handshake.check version = .ok () ∧
        active = isFresh (heartbeatAge sighted.shown timestamp) handshake.timeout ∧
        after = sighted.tick ∧
        reports = handshake.assessment version (heartbeatAge sighted.shown timestamp) := by
  constructor
  · intro decides
    cases decides with
    | decided sights accepts => exact ⟨_, _, _, sights, accepts, rfl, rfl, rfl⟩
  · rintro ⟨version, timestamp, sighted, sights, accepts, rfl, rfl, rfl⟩
    exact .decided sights accepts

/-! ## The ends of a decision on a region -/

section Ends

variable {region : Region} (fit : (⟨region, handshake.layout⟩ : ControlFields).Fit)
  {environment ended : Environment} (answer : Except Failure Bool)

include fit

/-- A decision comes to the ends of its courses and to no others. -/
theorem isActive_ends_iff :
    (∃ rounds, (handshake.isActive (some region) rounds : Activity Bool).run environment =
        .ofExcept answer ended) ↔
      ∃ after reports,
        handshake.Decides ⟨region, handshake.layout⟩ environment.world answer after reports ∧
          ended = (environment.inside after).reporting reports := by
  constructor
  · rintro ⟨rounds, run⟩
    rcases run_isActive fit rounds environment with pending | ⟨_, after, reports, decides, ends⟩
    · exact absurd (run.symm.trans pending) (Outcome.ofExcept_ne_pending _ _)
    · obtain ⟨rfl, rfl⟩ := Outcome.ofExcept_inj.1 (run.symm.trans ends)
      exact ⟨after, reports, decides, rfl⟩
  · rintro ⟨after, reports, decides, rfl⟩
    obtain ⟨enough, ends⟩ := run_isActiveOn_of_decides fit decides
    exact ⟨enough, (run_isActive_of_fit fit enough environment).trans (ends enough (Nat.le_refl _))⟩

/-- What a decision reported is to be found at the end of the journal. -/
theorem isActive_ends_reporting_iff (reports : List Report) :
    (∃ rounds, (handshake.isActive (some region) rounds : Activity Bool).run environment =
        .ofExcept answer ended) ∧ ended.journal = environment.journal ++ reports ↔
      ∃ after,
        handshake.Decides ⟨region, handshake.layout⟩ environment.world answer after reports ∧
          ended = (environment.inside after).reporting reports := by
  rw [isActive_ends_iff fit answer]
  constructor
  · rintro ⟨⟨after, told, decides, rfl⟩, reported⟩
    obtain rfl : told = reports := List.append_cancel_left reported
    exact ⟨after, decides, rfl⟩
  · rintro ⟨after, decides, rfl⟩
    exact ⟨⟨after, reports, decides, rfl⟩, rfl⟩

/-- A decision that ends without a report is one that missed a version or a heartbeat. -/
theorem isActive_ends_silently_iff :
    (∃ rounds, (handshake.isActive (some region) rounds : Activity Bool).run environment =
        .ofExcept answer ended) ∧ ended.journal = environment.journal ↔
      ∃ after, handshake.Decides ⟨region, handshake.layout⟩ environment.world answer after [] ∧
        ended = environment.inside after := by
  have told : _ ∧ ended.journal = environment.journal ++ [] ↔ _ :=
    isActive_ends_reporting_iff fit answer []
  simpa only [List.append_nil, Environment.reporting_nil] using told

end Ends

/-- What each end of the decision on a region means.

From left to right, each of the four equivalences says what a failure or an answer tells about the
schedule of readings and foreign acts, and from right to left, that the schedule leads to it.  The
journal tells a wait that expired from a version check whose refusal has the same wording, and
there are no failures but these.  Without a region the answer is no, and the clock is not read. -/
theorem isActive_answers_iff {region : Region}
    (fit : (⟨region, handshake.layout⟩ : ControlFields).Fit) (environment ended : Environment) :
    let fields : ControlFields := ⟨region, handshake.layout⟩
    let deadline := handshake.deadlineIn environment.world
    let waiting := environment.world.tick
    let decision := fun rounds : Nat =>
      (handshake.isActive (some region) rounds : Activity Bool).run environment
    ((∃ rounds, decision rounds = .failed (.refused .notInitialized) ended) ∧
        ended.journal = environment.journal ↔
      ∃ probes, waiting.Expires (fun storage => fields.versionIn storage = 0) deadline probes ∧
        ended = environment.inside (waiting.ticks (probes + 1))) ∧
    ((∃ rounds, decision rounds = .failed (.refused .noHeartbeat) ended) ∧
        ended.journal = environment.journal ↔
      ∃ version probes later, waiting.Finds fields.published? deadline probes version ∧
        (waiting.ticks probes).Expires (fun storage => fields.timestampIn storage = 0) deadline
          later ∧
        ended = environment.inside (waiting.ticks (probes + later + 1))) ∧
    (∀ version refusal, (∃ rounds, decision rounds = .failed (.refused refusal) ended) ∧
        ended.journal = environment.journal ++ [.consulted version] ↔
      ∃ timestamp probes later, waiting.Finds fields.published? deadline probes version ∧
        (waiting.ticks probes).Finds fields.heartbeat? deadline later timestamp ∧
        version ≠ 0 ∧ handshake.check version = .error refusal ∧
        ended =
          (environment.inside (waiting.ticks (probes + later))).reporting [.consulted version]) ∧
    (∀ active, (∃ rounds, decision rounds = .returned active ended) ↔
      ∃ version timestamp probes later, waiting.Finds fields.published? deadline probes version ∧
        (waiting.ticks probes).Finds fields.heartbeat? deadline later timestamp ∧
        version ≠ 0 ∧ timestamp ≠ 0 ∧ handshake.check version = .ok () ∧
        let age := heartbeatAge (waiting.ticks (probes + later)).shown timestamp
        active = decide (age ≤ handshake.timeout) ∧
        (0 ≤ handshake.timeout → age < 0 → active = true) ∧
        ended = (environment.inside (waiting.ticks (probes + later + 1))).reporting
          (handshake.assessment version age)) ∧
    (∀ rounds failure, decision rounds = .failed failure ended →
      (failure = .refused .notInitialized ∨ failure = .refused .noHeartbeat) ∧
          ended.journal = environment.journal ∨
        ∃ version refusal, failure = .refused refusal ∧
          ended.journal = environment.journal ++ [.consulted version]) ∧
    ∀ rounds, (handshake.isActive none rounds : Activity Bool).run environment =
      .returned false environment := by
  intro fields deadline waiting decision
  refine ⟨?notInitialized, ?noHeartbeat, ?rejected, ?decided, ?complete, fun _ => rfl⟩
  case notInitialized =>
    apply (isActive_ends_silently_iff fit (.error _)).trans
    constructor
    · rintro ⟨after, decides, rfl⟩
      obtain ⟨probes, expires, rfl⟩ := decides_notInitialized_iff.1 decides
      exact ⟨probes, expires, rfl⟩
    · rintro ⟨probes, expires, rfl⟩
      exact ⟨_, decides_notInitialized_iff.2 ⟨probes, expires, rfl⟩, rfl⟩
  case noHeartbeat =>
    apply (isActive_ends_silently_iff fit (.error _)).trans
    constructor
    · rintro ⟨after, decides, rfl⟩
      obtain ⟨version, probes, later, finds, expires, rfl⟩ := decides_noHeartbeat_iff.1 decides
      exact ⟨version, probes, later, finds, expires, rfl⟩
    · rintro ⟨version, probes, later, finds, expires, rfl⟩
      exact ⟨_, decides_noHeartbeat_iff.2 ⟨version, probes, later, finds, expires, rfl⟩, rfl⟩
  case rejected =>
    intro version refusal
    apply (isActive_ends_reporting_iff fit (.error _) _).trans
    constructor
    · rintro ⟨after, decides, rfl⟩
      obtain ⟨timestamp, sights, rejects⟩ := decides_rejected_iff.1 decides
      obtain ⟨probes, later, finds, beats, rfl⟩ := sights_iff.1 sights
      exact ⟨timestamp, probes, later, finds, beats, sights.ne_zero.1, rejects, rfl⟩
    · rintro ⟨timestamp, probes, later, finds, beats, _, rejects, rfl⟩
      have sights := sights_iff.2 ⟨probes, later, finds, beats, rfl⟩
      exact ⟨_, decides_rejected_iff.2 ⟨timestamp, sights, rejects⟩, rfl⟩
  case decided =>
    intro active
    apply (isActive_ends_iff fit (.ok active)).trans
    constructor
    · rintro ⟨after, reports, decides, rfl⟩
      obtain ⟨version, timestamp, sighted, sights, accepts, fresh, rfl, rfl⟩ :=
        decides_ok_iff.1 decides
      obtain ⟨probes, later, finds, beats, rfl⟩ := sights_iff.1 sights
      refine ⟨version, timestamp, probes, later, finds, beats, sights.ne_zero.1, sights.ne_zero.2,
        accepts, fresh, ?_, by rw [World.tick_ticks]⟩
      intro nonnegative negative
      exact fresh.trans (decide_eq_true (Int64.le_trans (Int64.le_of_lt negative) nonnegative))
    · rintro ⟨version, timestamp, probes, later, finds, beats, _, _, accepts, fresh, _, rfl⟩
      have sights := sights_iff.2 ⟨probes, later, finds, beats, rfl⟩
      exact ⟨_, _, decides_ok_iff.2 ⟨version, timestamp, _, sights, accepts, fresh, rfl, rfl⟩,
        by rw [World.tick_ticks]⟩
  case complete =>
    intro rounds failure failed
    obtain ⟨after, reports, decides, rfl⟩ :=
      (isActive_ends_iff fit (.error failure)).1 ⟨rounds, failed⟩
    cases decides with
    | notInitialized _ => exact .inl ⟨.inl rfl, List.append_nil _⟩
    | noHeartbeat _ _ => exact .inl ⟨.inr rfl, List.append_nil _⟩
    | rejected _ _ => exact .inr ⟨_, _, rfl, rfl⟩

/-- An owner whose last heartbeat is 21 ms old, at a timeout of 50 ms, is alive. -/
theorem isActive_answers_iff_owned :
    let environment : Environment := ⟨.ticking 120 1, .owned, []⟩
    let fields := ControlFields.ofFile ofOwned.layout 0 16
    fields.Fit ∧ ∃ rounds ended,
      (ofOwned.isActive (some fields.region) rounds : Activity Bool).run environment =
        .returned true ended := by
  intro environment fields
  have fit : fields.Fit :=
    ControlFields.fit_ofFile (by decide) (by decide) (by decide) 0 (Nat.le_refl _)
  let deadline := ofOwned.deadlineIn environment.world
  have version : environment.world.tick.Finds fields.published? deadline 0 1 :=
    ⟨World.inVain_zero, by decide⟩
  have heartbeat : environment.world.tick.Finds fields.heartbeat? deadline 0 100 :=
    ⟨World.inVain_zero, by decide⟩
  obtain ⟨rounds, returned⟩ :=
    ((isActive_answers_iff fit environment _).2.2.2.1 true).2
      ⟨1, 100, 0, 0, version, heartbeat, by decide, by decide, rfl, by decide +kernel,
        fun _ _ => rfl, rfl⟩
  exact ⟨fit, rounds, _, returned⟩

/-- At a timeout of -10 ms an owner is not alive although the age of its heartbeat, which is
-6 ms, is negative. -/
theorem negative_age_can_be_stale :
    let settings : Handshake := { ofOwned with timeout := -10 }
    let environment : Environment := ⟨.ticking 93 1, .owned, []⟩
    let fields := ControlFields.ofFile settings.layout 0 16
    fields.Fit ∧ ∃ rounds ended,
      (settings.isActive (some fields.region) rounds : Activity Bool).run environment =
        .returned false ended ∧
      ended.world = environment.world.ticks 2 ∧
      heartbeatAge (environment.world.ticks 1).shown (fields.timestampIn ended.storage) < 0 := by
  intro settings environment fields
  have fit : fields.Fit :=
    ControlFields.fit_ofFile (by decide) (by decide) (by decide) 0 (Nat.le_refl _)
  have sights : settings.Sights fields environment.world 1 100 environment.world.tick :=
    ⟨_, .found (by decide), .found (by decide)⟩
  obtain ⟨rounds, returned⟩ := (isActive_ends_iff fit (.ok false)).2
    ⟨_, _, decides_ok_iff.2 ⟨1, 100, _, sights, rfl, by decide +kernel, rfl, rfl⟩, rfl⟩
  exact ⟨fit, rounds, _, returned, rfl, by decide +kernel⟩

end Handshake

end Heartbeat
