import Heartbeat.Proofs.TakeoverSteps

/-!
# The configuration is tested before the disk is touched

An owner tests the length that it asks for at the very beginning, and tests later what it maps: the
control span of a file that may have a live owner, the new region, and the region of its handle.
These are tests of different lengths at different offsets, on addresses and not on offsets, but a
mapping lies in its page as the file does in its own, so on what an owner maps they all ask for the
same (`Layout.check_of_page`, `Layout.check_rebased_of_page`).

Hence a configuration is found wrong either at once, with nothing done and the clock not read, or
never (`Takeover.finds_configuration_wrong_at_once_or_never`): no directory is deleted for a region
that cannot be made in it.
-/

set_option autoImplicit false

namespace Heartbeat

/-- A check refuses a version for the sake of the version and nothing else. -/
def VersionCheck.Validates (check : VersionCheck) : Prop :=
  ∀ version refusal, check version = .error refusal → refusal.class? = some .validation

theorem VersionCheck.validates_sameMajor (expected : SemanticVersion) :
    (VersionCheck.sameMajor expected).Validates := by
  intro version refusal refused
  simp only [sameMajor] at refused
  split at refused
  · cases refused
  · cases refused
    rfl

/-- What stands in the way of an owner is not its configuration. -/
theorem Handshake.Obstacle.class?_ne {handshake : Handshake} (validates : handshake.check.Validates)
    {path : String} {failure : Failure} (obstacle : handshake.Obstacle path failure) :
    ∃ refusal, failure = .refused refusal ∧ refusal.class? ≠ some .configuration := by
  cases obstacle with
  | rejected _ rejects =>
    refine ⟨_, rfl, ?_⟩
    rw [validates _ _ rejects]
    decide
  | activeOwner | notInitialized | noHeartbeat | files => exact ⟨_, rfl, by simp [Refusal.class?]⟩

/-- A way to become the owner of a region. -/
inductive Takeover where
  /-- A fresh file in a fresh directory, with or without a test for a live owner. -/
  | create (directory filename : String) (force : Bool)
  /-- A file as it is, or a new one. -/
  | adopt (path : String) (shouldPreExist : Bool)

namespace Takeover

variable {handshake : Handshake} {length : Nat} {environment : Environment}

/-- Takes a region of some length over. -/
def activity (handshake : Handshake) (length rounds : Nat) : Takeover → Activity Handle
  | create directory filename force =>
    handshake.createInDirectory directory filename length force rounds
  | adopt path shouldPreExist => handshake.createOrAdopt path length shouldPreExist

/-- The path of the file. -/
def path : Takeover → String
  | create directory filename _ => Path.join directory filename
  | adopt path _ => path

/-- A configuration that will not do is refused before anything else happens. -/
theorem run_of_unfit {failure : Failure}
    (unfit : handshake.layout.checkMappedLength length = .error failure) (takeover : Takeover)
    (rounds : Nat) :
    (takeover.activity handshake length rounds).run environment = .failed failure environment :=
  match takeover with
  | create _ _ force => Handshake.run_createInDirectory_of_unfit unfit force rounds
  | adopt _ _ => Handshake.run_createOrAdopt_of_unfit unfit

/-- With a configuration that will do, a takeover fails only because of an obstacle. -/
theorem obstacle_of_failed (fits : handshake.layout.checkMappedLength length = .ok ())
    (takeover : Takeover) (rounds : Nat) {failure : Failure} {after : Environment}
    (failed : (takeover.activity handshake length rounds).run environment =
      .failed failure after) : handshake.Obstacle takeover.path failure := by
  cases takeover with
  | create directory filename force =>
    exact (Handshake.outcome_createInDirectory fits force rounds).failed_of_eq failed
  | adopt path shouldPreExist =>
    exact (Handshake.outcome_createOrAdopt fits shouldPreExist).failed_of_eq failed

/-- A configuration is found wrong at once or never.

The test on a length answers what the test on a region of that length answers that starts at a page.
If it refuses, it is for the length or for the alignment of a field, and every takeover ends with
this refusal in the environment in which it began.  If it accepts, then every later test accepts as
well, those on the control span through the rebased layout and those on the new region by itself and
for a handle, and no takeover fails for the sake of the configuration, or faults. -/
theorem finds_configuration_wrong_at_once_or_never
    (representable : handshake.layout.Representable) (validates : handshake.check.Validates)
    (length : Nat) :
    let layout := handshake.layout
    let required := layout.timestampOffset + timestampSize
    (∀ region : Region, region.capacity = length → region.address % pageSize = 0 →
      layout.checkMappedLength length = layout.check region) ∧
    (∀ failure, layout.checkMappedLength length = .error failure →
      (failure = .refused (.regionTooSmall length required) ∨
        failure = .refused (.misaligned "version" layout.versionOffset versionSize) ∨
        failure = .refused (.misaligned "timestamp" layout.timestampOffset timestampSize)) ∧
      ∀ (takeover : Takeover) (rounds : Nat) (environment : Environment),
        (takeover.activity handshake length rounds).run environment =
          .failed failure environment) ∧
    (layout.checkMappedLength length = .ok () →
      layout.controlSpan = .ok (layout.versionOffset, required - layout.versionOffset) ∧
      (∀ region : Region, region.capacity = required - layout.versionOffset →
        region.address % pageSize = layout.versionOffset % pageSize →
        layout.rebased.check region = .ok ()) ∧
      (∀ region : Region, region.capacity = length → region.address % pageSize = 0 →
        layout.check region = .ok () ∧ ∀ backing directory file,
          Handle.ofView ⟨region, backing⟩ layout directory file =
            .ok ⟨layout, directory, file, some ⟨region, backing⟩, false⟩) ∧
      ∀ (takeover : Takeover) (rounds : Nat) (environment : Environment) failure after,
        (takeover.activity handshake length rounds).run environment = .failed failure after →
        ∃ refusal, failure = .refused refusal ∧ refusal.class? ≠ some .configuration) := by
  intro layout required
  have same (region : Region) (long : region.capacity = length)
      (page : region.address % pageSize = 0) :
      layout.checkMappedLength length = layout.check region := by
    rw [Layout.check_of_page page, long]
  refine ⟨same, fun failure unfit => ⟨?_, fun takeover rounds _ => run_of_unfit unfit takeover _⟩,
    fun fits => ⟨Layout.controlSpan_eq_ok representable, ?_, ?_, ?_⟩⟩
  · rcases Layout.checkMappedLength_eq_error representable unfit with
      ⟨_, short⟩ | ⟨_, ⟨_, version⟩ | ⟨_, _, timestamp⟩⟩
    · exact .inl short
    · exact .inr (.inl version)
    · exact .inr (.inr timestamp)
  · obtain ⟨_, _, versionAligned, timestampAligned⟩ := Layout.checkMappedLength_eq_ok_iff.1 fits
    exact fun region long page =>
      Layout.check_rebased_of_page representable versionAligned timestampAligned long page
  · intro region long page
    have fit : layout.check region = .ok () := (same region long page).symm.trans fits
    refine ⟨fit, fun backing directory file => ?_⟩
    rw [Handle.ofView_eq, fit]
    rfl
  · intro takeover rounds environment failure after failed
    exact (obstacle_of_failed fits takeover rounds failed).class?_ne validates

/-- An owner of another major version finds 15 bytes too few at once, and is later refused for the
version of the file but not for its configuration. -/
theorem finds_configuration_wrong_at_once_or_never_owned :
    let handshake : Handshake := { Handshake.ofOwned with check := .sameMajor ⟨1, 0, 0⟩ }
    let environment : Environment := ⟨.ticking 120 1, .owned, []⟩
    handshake.layout.Representable ∧ handshake.check.Validates ∧
      (∀ (takeover : Takeover) (rounds : Nat),
        (takeover.activity handshake 15 rounds).run environment =
          .failed (.refused (.regionTooSmall 15 16)) environment) ∧
      ∀ failure after, ((create "/run" "cnc" false).activity handshake 16 2).run environment =
          .failed failure after →
        ∃ refusal, failure = .refused refusal ∧ refusal.class? ≠ some .configuration := by
  intro handshake environment
  have representable : handshake.layout.Representable := by decide
  have validates : handshake.check.Validates := VersionCheck.validates_sameMajor _
  refine ⟨representable, validates, fun takeover rounds => ?_, ?_⟩
  · exact ((finds_configuration_wrong_at_once_or_never representable validates 15).2.1 _ rfl).2
      takeover rounds environment
  · have fits : handshake.layout.checkMappedLength 16 = .ok () :=
      Layout.checkMappedLength_eq_ok_iff.2 (by decide)
    exact ((finds_configuration_wrong_at_once_or_never representable validates 16).2.2 fits).2.2.2
      (create "/run" "cnc" false) 2 environment

end Takeover

end Heartbeat
