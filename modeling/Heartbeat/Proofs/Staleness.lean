import Heartbeat.Proofs.Keeping
import Heartbeat.Proofs.Observing
import Heartbeat.Proofs.Publication

/-!
# What an adoption decides

A file that is meant to exist is adopted if its owner is gone.  The rule is not the one by which a
watcher decides that an owner is alive.  The version and the heartbeat are those of the file as it
was, with zero bytes where it was too short.  A version other than zero that the check rejects is
the refusal, before the clock is read.  Otherwise the clock is read once, and only a heartbeat other
than zero that is younger than the timeout is in the way, also of a file without a version
(`Handshake.createOrAdopt_decides`).

Nothing is waited for: a process that never came back from a pause would end in the same way
(`Restless`).
-/

set_option autoImplicit false

namespace Heartbeat

/-! ## Without a pause -/

/-- A computation of a process that never comes back from a pause. -/
def Restless (α : Type) : Type := Activity α

namespace Restless

instance : Monad Restless := inferInstanceAs (Monad Activity)

/-- All but a pause is as for any other process. -/
instance : Worker Restless where
  now := Activity.now
  pause _ := fun _ => .pending
  exhausted := fun _ => .pending
  look := Activity.look
  fail := Activity.fail
  attempt := Activity.attempt
  report := Activity.report
  work := Activity.work

/-- Runs a computation. -/
def run {α : Type} (computation : Restless α) (environment : Environment) : Outcome α :=
  computation environment

end Restless

namespace Handshake

variable {handshake : Handshake} {path : String} {length : Nat} {environment : Environment}

/-- An adoption never pauses. -/
theorem run_createOrAdopt_restless (handshake : Handshake) (path : String) (length : Nat)
    (shouldPreExist : Bool) (environment : Environment) :
    (handshake.createOrAdopt path length shouldPreExist : Restless Handle).run environment =
      (handshake.createOrAdopt path length shouldPreExist : Activity Handle).run environment :=
  rfl

/-! ## The decision -/

/-- A handle that an adoption gives. -/
def adopted (handshake : Handshake) (path : String) (region : Region) : Handle :=
  ⟨handshake.layout, (Path.parent? path).filter fun parent => parent ≠ "", some path,
    some ⟨region, .owned⟩, false⟩

section Mapped

variable {region : Region} {mapped : Storage}
  (maps : environment.storage.mapKeeping path length = (.ok region, mapped))
include maps

/-- The words that an adoption finds are those of the lengthened file. -/
theorem word_mapKeeping (α : Type) [StoredWord α] (offset : Nat) :
    (mapped.content region.object).word α (region.start + offset) =
      ((environment.storage.heldAt path).lengthened length).word α offset := by
  obtain ⟨object, rfl, -⟩ := Storage.mapKeeping_eq_ok maps
  rw [← Storage.content_mapKeeping maps]
  exact congrArg ((mapped.content object).word α) (Nat.zero_add offset)

/-- So is the version. -/
theorem versionIn_mapKeeping (layout : Layout) :
    (⟨region, layout⟩ : ControlFields).versionIn mapped =
      ((environment.storage.heldAt path).lengthened length).word Int32 layout.versionOffset :=
  word_mapKeeping maps Int32 layout.versionOffset

/-- And so is the heartbeat. -/
theorem timestampIn_mapKeeping (layout : Layout) :
    (⟨region, layout⟩ : ControlFields).timestampIn mapped =
      ((environment.storage.heldAt path).lengthened length).word Milliseconds
        layout.timestampOffset :=
  word_mapKeeping maps Milliseconds layout.timestampOffset

/-- Every byte of the mapping can be read and is that of the lengthened file. -/
theorem loadBytes_mapKeeping {offset count : Nat} (within : offset + count ≤ length) :
    region.loadBytes mapped offset count =
      .ok (((environment.storage.heldAt path).lengthened length).read offset count) := by
  obtain ⟨object, rfl, -⟩ := Storage.mapKeeping_eq_ok maps
  have access : (Region.mapping object 0 length).checkAccess offset count 1 = .ok () :=
    Region.checkAccess_eq_ok_iff.2 ⟨within, decide_eq_true (Nat.mod_one _)⟩
  rw [Region.loadBytes, access, ← Storage.content_mapKeeping maps]
  exact congrArg (fun start => Except.ok ((mapped.content object).read start count))
    (Nat.zero_add offset)

end Mapped

/-- The adoption of a file that is meant to exist, once it is mapped. -/
theorem run_createOrAdopt_true {region : Region} {mapped : Storage}
    (fits : handshake.layout.checkMappedLength length = .ok ())
    (maps : environment.storage.mapKeeping path length = (.ok region, mapped)) :
    let file := (environment.storage.heldAt path).lengthened length
    let version := file.word Int32 handshake.layout.versionOffset
    let timestamp := file.word Milliseconds handshake.layout.timestampOffset
    let opened := environment.inside ⟨environment.clock, mapped⟩
    let age := heartbeatAge opened.world.shown timestamp
    let read := opened.inside opened.world.tick
    (handshake.createOrAdopt path length true : Activity Handle).run environment =
      match handshake.checkPublished version with
      | .error refusal =>
        .failed (.refused refusal) (opened.reporting (handshake.inspection path version))
      | .ok () =>
        if timestamp ≠ 0 ∧ age < handshake.timeout then
          .failed (.refused (.activeOwner path))
            (read.reporting (handshake.inspection path version ++ handshake.aging age))
        else
          .returned (handshake.adopted path region) (read.reporting
            (handshake.inspection path version ++ handshake.aging age ++
              [adoption path version age])) := by
  intro file version timestamp opened age read
  have looked := run_requireStale (fit_of_mapKeeping fits maps) handshake path opened
  simp only [opened, Environment.storage_inside, versionIn_mapKeeping maps,
    timestampIn_mapKeeping maps] at looked
  rw [run_createOrAdopt_of_mapped fits maps, if_pos rfl, Activity.run_bind, looked]
  cases handshake.checkPublished version with
  | error refusal => rfl
  | ok =>
    by_cases young : timestamp ≠ 0 ∧ age < handshake.timeout
    · have blocks : (timestamp ≠ 0 && blocksAdoption age handshake.timeout) = true := by
        simp only [blocksAdoption, Bool.and_eq_true, decide_eq_true_eq]
        exact young
      simp only [if_pos young]
      rw [if_pos blocks]
    · have free : ¬ (timestamp ≠ 0 && blocksAdoption age handshake.timeout) = true := by
        simp only [blocksAdoption, Bool.and_eq_true, decide_eq_true_eq]
        exact young
      simp only [if_neg young]
      rw [if_neg free]
      rfl

/-- What an adoption decides, once the file is open and mapped.

A file that need not exist is adopted at once.  A file that is meant to exist is refused if the
check rejects its version, unless that is zero, which is never shown to the check.  Then the clock
is not read and the heartbeat makes no difference.  Otherwise the clock is read once, and the file
is refused if its heartbeat is not zero and younger than the timeout, and adopted if not.  What the
clock shows does not depend on what others do to the storage at that reading, and nothing is waited
for.

The handle is one on a mapping of the length asked for, and knows the path and the parent of the
path unless that is empty.  Through it the version, the heartbeat and all other bytes are those of
the file, with zero bytes where it was too short, until others act at the reading of the clock. -/
theorem createOrAdopt_decides {region : Region} {mapped : Storage}
    (fits : handshake.layout.checkMappedLength length = .ok ())
    (maps : environment.storage.mapKeeping path length = (.ok region, mapped)) :
    let held := environment.storage.heldAt path
    let file := held.lengthened length
    let version := file.word Int32 handshake.layout.versionOffset
    let timestamp := file.word Milliseconds handshake.layout.timestampOffset
    let opened := environment.inside ⟨environment.clock, mapped⟩
    let now := opened.world.shown
    let age := now.saturatingSub timestamp
    let handle := handshake.adopted path region
    let read := opened.inside opened.world.tick
    let run shouldPreExist :=
      (handshake.createOrAdopt path length shouldPreExist : Activity Handle).run environment
    (run false = .returned handle opened ∧
      (∀ refusal, version ≠ 0 → handshake.check version = .error refusal →
        run true =
          .failed (.refused refusal) (opened.reporting (handshake.inspection path version))) ∧
      (version = 0 ∨ handshake.check version = .ok () → run true =
        if timestamp ≠ 0 ∧ age < handshake.timeout then
          .failed (.refused (.activeOwner path))
            (read.reporting (handshake.inspection path version ++ handshake.aging age))
        else
          .returned handle (read.reporting (handshake.inspection path version ++
            handshake.aging age ++ [adoption path version age])))) ∧
    ((∀ shown, .consulted shown ∈ consultation version ↔ shown = version ∧ version ≠ 0) ∧
      (∀ other, World.shown ⟨environment.clock, other⟩ = now) ∧
      read.clock.reads = environment.clock.reads + 1 ∧
      read.storage =
        mapped.afterActs (environment.clock.upcoming 1) ∧
      ∀ shouldPreExist, (handshake.createOrAdopt path length shouldPreExist :
        Restless Handle).run environment = run shouldPreExist) ∧
    handle.region = .ok region ∧ region.capacity = length ∧
      mapped.openFile path = .ok region.object ∧
      held.Lengthens file ∧ file.size = max held.size length ∧
      handle.version mapped = .ok version ∧ handle.timestamp mapped = .ok timestamp ∧
      ∀ offset count, offset + count ≤ length →
        region.loadBytes mapped offset count = .ok (file.read offset count) := by
  intro held file version timestamp opened now age handle read run
  obtain ⟨object, rfl, leads⟩ := Storage.mapKeeping_eq_ok maps
  have fit := fit_of_mapKeeping fits maps
  have decided := run_createOrAdopt_true fits maps
  refine ⟨⟨run_createOrAdopt_of_mapped fits maps false, fun refusal published rejects => ?_,
      fun accepted => ?_⟩,
    ⟨fun _ => consulted_mem_consultation, fun other => World.shown_eq _ _ _, rfl,
      World.storage_ticks ⟨environment.clock, mapped⟩ 1,
      fun _ => run_createOrAdopt_restless _ _ _ _ _⟩,
    rfl, rfl, leads, held.lengthens_lengthened length, held.size_lengthened length, ?_, ?_,
    fun _ _ => loadBytes_mapKeeping maps⟩
  · have rejected : handshake.checkPublished version = .error refusal :=
      (if_neg published).trans rejects
    refine decided.trans ?_
    rw [rejected]
  · have passed : handshake.checkPublished version = .ok () := by
      unfold checkPublished
      split
      · rfl
      · next published => exact accepted.resolve_left published
    refine decided.trans ?_
    rw [passed]
    rfl
  · exact (Handle.version_eq rfl fit mapped).trans
      (congrArg Except.ok (versionIn_mapKeeping maps handshake.layout))
  · exact (Handle.timestamp_eq rfl fit mapped).trans
      (congrArg Except.ok (timestampIn_mapKeeping maps handshake.layout))

/-- With a timeout of 20 ms a heartbeat that is 20 ms old is no longer in the way, and the heartbeat
that the owner writes at the reading of the clock comes too late to be. -/
theorem createOrAdopt_decides_owned :
    let handshake : Handshake := { ofOwned with timeout := 20 }
    let environment : Environment := ⟨.beaten, .owned, []⟩
    let handle := handshake.adopted "/run/cnc" (.mapping 0 0 32)
    ∃ mapped after, handshake.layout.checkMappedLength 32 = .ok () ∧
      environment.storage.mapKeeping "/run/cnc" 32 = (.ok (.mapping 0 0 32), mapped) ∧
      (handshake.createOrAdopt "/run/cnc" 32 true : Activity Handle).run environment =
        .returned handle after ∧
      after.clock.reads = 1 ∧ handle.timestamp mapped = .ok 100 ∧
      (handle.timestamp after.storage).toOption = some 110 := by
  intro handshake environment handle
  have fits : handshake.layout.checkMappedLength 32 = .ok () :=
    Layout.checkMappedLength_eq_ok_iff.2 (by decide)
  have maps : environment.storage.mapKeeping "/run/cnc" 32 = (.ok (.mapping 0 0 32), _) := rfl
  obtain ⟨⟨_, _, decided⟩, _, _, _, _, _, _, _, before, _⟩ := createOrAdopt_decides fits maps
  refine ⟨_, _, fits, maps, (decided (.inr rfl)).trans (if_neg (by decide)), rfl, ?_,
    by decide⟩
  exact before.trans (congrArg Except.ok (by decide))

end Handshake

end Heartbeat
