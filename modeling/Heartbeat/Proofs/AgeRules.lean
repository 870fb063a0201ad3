import Heartbeat.Proofs.Staleness

/-!
# Two rules for the age of a heartbeat

Whether an owner is alive is decided by one rule and whether its file may be adopted by another: a
heartbeat as old as the timeout keeps its owner alive and does not keep others from adopting.  Both
rules look at a saturated difference of two times.  Saturation makes no difference to the first rule
unless the timeout is the greatest time there is, nor to the second unless it is the least one
(`heartbeatAge_le_iff`, `heartbeatAge_lt_iff`).

So where both are asked about the same bytes at the same time, whoever is refused has to do with a
live owner, and only on the boundary is there a live owner without a refusal
(`Handshake.Aged.rules_agree`).  The one exception is a length at which the file cannot be sized and
mapped, be it that no file can have it (`Handshake.rules_disagree_beyond_files`) or that the system
turns it down: such an adoption fails before any rule is applied.
-/

set_option autoImplicit false

namespace Heartbeat

/-! ## Saturated ages -/

section Ages

variable {now timestamp timeout : Milliseconds}

/-- An age is at most a timeout exactly if the difference is, unless nothing exceeds the timeout. -/
theorem heartbeatAge_le_iff (bounded : timeout ≠ Int64.maxValue) :
    heartbeatAge now timestamp ≤ timeout ↔ now.toInt - timestamp.toInt ≤ timeout.toInt := by
  have below : timeout.toInt ≠ Int64.maxValue.toInt := fun same => bounded (Int64.toInt_inj.1 same)
  have high := Int64.toInt_le timeout
  have low := Int64.le_toInt timeout
  rw [Int64.le_iff_toInt_le, heartbeatAge, Milliseconds.toInt_saturatingSub]
  simp only [Int64.toInt_minValue, Int64.toInt_maxValue] at *
  omega

/-- An age is below a timeout exactly if the difference is, unless nothing is below the timeout. -/
theorem heartbeatAge_lt_iff (bounded : timeout ≠ Int64.minValue) :
    heartbeatAge now timestamp < timeout ↔ now.toInt - timestamp.toInt < timeout.toInt := by
  have above : timeout.toInt ≠ Int64.minValue.toInt := fun same => bounded (Int64.toInt_inj.1 same)
  have high := Int64.toInt_lt timeout
  have low := Int64.le_toInt timeout
  rw [Int64.lt_iff_toInt_lt, heartbeatAge, Milliseconds.toInt_saturatingSub]
  simp only [Int64.toInt_minValue, Int64.toInt_maxValue] at *
  omega

end Ages

/-! ## Both rules on the same bytes -/

namespace ControlFields

variable (layout : Layout) (object : ObjectId) (length : Nat) (storage : Storage)

/-- The version that a mapping of a file shows is a word of the file. -/
theorem versionIn_ofFile_eq_word : (ofFile layout object length).versionIn storage =
    (storage.content object).word Int32 layout.versionOffset :=
  congrArg ((storage.content object).word Int32) (Nat.zero_add _)

/-- So is the heartbeat. -/
theorem timestampIn_ofFile_eq_word : (ofFile layout object length).timestampIn storage =
    (storage.content object).word Milliseconds layout.timestampOffset :=
  congrArg ((storage.content object).word Milliseconds) (Nat.zero_add _)

end ControlFields

/-- A word of a file is there in the lengthened file, too. -/
theorem Content.word_lengthened {α : Type} [StoredWord α] (content : Content) (length : Nat)
    {offset : Nat} (inside : offset + StoredWord.width α ≤ content.size) :
    (content.lengthened length).word α offset = content.word α offset :=
  congrArg StoredWord.ofBytes ((content.lengthens_lengthened length).read inside)

namespace Storage

variable {storage : Storage} {path : String} {object : ObjectId} {length : Nat}

/-- A file that is there can be given a length, if it is too short, and be mapped. -/
structure Mappable (storage : Storage) (path : String) (object : ObjectId) (length : Nat) :
    Prop where
  /-- The file may be opened. -/
  opens : storage.system.Grants (.making path)
  /-- It is long enough, or it can become so. -/
  sizes : length ≤ (storage.content object).size ∨
    length ≤ longestFile ∧ storage.system.Grants (.sizing object length)
  /-- It may be mapped. -/
  maps : storage.system.Grants (.mapping object length)

/-- Such a file is mapped. -/
theorem mapKeeping_of_mappable (opened : storage.openFile path = .ok object) (positive : length ≠ 0)
    (mappable : storage.Mappable path object length) :
    ∃ mapped, storage.mapKeeping path length = (.ok (.mapping object 0 length), mapped) := by
  rw [mapKeeping_of_openFile opened positive mappable.opens]
  split
  · next short =>
    obtain ⟨possible, grants⟩ := mappable.sizes.resolve_left (Nat.not_le.2 short)
    exact ⟨_, mapResized_of_grants possible grants mappable.maps⟩
  · exact ⟨_, Prod.ext (mapBeginning_of_grants mappable.maps) rfl⟩

/-- Only such a file is. -/
theorem mappable_of_mapKeeping {region : Region} {mapped : Storage}
    (opened : storage.openFile path = .ok object)
    (maps : storage.mapKeeping path length = (.ok region, mapped)) :
    storage.Mappable path object length := by
  unfold mapKeeping at maps
  split at maps
  · cases maps
  split at maps
  · cases maps
  next made =>
  have opens := grants_of_makeFile made
  cases (openOrCreateFile_of_openFile opened).symm.trans (makeFile_eq_ok made)
  split at maps
  · obtain ⟨possible, -, -⟩ := mapResized_eq_ok maps
    obtain ⟨sizes, maps⟩ := grants_of_mapResized maps
    exact ⟨opens, .inr ⟨possible, sizes⟩, maps⟩
  · next long =>
    exact ⟨opens, .inl (Nat.not_lt.1 long), grants_of_mapBeginning (Prod.mk.inj maps).1⟩

/-- For every other file, mapping it fails. -/
theorem mapKeeping_of_not_mappable (opened : storage.openFile path = .ok object)
    (unmappable : ¬ storage.Mappable path object length) :
    ∃ cause left, storage.mapKeeping path length = (.error cause, left) := by
  rcases maps : storage.mapKeeping path length with ⟨result, left⟩
  cases result with
  | ok region => exact absurd (mappable_of_mapKeeping opened maps) unmappable
  | error cause => exact ⟨cause, left, rfl⟩

end Storage

/-- A clock that is not moved by its readings always shows the same time. -/
theorem World.shown_ticks_of_still (time : Milliseconds) (reads : Nat) (storage : Storage)
    (readings : Nat) :
    (World.ticks ⟨⟨time, 0, reads, fun _ => []⟩, storage⟩ readings).shown = time := by
  induction readings generalizing reads with
  | zero => rfl
  | succ readings ih =>
    have next : World.tick ⟨⟨time, 0, reads, fun _ => []⟩, storage⟩ =
        ⟨⟨time, 0, reads + 1, fun _ => []⟩, storage⟩ :=
      congrArg (fun time => World.mk ⟨time, 0, reads + 1, fun _ => []⟩ storage)
        (Int64.add_zero time)
    rw [World.ticks_succ, next]
    exact ih (reads + 1)

namespace Handshake

/-- A file shows an accepted version and a heartbeat, and the time stands still. -/
structure Aged (handshake : Handshake) (path : String) (object : ObjectId)
    (now timestamp : Milliseconds) (environment : Environment) : Prop where
  /-- The path leads to a file with room for the control fields. -/
  has : environment.storage.HasFields path handshake.layout object
  /-- A version was published. -/
  published : (environment.storage.content object).word Int32 handshake.layout.versionOffset ≠ 0
  /-- The version check accepts it. -/
  accepted : handshake.check
    ((environment.storage.content object).word Int32 handshake.layout.versionOffset) = .ok ()
  /-- This is the heartbeat. -/
  heartbeat : (environment.storage.content object).word Milliseconds
    handshake.layout.timestampOffset = timestamp
  /-- There was one. -/
  beating : timestamp ≠ 0
  /-- Nobody acts on the storage. -/
  undisturbed : environment.clock.Undisturbed
  /-- Every reading of the clock shows the same time. -/
  still : ∀ readings, (environment.world.ticks readings).shown = now

namespace Aged

variable {handshake : Handshake} {path : String} {object : ObjectId}
  {now timestamp : Milliseconds} {environment : Environment} {length : Nat}
  (aged : handshake.Aged path object now timestamp environment)
  (fits : handshake.layout.checkMappedLength length = .ok ())
include aged fits

/-- The owner is alive if the age is at most the timeout. -/
theorem run_isActive {rounds : Nat} (granted : rounds ≠ 0) :
    ∃ after, (handshake.isActive (some (.mapping object 0
      (environment.storage.content object).size)) rounds : Activity Bool).run environment =
        .returned (isFresh (heartbeatAge now timestamp) handshake.timeout) after := by
  obtain ⟨representable, _, versionAligned, timestampAligned⟩ :=
    Layout.checkMappedLength_eq_ok_iff.1 fits
  have fit := ControlFields.fit_ofFile representable versionAligned timestampAligned object
    aged.has.2
  have storage : environment.world.tick.storage = environment.storage :=
    World.storage_ticks_of_undisturbed aged.undisturbed 1
  have shown : environment.world.tick.shown = now := aged.still 1
  have version := ControlFields.versionIn_ofFile_eq_word handshake.layout object
    (environment.storage.content object).size environment.storage
  have heartbeat := (ControlFields.timestampIn_ofFile_eq_word handshake.layout object
    (environment.storage.content object).size environment.storage).trans aged.heartbeat
  have decided := run_isActiveOn_of_shown fit handshake granted environment
  rw [storage, version, heartbeat, shown] at decided
  have decided := decided aged.published aged.beating
  simp only [aged.accepted] at decided
  exact ⟨_, (run_isActive_of_fit fit rounds environment).trans decided⟩

/-- An adoption is refused if the age is below the timeout, and goes well if not. -/
theorem run_createOrAdopt (mappable : environment.storage.Mappable path object length) :
    (heartbeatAge now timestamp < handshake.timeout → ∃ after,
      (handshake.createOrAdopt path length true : Activity Handle).run environment =
        .failed (.refused (.activeOwner path)) after) ∧
    (¬ heartbeatAge now timestamp < handshake.timeout → ∃ handle after,
      (handshake.createOrAdopt path length true : Activity Handle).run environment =
        .returned handle after) := by
  have ordered := handshake.layout.ordered
  have room := aged.has.2
  have long := (Layout.checkMappedLength_eq_ok_iff.1 fits).2.1
  simp only [versionSize, timestampSize] at ordered room long
  obtain ⟨mapped, maps⟩ := Storage.mapKeeping_of_mappable aged.has.1 (by omega) mappable
  -- The fields lie in what the file holds already.
  have version : ((environment.storage.content object).lengthened length).word Int32
      handshake.layout.versionOffset = (environment.storage.content object).word Int32
        handshake.layout.versionOffset :=
    Content.word_lengthened _ _ (by simp only [StoredWord.width]; omega)
  have heartbeat : ((environment.storage.content object).lengthened length).word Milliseconds
      handshake.layout.timestampOffset = timestamp :=
    (Content.word_lengthened _ _ (by simp only [StoredWord.width]; omega)).trans aged.heartbeat
  have accepted : handshake.checkPublished ((environment.storage.content object).word Int32
      handshake.layout.versionOffset) = .ok () := (if_neg aged.published).trans aged.accepted
  have shown : World.shown ⟨environment.clock, mapped⟩ = now :=
    (World.shown_eq _ _ _).trans (aged.still 0)
  have decided := run_createOrAdopt_true fits maps
  simp only [Storage.heldAt_eq aged.has.1, version, heartbeat, accepted,
    Environment.world_inside, shown] at decided
  constructor
  · intro young
    exact ⟨_, decided.trans (if_pos ⟨aged.beating, young⟩)⟩
  · intro old
    exact ⟨_, _, decided.trans (if_neg fun blocks => old blocks.2)⟩

/-- An adoption fails if the file cannot be sized or mapped, and has not looked at the clock then.
-/
theorem run_createOrAdopt_of_not_mappable
    (unmappable : ¬ environment.storage.Mappable path object length) :
    ∃ cause left, environment.storage.mapKeeping path length = (.error cause, left) ∧
      (handshake.createOrAdopt path length true : Activity Handle).run environment =
        .failed (.refused (.files "map cnc file" path cause))
          (environment.inside ⟨environment.clock, left⟩) := by
  obtain ⟨cause, left, fails⟩ := Storage.mapKeeping_of_not_mappable aged.has.1 unmappable
  exact ⟨cause, left, fails, run_createOrAdopt_of_unmapped fits fails true⟩

/-- The two rules agree but for the boundary, and saturation makes no difference to them.

Asked about the same bytes at the same time, an adoption that is refused for a live owner is one
that has a live owner.  If the file can be sized and mapped at the length, there is a live owner
without a refusal exactly if the saturated age equals the timeout.  Over the integers, the owner is
alive exactly if the age is at most the timeout, unless that is the greatest time there is, and the
adoption is refused exactly if the age is below the timeout, unless that is the least one.  For any
other length the adoption fails, whatever the age is, for the cause that keeps the file from being
mapped, and without a reading of the clock. -/
theorem rules_agree {rounds : Nat} (granted : rounds ≠ 0) :
    let file := environment.storage.content object
    let decision := (handshake.isActive (some (.mapping object 0 file.size)) rounds :
      Activity Bool).run environment
    let adoption := (handshake.createOrAdopt path length true : Activity Handle).run environment
    let active := ∃ after, decision = .returned true after
    let refused := ∃ after, adoption = .failed (.refused (.activeOwner path)) after
    let adopted := ∃ handle after, adoption = .returned handle after
    let mappable := environment.storage.Mappable path object length
    (refused → active) ∧
    (active ∧ adopted ↔ mappable ∧ now.saturatingSub timestamp = handshake.timeout) ∧
    (handshake.timeout ≠ Int64.maxValue →
      (active ↔ now.toInt - timestamp.toInt ≤ handshake.timeout.toInt)) ∧
    (handshake.timeout ≠ Int64.minValue →
      (refused ↔ mappable ∧ now.toInt - timestamp.toInt < handshake.timeout.toInt)) ∧
    (¬ mappable → ∃ cause left,
      environment.storage.mapKeeping path length = (.error cause, left) ∧
      adoption = .failed (.refused (.files "map cnc file" path cause))
        (environment.inside ⟨environment.clock, left⟩)) := by
  intro file decision adoption active refused adopted mappable
  have active_iff : active ↔ heartbeatAge now timestamp ≤ handshake.timeout := by
    obtain ⟨after, decided⟩ := aged.run_isActive fits granted
    constructor
    · rintro ⟨_, alive⟩
      exact of_decide_eq_true (Outcome.returned.inj (decided.symm.trans alive)).1
    · intro fresh
      exact ⟨after, decided.trans (congrArg (Outcome.returned · after) (decide_eq_true fresh))⟩
  have refused_iff : refused ↔ mappable ∧ heartbeatAge now timestamp < handshake.timeout := by
    constructor
    · rintro ⟨after, blocked⟩
      by_cases can : mappable
      · refine ⟨can, Classical.not_not.1 fun old => ?_⟩
        obtain ⟨_, _, given⟩ := (aged.run_createOrAdopt fits can).2 old
        exact nomatch given.symm.trans blocked
      · obtain ⟨_, _, -, failed⟩ := aged.run_createOrAdopt_of_not_mappable fits can
        exact nomatch failed.symm.trans blocked
    · rintro ⟨can, young⟩
      exact (aged.run_createOrAdopt fits can).1 young
  have adopted_iff : adopted ↔ mappable ∧ ¬ heartbeatAge now timestamp < handshake.timeout := by
    constructor
    · rintro ⟨handle, after, given⟩
      by_cases can : mappable
      · refine ⟨can, fun young => ?_⟩
        obtain ⟨_, blocked⟩ := (aged.run_createOrAdopt fits can).1 young
        exact nomatch blocked.symm.trans given
      · obtain ⟨_, _, -, failed⟩ := aged.run_createOrAdopt_of_not_mappable fits can
        exact nomatch failed.symm.trans given
    · rintro ⟨can, old⟩
      exact (aged.run_createOrAdopt fits can).2 old
  refine ⟨?_, ?_, ?_, ?_, ?_⟩
  · rw [refused_iff, active_iff]
    exact fun young => Int64.le_of_lt young.2
  · rw [active_iff, adopted_iff, Int64.not_lt]
    constructor
    · rintro ⟨fresh, can, old⟩
      exact ⟨can, Int64.le_antisymm fresh old⟩
    · rintro ⟨can, same⟩
      exact ⟨Int64.le_of_eq same, can, Int64.le_of_eq same.symm⟩
  · intro bounded
    rw [active_iff, heartbeatAge_le_iff bounded]
  · intro bounded
    rw [refused_iff, heartbeatAge_lt_iff bounded]
  · exact aged.run_createOrAdopt_of_not_mappable fits

end Aged

/-- The owner of `/run/cnc` at 120 ms.  Its heartbeat is from 100 ms. -/
theorem aged_owned :
    { ofOwned with timeout := 20 }.Aged "/run/cnc" 0 120 100 ⟨.ticking 120 0, .owned, []⟩ where
  has := ⟨rfl, by decide⟩
  published := by decide
  accepted := rfl
  heartbeat := by decide
  beating := by decide
  undisturbed := Clock.undisturbed_ticking 120 0
  still := World.shown_ticks_of_still 120 0 .owned

/-- With a timeout of 20 ms, that owner is alive, and its file can be adopted. -/
theorem rules_agree_owned :
    let handshake : Handshake := { ofOwned with timeout := 20 }
    let environment : Environment := ⟨.ticking 120 0, .owned, []⟩
    handshake.Aged "/run/cnc" 0 120 100 environment ∧
      handshake.layout.checkMappedLength 16 = .ok () ∧
      (∃ after, (handshake.isActive (some (.mapping 0 0 (environment.storage.content 0).size)) 1 :
        Activity Bool).run environment = .returned true after) ∧
      ∃ handle after, (handshake.createOrAdopt "/run/cnc" 16 true : Activity Handle).run
        environment = .returned handle after := by
  intro handshake environment
  have fits : handshake.layout.checkMappedLength 16 = .ok () :=
    Layout.checkMappedLength_eq_ok_iff.2 (by decide)
  obtain ⟨active, adopted⟩ := (aged_owned.rules_agree fits Nat.one_ne_zero).2.1.2
    ⟨⟨rfl, .inl (by decide), rfl⟩, by decide⟩
  exact ⟨aged_owned, fits, active, adopted⟩

/-- For a length that no file can have, that owner is alive, and its file cannot be adopted. -/
theorem rules_disagree_beyond_files :
    let handshake : Handshake := { ofOwned with timeout := 20 }
    let environment : Environment := ⟨.ticking 120 0, .owned, []⟩
    let active := ∃ after, (handshake.isActive
      (some (.mapping 0 0 (environment.storage.content 0).size)) 1 : Activity Bool).run
        environment = .returned true after
    let adopted := ∃ handle after, (handshake.createOrAdopt "/run/cnc" 9223372036854775808 true :
      Activity Handle).run environment = .returned handle after
    handshake.Aged "/run/cnc" 0 120 100 environment ∧
      handshake.layout.checkMappedLength 9223372036854775808 = .ok () ∧
      ¬ (active ∧ adopted ↔ Milliseconds.saturatingSub 120 100 = handshake.timeout) := by
  intro handshake environment active adopted
  have fits : handshake.layout.checkMappedLength 9223372036854775808 = .ok () :=
    Layout.checkMappedLength_eq_ok_iff.2 (by decide)
  have unmappable : ¬ environment.storage.Mappable "/run/cnc" 0 9223372036854775808 :=
    fun mappable => absurd mappable.sizes (by decide)
  refine ⟨aged_owned, fits, fun agree => ?_⟩
  obtain ⟨_, _, _, given⟩ := agree.2 (by decide)
  obtain ⟨_, _, -, failed⟩ := aged_owned.run_createOrAdopt_of_not_mappable fits unmappable
  exact nomatch failed.symm.trans given

end Handshake

end Heartbeat
