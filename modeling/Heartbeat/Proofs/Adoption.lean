import Heartbeat.Proofs.Granting
import Heartbeat.Proofs.OwnerActs

/-!
# How an adoption runs

An adoption opens a file, or makes it, and maps its beginning, which may lengthen it but leaves
every byte in place.  Then it looks at each of the two fields once, if the file is meant to exist.
`run_requireStale` tells what comes of these two looks and of the one reading of the clock between
them and the answer.  `run_createOrAdopt_of_mapped` tells what the whole adoption is once the file
is mapped, and `run_createOrAdopt_of_unmapped` what it is if the file cannot be mapped.
-/

set_option autoImplicit false

namespace Heartbeat

variable {handshake : Handshake} {environment : Environment} {path : String} {object : ObjectId}

/-! ## Mapping the beginning of a file -/

namespace Storage

/-- Mapping the beginning of an existing file, which is lengthened if it is too short. -/
theorem mapKeeping_of_openFile {storage : Storage} {length : Nat}
    (opened : storage.openFile path = .ok object) (positive : length ≠ 0)
    (grants : storage.system.Grants (.making path)) :
    storage.mapKeeping path length =
      if (storage.content object).size < length then storage.mapResized object length
      else (storage.mapBeginning object length, storage) :=
  mapKeeping_of_makeFile positive
    ((makeFile_of_grants grants).trans (openOrCreateFile_of_openFile opened))

/-- A file that was mapped is what its path leads to, and is mapped from its beginning. -/
theorem mapKeeping_eq_ok {storage after : Storage} {length : Nat} {region : Region}
    (mapped : storage.mapKeeping path length = (.ok region, after)) :
    ∃ object, region = .mapping object 0 length ∧ after.openFile path = .ok object := by
  unfold mapKeeping at mapped
  split at mapped
  · cases mapped
  split at mapped
  · cases mapped
  next object opened made =>
  have leads := (openFile_of_openOrCreateFile (makeFile_eq_ok made)).1
  refine ⟨object, ?_⟩
  split at mapped
  · obtain ⟨_, rfl, rfl⟩ := mapResized_eq_ok mapped
    exact ⟨rfl, openFile_of_namesKept (.modify _ _ _) leads⟩
  · obtain ⟨maps, rfl⟩ := Prod.mk.inj mapped
    exact ⟨mapBeginning_eq_ok maps, leads⟩

end Storage

/-! ## The two looks of an adoption -/

/-- What is reported of a version before the clock is read.  Zero is never shown to the version
check. -/
def consultation (version : Int32) : List Report :=
  if version = 0 then [] else [.consulted version]

theorem consulted_mem_consultation {shown version : Int32} :
    .consulted shown ∈ consultation version ↔ shown = version ∧ version ≠ 0 := by
  unfold consultation
  split
  · next unpublished => simp [unpublished]
  · next published => simp [published]

namespace Handshake

/-- A version that is zero is let through, and any other one is shown to the version check. -/
def checkPublished (handshake : Handshake) (version : Int32) : Except Refusal Unit :=
  if version = 0 then .ok () else handshake.check version

/-- What is reported of a file that is there, up to the reading of the clock. -/
def inspection (handshake : Handshake) (path : String) (version : Int32) : List Report :=
  handshake.messages s!"cnc file exists: {path}" ++ consultation version

/-- What is reported of the age of a heartbeat. -/
def aging (handshake : Handshake) (age : Milliseconds) : List Report :=
  handshake.messages s!"heartbeat age is {age.toInt} ms"

/-- The report that a file is adopted although it was there. -/
def adoption (path : String) (version : Int32) (age : Milliseconds) : Report :=
  .event .debug "adopting stale cnc file"
    [("path", .text path), ("version", .number version.toInt), ("age_ms", .number age.toInt)]

theorem run_consultPublished (handshake : Handshake) (version : Int32)
    (environment : Environment) {α : Type} (next : Activity α) :
    (if version ≠ 0 then do
        handshake.consult version
        next
      else next : Activity α).run environment =
      match handshake.checkPublished version with
      | .error refusal =>
        .failed (.refused refusal) (environment.reporting (consultation version))
      | .ok () => next.run (environment.reporting (consultation version)) := by
  unfold checkPublished consultation
  by_cases unpublished : version = 0
  · simp only [unpublished, ne_eq, not_true_eq_false, if_false, if_true, Environment.reporting_nil]
  · simp only [unpublished, ne_eq, not_false_eq_true, if_true, if_false]
    cases checked : handshake.check version with
    | error refusal =>
      apply Activity.run_bind_of_failed _
      rw [Activity.run_consult, checked]
      rfl
    | ok =>
      have consulted : (handshake.consult version : Activity Unit).run environment =
          .returned () (environment.reporting [.consulted version]) := by
        rw [Activity.run_consult, checked]
        rfl
      exact Activity.run_bind_of_returned _ consulted

/-- What comes of the second look of an adoption, the one at the heartbeat. -/
theorem run_refuseYoung {fields : ControlFields} (fit : fields.Fit) (handshake : Handshake)
    (path : String) (version : Int32) (environment : Environment) :
    let age := heartbeatAge environment.world.shown (fields.timestampIn environment.storage)
    (do
        let timestamp ← Observer.look fun storage => Failure.ofFault (fields.timestamp storage)
        let age := heartbeatAge (← Waiting.now) timestamp
        handshake.log s!"heartbeat age is {age.toInt} ms"
        if timestamp ≠ 0 && blocksAdoption age handshake.timeout then
          Observer.refuse (.activeOwner path)
        Observer.report (.event .debug "adopting stale cnc file"
          [("path", .text path), ("version", .number version.toInt),
            ("age_ms", .number age.toInt)]) : Activity Unit).run environment =
      if (fields.timestampIn environment.storage ≠ 0 &&
          blocksAdoption age handshake.timeout) = true then
        .failed (.refused (.activeOwner path))
          ((environment.inside environment.world.tick).reporting (handshake.aging age))
      else .returned () ((environment.inside environment.world.tick).reporting
        (handshake.aging age ++ [adoption path version age])) := by
  intro age
  have timestamp : (Observer.look fun storage => Failure.ofFault (fields.timestamp storage) :
      Activity Milliseconds).run environment =
        .returned (fields.timestampIn environment.storage) environment := by
    rw [Activity.run_look, fit.timestamp_eq]
    rfl
  simp only [Activity.run_bind_of_returned _ timestamp,
    Activity.run_bind_of_returned _ (Activity.run_now environment),
    Activity.run_bind_of_returned _ (Activity.run_log_eq _ handshake _)]
  split
  · rfl
  · rw [Activity.run_report, Environment.reporting_reporting]
    rfl

/-- What comes of the two looks of an adoption. -/
theorem run_requireStale {fields : ControlFields} (fit : fields.Fit) (handshake : Handshake)
    (path : String) (environment : Environment) :
    let version := fields.versionIn environment.storage
    let age := heartbeatAge environment.world.shown (fields.timestampIn environment.storage)
    (handshake.requireStale path fields : Activity Unit).run environment =
      match handshake.checkPublished version with
      | .error refusal =>
        .failed (.refused refusal) (environment.reporting (handshake.inspection path version))
      | .ok () =>
        if (fields.timestampIn environment.storage ≠ 0 &&
            blocksAdoption age handshake.timeout) = true then
          .failed (.refused (.activeOwner path))
            ((environment.inside environment.world.tick).reporting
              (handshake.inspection path version ++ handshake.aging age))
        else .returned () ((environment.inside environment.world.tick).reporting
          (handshake.inspection path version ++ handshake.aging age ++
            [adoption path version age])) := by
  intro version age
  have logged := Activity.run_log_eq environment handshake s!"cnc file exists: {path}"
  have seen : (Observer.look fun storage => Failure.ofFault (fields.version storage) :
      Activity Int32).run
        (environment.reporting (handshake.messages s!"cnc file exists: {path}")) =
        .returned version
          (environment.reporting (handshake.messages s!"cnc file exists: {path}")) := by
    rw [Activity.run_look, fit.version_eq]
    rfl
  unfold requireStale
  simp only [Activity.run_bind_of_returned _ logged, Activity.run_bind_of_returned _ seen]
  rw [run_consultPublished, Environment.reporting_reporting, ← inspection]
  cases handshake.checkPublished version with
  | error refusal => rfl
  | ok =>
    refine (run_refuseYoung fit handshake path version _).trans ?_
    simp only [Environment.storage_reporting, Environment.world_reporting,
      Environment.reporting_inside, Environment.reporting_reporting, List.append_assoc]
    rfl

/-! ## The whole adoption -/

/-- The test of the length and of the alignment comes before everything else. -/
theorem run_createOrAdopt_of_unfit {length : Nat} {failure : Failure} {shouldPreExist : Bool}
    (unfit : handshake.layout.checkMappedLength length = .error failure) :
    (handshake.createOrAdopt path length shouldPreExist : Activity Handle).run environment =
      .failed failure environment := by
  unfold createOrAdopt
  apply Activity.run_bind_of_failed _
  rw [Activity.run_ofExcept, unfit]
  rfl

/-- Whatever comes of mapping the beginning of a file, the file is the same but for zero bytes at
the end. -/
theorem sharesFile_mapKeeping {storage : Storage} {layout : Layout}
    (has : storage.HasFields path layout object) (length : Nat) :
    SharesFile path layout object storage (storage.mapKeeping path length).2 := by
  by_cases empty : length = 0
  · rw [Storage.mapKeeping, if_pos empty]
    exact .refl has
  cases made : storage.makeFile path with
  | error _ =>
    rw [Storage.mapKeeping_of_makeFile_error empty made]
    exact .refl has
  | ok result =>
    obtain rfl : (object, storage) = result := Except.ok.inj
      ((Storage.openOrCreateFile_of_openFile has.1).symm.trans (Storage.makeFile_eq_ok made))
    rw [Storage.mapKeeping_of_makeFile empty made]
    split
    · next short =>
      rcases Storage.mapResized_snd storage object length with left | left <;> rw [left]
      · exact .refl has
      · exact .resize has (Nat.le_of_lt short)
    · exact .refl has

section Fitting

variable {length : Nat} (fits : handshake.layout.checkMappedLength length = .ok ())
include fits

/-- A file that cannot be opened, made or lengthened is not adopted. -/
theorem run_createOrAdopt_of_unmapped {cause : FileError} {left : Storage}
    (unmapped : environment.storage.mapKeeping path length = (.error cause, left))
    (shouldPreExist : Bool) :
    (handshake.createOrAdopt path length shouldPreExist : Activity Handle).run environment =
      .failed (.refused (.files "map cnc file" path cause))
        (environment.inside ⟨environment.clock, left⟩) := by
  have tested : (Observer.ofExcept (handshake.layout.checkMappedLength length) :
      Activity Unit).run environment = .returned () environment := by
    rw [Activity.run_ofExcept, fits]
    rfl
  unfold createOrAdopt
  rw [Activity.run_bind_of_returned _ tested]
  apply Activity.run_bind_of_failed _
  rw [Activity.run_work, unmapped]
  rfl

/-- The beginning of a file has room for the control fields, if it is as long as it has to be. -/
theorem fit_of_mapKeeping {storage mapped : Storage} {region : Region}
    (maps : storage.mapKeeping path length = (.ok region, mapped)) :
    ControlFields.Fit ⟨region, handshake.layout⟩ := by
  obtain ⟨object, rfl, -⟩ := Storage.mapKeeping_eq_ok maps
  rw [ControlFields.Fit, ← Layout.checkMappedLength_eq_check, fits]

/-- Once the file is mapped, only the two looks can keep it from being adopted. -/
theorem run_createOrAdopt_of_mapped {region : Region} {mapped : Storage}
    (maps : environment.storage.mapKeeping path length = (.ok region, mapped))
    (shouldPreExist : Bool) :
    (handshake.createOrAdopt path length shouldPreExist : Activity Handle).run environment =
      ((if shouldPreExist then handshake.requireStale path ⟨region, handshake.layout⟩
          else pure () : Activity Unit) >>= fun _ =>
        (pure ⟨handshake.layout, holdingDirectory path, some path, some ⟨region, .owned⟩, false⟩ :
          Activity Handle)).run (environment.inside ⟨environment.clock, mapped⟩) := by
  have fit : handshake.layout.check region = .ok () := fit_of_mapKeeping fits maps
  have tested : (Observer.ofExcept (handshake.layout.checkMappedLength length) :
      Activity Unit).run environment = .returned () environment := by
    rw [Activity.run_ofExcept, fits]
    rfl
  have fitting (held : Environment) : (requireFit handshake.layout region : Activity Unit).run held =
      .returned () held := by
    rw [requireFit, Activity.run_look, fit]
    rfl
  have given : (Observer.ofExcept (Handle.ofView ⟨region, .owned⟩ handshake.layout
      (holdingDirectory path) (some path)) : Activity Handle) =
        pure ⟨handshake.layout, holdingDirectory path, some path, some ⟨region, .owned⟩, false⟩ := by
    rw [Handle.ofView_eq, fit]
    rfl
  unfold createOrAdopt
  rw [Activity.run_bind_of_returned _ tested, Activity.run_bind, Activity.run_work, maps]
  refine (Activity.run_bind_of_returned _ (fitting _)).trans ?_
  rw [given]
  cases shouldPreExist <;> rfl

/-- The adoption of a file with room for the control fields goes on with the file, or it fails
because the file cannot be sized or mapped.  In both cases the file may have been lengthened. -/
theorem run_createOrAdopt_of_fields
    (has : environment.storage.HasFields path handshake.layout object) :
    ∃ held, SharesFile path handshake.layout object environment.storage held ∧
      ((∃ cause, environment.storage.mapKeeping path length = (.error cause, held) ∧
          (handshake.createOrAdopt path length true : Activity Handle).run environment =
            .failed (.refused (.files "map cnc file" path cause))
              (environment.inside ⟨environment.clock, held⟩)) ∨
        environment.storage.mapKeeping path length = (.ok (.mapping object 0 length), held) ∧
          (handshake.createOrAdopt path length true : Activity Handle).run environment =
            (handshake.requireStale path (.ofFile handshake.layout object length) >>= fun _ =>
              (pure ⟨handshake.layout, holdingDirectory path, some path,
                some ⟨.mapping object 0 length, .owned⟩, false⟩ : Activity Handle)).run
              (environment.inside ⟨environment.clock, held⟩)) := by
  have shares := sharesFile_mapKeeping has length
  rcases maps : environment.storage.mapKeeping path length with ⟨result, held⟩
  rw [maps] at shares
  refine ⟨held, shares, ?_⟩
  cases result with
  | error cause => exact .inl ⟨cause, rfl, run_createOrAdopt_of_unmapped fits maps true⟩
  | ok region =>
    obtain ⟨other, rfl, leads⟩ := Storage.mapKeeping_eq_ok maps
    obtain rfl : other = object := Except.ok.inj (leads.symm.trans shares.hasFields.1)
    exact .inr ⟨rfl, run_createOrAdopt_of_mapped fits maps true⟩

end Fitting

end Handshake

end Heartbeat
