import Heartbeat.Proofs.Adoption

/-!
# The steps of a takeover

What each step of a creation and of an adoption leaves when it succeeds, and what can stand in its
way.  The steps come in program order, and each way to take a region over is put together from them
(`Handshake.outcome_createInDirectory`, `Handshake.outcome_createOrAdopt`).

What can stand in the way once the configuration was tested is told by `Handshake.Obstacle`.
-/

set_option autoImplicit false

namespace Heartbeat

/-- A failure of an operation on files. -/
def Failure.OfFiles (failure : Failure) : Prop :=
  ∃ task path cause, failure = .refused (.files task path cause)

/-- Deleting a directory leaves this, whether or not there was something to delete. -/
def Storage.Removes (storage : Storage) (directory : String) (left : Storage) : Prop :=
  storage.removeTree directory = (.ok (), left) ∨
    storage.removeTree directory = (.error .notFound, left)

namespace Handshake

variable {handshake : Handshake} {directory filename path : String} {length : Nat}
  {environment : Environment}

theorem ofFiles_of_filesResult {α : Type} {task path : String} {result : Except FileError α}
    {failure : Failure} (failed : filesResult task path result = .error failure) :
    failure.OfFiles := by
  obtain ⟨cause, same⟩ := filesResult_eq_error failed
  exact ⟨task, path, cause, same⟩

/-- What can stand in the way of an owner whose configuration will do. -/
inductive Obstacle (handshake : Handshake) (path : String) : Failure → Prop where
  | activeOwner : Obstacle handshake path (.refused (.activeOwner path))
  | notInitialized : Obstacle handshake path (.refused .notInitialized)
  | noHeartbeat : Obstacle handshake path (.refused .noHeartbeat)
  | rejected {version : Int32} {refusal : Refusal} (published : version ≠ 0)
      (rejects : handshake.check version = .error refusal) :
      Obstacle handshake path (.refused refusal)
  | files {task subject : String} {cause : FileError} :
      Obstacle handshake path (.refused (.files task subject cause))

theorem Obstacle.of_ofFiles {failure : Failure} (ofFiles : failure.OfFiles) :
    handshake.Obstacle path failure := by
  obtain ⟨_, _, _, rfl⟩ := ofFiles
  exact .files

/-- A decision on liveness fails for no other reason. -/
theorem Obstacle.of_decides {fields : ControlFields} {world after : World} {failure : Failure}
    {reports : List Report}
    (decides : handshake.Decides fields world (.error failure) after reports) :
    handshake.Obstacle path failure := by
  rcases decides.refusal with rfl | rfl | ⟨_, _, published, rejects, rfl⟩
  · exact .notInitialized
  · exact .noHeartbeat
  · exact .rejected published rejects

/-! ## Preparing the directory -/

/-- A directory that was made is the result of making it. -/
theorem outcome_makeDirectory :
    ((makeDirectory directory : Activity Unit).run environment).Ensures
      (fun _ after => environment.storage.makeDirectories directory = (.ok (), after.storage) ∧
        after.clock = environment.clock)
      (fun failure _ => failure.OfFiles) False := by
  unfold makeDirectory
  rw [Activity.run_work]
  rcases made : environment.storage.makeDirectories directory with ⟨result, left⟩
  refine .of_ofExcept (fun _ succeeded => ⟨?_, rfl⟩) fun _ failed => ofFiles_of_filesResult failed
  exact Prod.ext (filesResult_eq_ok_iff.1 succeeded) rfl

/-- A deletion does not read the clock, and leaves what removing the directory leaves. -/
theorem outcome_deleteDirectory (ignoresFailures : Bool) :
    let left := (environment.storage.removeTree directory).2
    ((deleteDirectory directory ignoresFailures : Activity Unit).run environment).Ensures
      (fun _ after => (ignoresFailures = false → environment.storage.Removes directory left) ∧
        after.world = ⟨environment.clock, left⟩)
      (fun failure after => failure.OfFiles ∧ after.world = ⟨environment.clock, left⟩) False := by
  intro left
  unfold deleteDirectory
  rw [Activity.run_bind_of_returned _ (Activity.run_work _ _)]
  cases removed : (environment.storage.removeTree directory).1 with
  | ok _ => exact ⟨fun _ => .inl (Prod.ext removed rfl), rfl⟩
  | error cause =>
    cases cause with
    | notFound => exact ⟨fun _ => .inr (Prod.ext removed rfl), rfl⟩
    | _ =>
      cases ignoresFailures with
      | true => exact ⟨nofun, rfl⟩
      | false => exact ⟨⟨_, _, _, rfl⟩, rfl⟩

/-- The test before a deletion does nothing but read the clock. -/
theorem outcome_protectLiveOwner (fits : handshake.layout.checkMappedLength length = .ok ())
    (rounds : Nat) :
    ((handshake.protectLiveOwner directory filename rounds : Activity Unit).run
      environment).Ensures
      (fun _ after => ∃ readings, after.world = environment.world.ticks readings)
      (fun failure _ => handshake.Obstacle (Path.join directory filename) failure) True := by
  obtain ⟨representable, _, versionAligned, timestampAligned⟩ :=
    Layout.checkMappedLength_eq_ok_iff.1 fits
  by_cases shows : ∃ object,
      environment.storage.ShowsFields (Path.join directory filename) handshake.layout object
  · obtain ⟨object, shows⟩ := shows
    obtain ⟨reports, tested⟩ := run_protectLiveOwner_of_fields representable versionAligned
      timestampAligned rounds shows
    have fit := ControlFields.fit_ofFile representable versionAligned timestampAligned object
      shows.has.2
    rw [tested]
    rcases run_isActive fit rounds (environment.reporting reports) with
      pending | ⟨answer, after, further, decides, ended⟩
    · rw [show _ = Outcome.pending from pending]
      trivial
    · rw [show _ = Outcome.ofExcept answer _ from ended]
      cases answer with
      | error _ => exact .of_decides decides
      | ok active =>
        cases active with
        | true => exact .activeOwner
        | false => exact decides.ticks
  · obtain ⟨reports, unprotected⟩ := run_protectLiveOwner_of_no_fields representable rounds
      (not_exists.1 shows)
    rw [unprotected]
    exact ⟨0, rfl⟩

/-- How a world comes to have an empty directory: where there is none it is made, and where there
is one it is deleted first, after some readings of the clock. -/
inductive Prepares (directory : String) (world : World) : World → Prop where
  | new {storage : Storage} (absent : world.storage.isDirectory directory = false)
      (made : world.storage.makeDirectories directory = (.ok (), storage)) :
      Prepares directory world ⟨world.clock, storage⟩
  | anew {readings : Nat} {cleared storage : Storage}
      (there : world.storage.isDirectory directory = true)
      (removes : (world.ticks readings).storage.Removes directory cleared)
      (made : cleared.makeDirectories directory = (.ok (), storage)) :
      Prepares directory world ⟨(world.ticks readings).clock, storage⟩

/-- All that a preparation does to the clock is to read it. -/
theorem Prepares.clock {world after : World} (prepares : Prepares directory world after) :
    ∃ readings, after.clock = (world.ticks readings).clock := by
  cases prepares with
  | new _ _ => exact ⟨0, rfl⟩
  | anew _ _ _ => exact ⟨_, rfl⟩

/-- The directory was made last. -/
theorem Prepares.made {world after : World} (prepares : Prepares directory world after) :
    ∃ before : Storage, before.makeDirectories directory = (.ok (), after.storage) := by
  cases prepares with
  | new _ made => exact ⟨_, made⟩
  | anew _ _ made => exact ⟨_, made⟩

/-- A directory is deleted and made again. -/
theorem outcome_remakeDirectory {world : World} {readings : Nat}
    (there : world.storage.isDirectory directory = true)
    (moved : environment.world = world.ticks readings) :
    ((do
        deleteDirectory directory false
        makeDirectory directory : Activity Unit).run environment).Ensures
      (fun _ after => Prepares directory world after.world)
      (fun failure _ => handshake.Obstacle path failure) True := by
  refine .bind ((outcome_deleteDirectory false).imp ?_
    (fun _ _ failed => .of_ofFiles failed.1) False.elim)
  rintro _ cleared ⟨removes, cleared'⟩
  obtain ⟨still, left⟩ := World.mk.inj cleared'
  refine outcome_makeDirectory.imp ?_ (fun _ _ => .of_ofFiles) False.elim
  rintro _ after ⟨made, still'⟩
  have storage : environment.storage = (world.ticks readings).storage :=
    congrArg World.storage moved
  have anew := Prepares.anew there (storage ▸ left ▸ removes rfl) made
  have clock : after.clock = (world.ticks readings).clock :=
    (still'.trans still).trans (congrArg World.clock moved)
  rwa [← clock] at anew

/-- A directory that was prepared is there. -/
theorem outcome_prepareDirectory (fits : handshake.layout.checkMappedLength length = .ok ())
    (force : Bool) (rounds : Nat) :
    ((handshake.prepareDirectory directory filename force rounds : Activity Unit).run
      environment).Ensures
      (fun _ after => Prepares directory environment.world after.world)
      (fun failure _ => handshake.Obstacle (Path.join directory filename) failure) True := by
  unfold prepareDirectory
  rw [Activity.run_bind_of_returned _ (Activity.run_look _ _)]
  cases there : environment.storage.isDirectory directory with
  | false =>
    refine outcome_makeDirectory.imp ?_ (fun _ _ => .of_ofFiles) False.elim
    rintro _ after ⟨made, still⟩
    have new : Prepares directory environment.world ⟨environment.clock, after.storage⟩ :=
      .new there made
    rwa [← still] at new
  | true =>
    cases force with
    | true =>
      obtain ⟨reports, warned⟩ := run_directoryWarning handshake directory environment (do
        deleteDirectory directory false
        makeDirectory directory : Activity Unit)
      exact warned ▸ outcome_remakeDirectory there
        (show (environment.reporting reports).world = environment.world.ticks 0 from rfl)
    | false =>
      obtain ⟨reports, warned⟩ := run_directoryWarning handshake directory environment (do
        handshake.protectLiveOwner directory filename rounds
        deleteDirectory directory false
        makeDirectory directory : Activity Unit)
      refine warned ▸ .bind ((outcome_protectLiveOwner fits rounds).imp ?_ (fun _ _ => id) id)
      rintro _ tested ⟨readings, moved⟩
      exact outcome_remakeDirectory there moved

/-! ## Creating the file -/

/-- A file was emptied, or made, and given its length, and this is the handle on it. -/
structure Creates (handshake : Handshake) (directory filename : String) (length : Nat)
    (before : Storage) (object : ObjectId) (handle : Handle) (after : Storage) : Prop where
  /-- The file is empty at first, and is given its length then. -/
  file : ∃ emptied : Storage,
    before.openEmptied (Path.join directory filename) = (.ok object, emptied) ∧
      emptied.mapResized object length = (.ok (.mapping object 0 length), after)
  /-- The region can carry the control fields. -/
  fit : (ControlFields.ofFile handshake.layout object length).Fit
  /-- The handle knows the directory and the path, and has the region in view. -/
  handle : handle = ⟨handshake.layout, some directory, some (Path.join directory filename),
    some ⟨.mapping object 0 length, .owned⟩, false⟩

/-- A file is created unless an operation on files fails or its region cannot carry the control
fields. -/
theorem outcome_createFile :
    ((handshake.createFile directory filename length : Activity Handle).run environment).Ensures
      (fun handle after => (∃ object, handshake.Creates directory filename length
          environment.storage object handle after.storage) ∧ after.clock = environment.clock)
      (fun failure _ => failure.OfFiles ∨
        ∃ object, handshake.layout.check (.mapping object 0 length) = .error failure) False := by
  unfold createFile
  refine .bind ?_
  rw [Activity.run_work]
  by_cases empty : length = 0
  · simp only [if_pos empty]
    exact .inl ⟨_, _, _, rfl⟩
  simp only [if_neg empty]
  refine .of_ofExcept ?_ fun _ failed => .inl (ofFiles_of_filesResult failed)
  intro object emptied
  refine .bind ?_
  rw [Activity.run_work]
  refine .of_ofExcept ?_ fun _ failed => .inl (ofFiles_of_filesResult failed)
  intro region mapped
  obtain ⟨-, rfl, -⟩ :=
    Storage.mapResized_eq_ok (Prod.ext (filesResult_eq_ok_iff.1 mapped) rfl)
  rw [Activity.run_bind_of_returned _ (Activity.run_report _ _), Activity.run_ofExcept,
    Handle.ofView_eq]
  cases fit : handshake.layout.check (.mapping object 0 length) with
  | error failure => exact .inr ⟨object, fit⟩
  | ok =>
    exact ⟨⟨object, ⟨_, Prod.ext (filesResult_eq_ok_iff.1 emptied) rfl,
      Prod.ext (filesResult_eq_ok_iff.1 mapped) rfl⟩, fit, rfl⟩, rfl⟩

/-- A creation whose configuration will do prepares the directory and creates the file, unless
something stands in its way. -/
theorem outcome_createInDirectory (fits : handshake.layout.checkMappedLength length = .ok ())
    (force : Bool) (rounds : Nat) :
    ((handshake.createInDirectory directory filename length force rounds : Activity Handle).run
      environment).Ensures
      (fun handle after => ∃ prepared : World,
        Prepares directory environment.world prepared ∧
        (∃ object, handshake.Creates directory filename length prepared.storage object handle
          after.storage) ∧ after.clock = prepared.clock)
      (fun failure _ => handshake.Obstacle (Path.join directory filename) failure) True := by
  unfold createInDirectory
  rw [Activity.run_bind, Activity.run_ofExcept, fits]
  refine .bind ((outcome_prepareDirectory fits force rounds).imp ?_ (fun _ _ => id) id)
  rintro _ prepared prepares
  refine outcome_createFile.imp ?_ ?_ False.elim
  · rintro handle after ⟨creates, still⟩
    exact ⟨prepared.world, prepares, creates, still⟩
  · rintro failure _ (ofFiles | ⟨object, unfit⟩)
    · exact .of_ofFiles ofFiles
    · rw [← Layout.checkMappedLength_eq_check, fits] at unfit
      cases unfit

/-! ## Adopting a file -/

/-- An adoption refuses a version that the check rejects, or a young heartbeat. -/
theorem outcome_requireStale {fields : ControlFields} (fit : fields.Fit) :
    ((handshake.requireStale path fields : Activity Unit).run environment).Ensures
      (fun _ after => after.world = environment.world.tick)
      (fun failure _ => handshake.Obstacle path failure) False := by
  rw [run_requireStale fit]
  cases checked : handshake.checkPublished (fields.versionIn environment.storage) with
  | error refusal =>
    unfold checkPublished at checked
    split at checked
    · cases checked
    · next published => exact .rejected published checked
  | ok =>
    simp only
    generalize (_ && _) = young
    cases young with
    | true => exact .activeOwner
    | false => exact rfl

/-- A file was opened, or made, and mapped from its beginning, and this is the handle on it. -/
structure Adopts (handshake : Handshake) (path : String) (length : Nat) (before : Storage)
    (object : ObjectId) (handle : Handle) (after : Storage) : Prop where
  /-- The file is mapped and keeps what it holds. -/
  file : before.mapKeeping path length = (.ok (.mapping object 0 length), after)
  /-- The handle knows the path, and has the region in view. -/
  handle : handle = ⟨handshake.layout, holdingDirectory path, some path,
    some ⟨.mapping object 0 length, .owned⟩, false⟩

/-- An adoption whose configuration will do maps the file and does nothing after that but to read
the clock, unless something stands in its way. -/
theorem outcome_createOrAdopt (fits : handshake.layout.checkMappedLength length = .ok ())
    (shouldPreExist : Bool) :
    ((handshake.createOrAdopt path length shouldPreExist : Activity Handle).run
      environment).Ensures
      (fun handle after => ∃ object mapped readings,
        handshake.Adopts path length environment.storage object handle mapped ∧
          after.world = World.ticks ⟨environment.clock, mapped⟩ readings)
      (fun failure _ => handshake.Obstacle path failure) False := by
  rcases maps : environment.storage.mapKeeping path length with ⟨result, mapped⟩
  cases result with
  | error cause =>
    rw [run_createOrAdopt_of_unmapped fits maps]
    exact .files
  | ok region =>
    have fit : ControlFields.Fit ⟨region, handshake.layout⟩ := fit_of_mapKeeping fits maps
    obtain ⟨object, rfl, -⟩ := Storage.mapKeeping_eq_ok maps
    rw [run_createOrAdopt_of_mapped fits maps]
    cases shouldPreExist with
    | false => exact ⟨object, mapped, 0, ⟨maps, rfl⟩, rfl⟩
    | true =>
      refine .bind ((outcome_requireStale fit).imp ?_ (fun _ _ => id) id)
      exact fun _ held moved => ⟨object, mapped, 1, ⟨maps, rfl⟩, moved⟩

end Handshake

end Heartbeat
