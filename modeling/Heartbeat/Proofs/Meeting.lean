import Heartbeat.Program.Watcher
import Heartbeat.Proofs.Beating
import Heartbeat.Proofs.Budget

/-!
# A watcher that comes after its owner

A watcher with the configuration of an owner that got through its start and goes on writing
heartbeats attaches at once: each of its three waits is over with its first probe, so the clock is
read for the deadline and not again, and the timeout makes no difference
(`Owner.watcher_attaches_at_once`).

Both programs read their terms from the same configuration, so the path, the layout and the version
agree, and a version check that asks for the major number accepts the version itself
(`VersionCheck.sameMajor_pack`).  What is left to see is that the version in the field is not zero.
It is for exactly one version (`SemanticVersion.pack_eq_zero_iff`), which a region that was
published with it never shows.
-/

set_option autoImplicit false

namespace Heartbeat

/-! ## Versions that can be published -/

/-- Only one version cannot be told from none. -/
theorem SemanticVersion.pack_eq_zero_iff {version : SemanticVersion} :
    version.pack = 0 ↔ version = ⟨0, 0, 0⟩ := by
  have zero : SemanticVersion.pack ⟨0, 0, 0⟩ = 0 := rfl
  rw [← zero]
  exact ⟨fun same => by rw [← unpack_pack version, same, unpack_pack], congrArg pack⟩

/-- The check on the major number accepts the version that it was made for. -/
theorem VersionCheck.sameMajor_pack (version : SemanticVersion) :
    sameMajor version version.pack = .ok () := by
  simp only [sameMajor, SemanticVersion.unpack_pack, if_true]

/-- The terms of a configuration check for its own version. -/
theorem Configuration.terms_eq_ok {configuration : Configuration} {version : SemanticVersion}
    {handshake : Handshake} (terms : configuration.terms = .ok (version, handshake)) :
    SemanticVersion.read configuration.protocolVersion = .ok version ∧
      handshake.check = .sameMajor version := by
  unfold Configuration.terms at terms
  split at terms
  · cases terms
  · next read =>
    split at terms
    · cases terms
    · cases terms
      exact ⟨read, rfl⟩

/-! ## Waits that are over at once -/

namespace Handshake

variable {handshake : Handshake} {directory filename path : String} {fields : ControlFields}
  {object : ObjectId} {length : Nat}

/-- A file that is there already is found at once. -/
theorem run_awaitFile_of_seen {required size : Nat} (deadline : Milliseconds) {rounds : Nat}
    (granted : rounds ≠ 0) (environment : Environment)
    (seen : environment.storage.sizeFrom? path required = some size) :
    (awaitFile path required deadline rounds : Activity Unit).run environment =
      .returned () environment :=
  @run_pollUntilDeadline_refusing_of_seen _ _ (·.sizeFrom? path required)
    (run_fileProbe path required) deadline filePollInterval _ _ (fun _ => ()) _ (fun _ => rfl) rfl
    _ granted environment _ seen

/-- A file in place is found and mapped at once. -/
theorem run_mapWhenPresent_of_inPlace (file : fields = .ofFile handshake.layout object length)
    (fit : fields.Fit) (deadline : Milliseconds) {rounds : Nat} (granted : rounds ≠ 0)
    (environment : Environment) (inPlace : InPlace path fields environment.storage) :
    ∃ reports,
      (handshake.mapWhenPresent path deadline rounds : Activity Region).run environment =
        .returned fields.region (environment.reporting reports) := by
  subst file
  have representable : handshake.layout.Representable := (Layout.verify_eq_ok_iff.1 fit).1
  have room : handshake.layout.timestampOffset + timestampSize ≤ length :=
    (Layout.verify_eq_ok_iff.1 fit).2.1
  have size : (environment.storage.content object).size = length := inPlace.size
  have opened : environment.storage.openFile path = .ok object := inPlace.opened
  have required : (Observer.look fun _ => Failure.ofFault handshake.layout.requiredLength :
      Activity Nat).run environment =
        .returned (handshake.layout.timestampOffset + timestampSize) environment := by
    rw [Activity.run_look, Layout.requiredLength_eq_ok representable]
    rfl
  have seen : environment.storage.sizeFrom? path
      (handshake.layout.timestampOffset + timestampSize) = some length := by
    rw [Storage.sizeFrom?, Storage.sizeOf?_of_openFile opened, size, Option.filter_some,
      if_pos (decide_eq_true room)]
  have waited := run_awaitFile_of_seen deadline granted environment seen
  have whole : environment.storage.mapWhole path = .ok (.mapping object 0 length) := by
    simp only [Storage.mapWhole, opened, size]
  unfold mapWhenPresent
  rw [Activity.run_bind_of_returned _ required, Activity.run_bind_of_returned _ waited,
    Activity.run_bind_of_returned _ (Activity.run_log_eq _ _ _), Activity.run_look,
    Environment.storage_reporting, whole]
  exact ⟨_, rfl⟩

/-- An attachment to a file that shows an acceptable version and a heartbeat when the deadline has
been made is over at once, whatever the deadline is. -/
theorem run_openExisting_of_shown (file : fields = .ofFile handshake.layout object length)
    (fit : fields.Fit) {rounds : Nat} (granted : rounds ≠ 0) (environment : Environment)
    (inPlace : InPlace (Path.join directory filename) fields environment.world.tick.storage)
    (published : fields.versionIn environment.world.tick.storage ≠ 0)
    (accepts : handshake.check (fields.versionIn environment.world.tick.storage) = .ok ())
    (beating : fields.timestampIn environment.world.tick.storage ≠ 0) :
    ∃ after,
      (handshake.openExisting directory filename rounds : Activity Handle).run environment =
        .returned ⟨handshake.layout, some directory, some (Path.join directory filename),
          some ⟨fields.region, .owned⟩, false⟩ after ∧
      after.world = environment.world.tick := by
  have layout : (⟨fields.region, handshake.layout⟩ : ControlFields) = fields := by
    subst file
    rfl
  have fits : handshake.layout.check fields.region = .ok () := by
    subst file
    exact fit
  let deadline := handshake.deadlineIn environment.world
  obtain ⟨reports, mapped⟩ := run_mapWhenPresent_of_inPlace file fit deadline granted
    (environment.inside environment.world.tick) inPlace
  -- From here on only reports are added to what was found.
  generalize begun : environment.inside environment.world.tick = found at mapped
  have storage : found.storage = environment.world.tick.storage := by rw [← begun]; rfl
  rw [← storage] at published accepts beating
  have fitting : (requireFit handshake.layout fields.region : Activity Unit).run
      (found.reporting reports) = .returned () (found.reporting reports) := by
    rw [requireFit, Activity.run_look, fits]
    rfl
  have initialized := ControlFields.run_awaitVersion_of_shown fit deadline granted
    (found.reporting reports) published
  have consulted : (handshake.consult (fields.versionIn found.storage) : Activity Unit).run
      (found.reporting reports) = .returned () ((found.reporting reports).reporting
        [.consulted (fields.versionIn found.storage)]) := by
    rw [Activity.run_consult, accepts]
    rfl
  have beaten := ControlFields.run_awaitHeartbeat_of_shown fit deadline granted
    ((found.reporting reports).reporting [.consulted (fields.versionIn found.storage)]) beating
  simp only [Environment.storage_reporting] at initialized beaten
  refine ⟨?after, ?run, ?world⟩
  case run =>
    unfold openExisting
    rw [Activity.run_bind_of_returned _ (run_deadline handshake environment), begun,
      Activity.run_bind_of_returned _ mapped, Activity.run_bind_of_returned _ fitting]
    simp only [layout]
    rw [Activity.run_bind_of_returned _ initialized, Activity.run_bind_of_returned _ consulted,
      Activity.run_bind_of_returned _ beaten,
      Activity.run_bind_of_returned _ (Activity.run_report _ _), Activity.run_look, Handle.ofView,
      fits]
    rfl
  case world =>
    rw [Environment.world_reporting, Environment.world_reporting, Environment.world_reporting,
      ← begun, Environment.world_inside]

end Handshake

/-! ## While the owner goes on -/

namespace Owner

/-- The path of an owner's file. -/
def path (owner : Owner) : String :=
  Path.join owner.configuration.directory owner.configuration.filename

/-- What happens while an owner goes on: it writes heartbeats other than zero, and clocks are
set. -/
inductive Routine (owner : Owner) : Act → Prop where
  /-- A clock is set. -/
  | setTime (time : Milliseconds) : owner.Routine (.setTime time)
  /-- A heartbeat is written. -/
  | beat {time : Milliseconds} (alive : time ≠ 0) : owner.Routine
      (.files (.overwrite owner.path owner.handle.layout.timestampOffset (StoredWord.toBytes time)))

section Routine

variable {owner : Owner} {handshake : Handshake} {fields : ControlFields} {version : Int32}
  {storage : Storage} (shown : owner.Shown handshake fields version storage)
include shown

/-- The owner's file has room for the control fields. -/
theorem Shown.hasFields : ∃ object,
    fields = .ofFile owner.handle.layout object owner.configuration.fileLength ∧
      storage.HasFields owner.path owner.handle.layout object := by
  obtain ⟨object, file⟩ := shown.places.file
  have layout : owner.handle.layout = handshake.layout := by rw [shown.places.handle]
  have inPlace := shown.places.inPlace
  have room := (Layout.verify_eq_ok_iff.1 shown.places.fit).2.1
  rw [← layout] at file
  subst file
  exact ⟨object, rfl, inPlace.opened, inPlace.size.symm ▸ room⟩

/-- An owner that goes on is still shown. -/
theorem Shown.routine {act : Act} (routine : owner.Routine act) :
    owner.Shown handshake fields version (storage.afterActs [act]) := by
  cases routine with
  | setTime time => exact shown
  | @beat time alive =>
    obtain ⟨object, file, has⟩ := shown.hasFields
    have fit := shown.places.fit
    have beaten := shown.put alive
    subst file
    -- The heartbeat comes to the same as one through the handle, which is known to be harmless.
    obtain ⟨stored, put, shares⟩ :=
      afterActs_overwrite_of_store has time (Nat.le_refl _) fit.timestamp_access
    obtain rfl := Region.eq_put_of_store put
    have only : ∀ act ∈ [Act.files (.overwrite owner.path owner.handle.layout.timestampOffset
        (StoredWord.toBytes time))], OwnerAct owner.path owner.handle.layout act := by
      intro act listed
      cases List.mem_singleton.1 listed
      exact .beat time
    have size := (afterActs_sameBut has only).2
    refine ⟨⟨beaten.places.handle, beaten.places.file, fit, ⟨shares.hasFields.1, ?_⟩, ?_⟩, ?_, ?_⟩
    · exact size.trans shown.places.inPlace.size
    · exact fun named =>
        Storage.isDirectory_of_namesKept shares.same.namesKept (beaten.places.directory named)
    · exact (shares.versionIn _).trans beaten.published
    · exact (shares.timestampIn _).symm ▸ beaten.beating

theorem Shown.afterActs {acts : List Act} (routine : ∀ act ∈ acts, owner.Routine act) :
    owner.Shown handshake fields version (storage.afterActs acts) := by
  induction acts generalizing storage with
  | nil => exact shown
  | cons act acts ih =>
    rw [Storage.afterActs_cons]
    exact ih (shown.routine (routine act (List.mem_cons_self ..)))
      fun other listed => routine other (List.mem_cons_of_mem _ listed)

end Routine

end Owner

/-! ## The watcher -/

/-- A program finds a configuration: at a path, or the default one without a path. -/
def Configuration.FoundAt (configuration : Configuration) (storage : Storage) :
    Option String → Prop
  | none => configuration = .default
  | some path => load storage path = .ok configuration

namespace Program

variable {environment : Environment} {configuration : Configuration}

/-- A program that finds a configuration goes on with it. -/
theorem run_configuration_of_foundAt {path : Option String}
    (found : configuration.FoundAt environment.storage path) :
    Activity.run (Program.configuration path : Program Activity Configuration).run environment =
      .returned (.ok configuration) environment := by
  cases path with
  | none =>
    cases found
    rfl
  | some path =>
    have loads : Configuration.load environment.storage path = .ok configuration := found
    rw [run_configuration, loads]
    rfl

end Program

/-- What a watcher does with its handle. -/
def Watcher.stay {m : Type → Type} [Observer m] (configuration : Configuration)
    (handshake : Handshake) (rounds : Nat) (handle : Handle) : Program m Unit := do
  Program.step (reportOwner handle)
  Program.step (follow handle handshake configuration.heartbeatInterval rounds rounds)
  let _ ← Program.step handle.close
  throw ⟨s!"owner of {configuration.place} is no longer active", []⟩

/-- A watcher that attaches goes on with its handle. -/
theorem Watcher.run_of_attached {path : Option String} {configuration : Configuration}
    {version : SemanticVersion} {handshake : Handshake} {rounds : Nat}
    {environment after : Environment} {handle : Handle}
    (found : configuration.FoundAt environment.storage path)
    (terms : configuration.terms = .ok (version, handshake))
    (attached : (handshake.openExisting configuration.directory configuration.filename rounds :
      Activity Handle).run environment = .returned handle after) :
    Activity.run (Watcher.run path rounds : Program Activity Unit).run environment =
      Activity.run (stay configuration handshake rounds handle : Program Activity Unit).run
        after := by
  have opened : Activity.run (Program.stepOf "no live owner to watch"
      (handshake.openExisting configuration.directory configuration.filename rounds) :
        Program Activity Handle).run environment = .returned (.ok handle) after := by
    rw [Program.run_stepOf, attached]
    rfl
  unfold Watcher.run
  rw [Program.run_bind_of_ok environment (Program.run_configuration_of_foundAt found), terms]
  exact Program.run_bind_of_ok environment opened

namespace Owner

/-- A watcher that comes after an owner attaches at once.

The owner got through its start with a version other than 0.0.0, has written any number of
heartbeats, and may write more of them at the watcher's one reading of the clock.  The watcher
finds the same configuration.  Whatever the timeout is, the attachment reads the clock for its
deadline and not again, so each of its waits is over with the first probe, and gives a handle on the
owner's region, with which the watcher goes on. -/
theorem watcher_attaches_at_once {path : Option String} {process : Int64} {rounds beats : Nat}
    {start published running : Environment} {owner : Owner} (positive : start.clock.Positive)
    (started : (Owner.start path process rounds).value? start = some (owner, published))
    (kept : (owner.keepBeating beats).value? published = some ((), running))
    (marked : SemanticVersion.read owner.configuration.protocolVersion ≠ .ok ⟨0, 0, 0⟩)
    {environment : Environment} (storage : environment.storage = running.storage)
    (routine : ∀ act ∈ environment.clock.script (environment.clock.reads + 1), owner.Routine act)
    {path' : Option String} (found : owner.configuration.FoundAt environment.storage path')
    {rounds' : Nat} (granted : rounds' ≠ 0) :
    ∃ version handshake handle after,
      owner.configuration.terms = .ok (version, handshake) ∧
      (handshake.openExisting owner.configuration.directory owner.configuration.filename rounds' :
        Activity Handle).run environment = .returned handle after ∧
      after.world = environment.world.tick ∧ handle.region = owner.handle.region ∧
      Activity.run (Watcher.run path' rounds' : Program Activity Unit).run environment =
        Activity.run (Watcher.stay owner.configuration handshake rounds' handle :
          Program Activity Unit).run after := by
  obtain ⟨version, handshake, fields, terms, lives⟩ :=
    (reaches_start positive path process rounds).of_value? started
  have lives := (lives.keepBeating beats).of_value? kept
  obtain ⟨read, check⟩ := Configuration.terms_eq_ok terms
  have shown : owner.Shown handshake fields version.pack environment.world.tick.storage := by
    have acts : environment.world.tick.storage = running.storage.afterActs
        (environment.clock.script (environment.clock.reads + 1)) := by
      rw [← storage]
      exact Act.performAll_storage _ _ _
    rw [acts]
    exact lives.shown.afterActs routine
  obtain ⟨object, file⟩ := shown.places.file
  have unequal : version.pack ≠ 0 := fun zero =>
    marked (read.trans (congrArg _ (SemanticVersion.pack_eq_zero_iff.1 zero)))
  obtain ⟨after, attached, moved⟩ := Handshake.run_openExisting_of_shown file shown.places.fit
    granted environment shown.places.inPlace (by rwa [shown.published])
    (by rw [shown.published, check, VersionCheck.sameMajor_pack]) shown.beating
  refine ⟨version, handshake, _, after, terms, attached, moved, ?_,
    Watcher.run_of_attached found terms attached⟩
  exact (Handle.of_fields shown.places.fields).1.symm

/-- A watcher of an owner with the default configuration that wrote two more heartbeats. -/
theorem watcher_attaches_at_once_default :
    ∃ owner published running handle after,
      (Owner.start none 7 1).value? ⟨.ticking 100 0, .empty, []⟩ = some (owner, published) ∧
      (owner.keepBeating 2).value? published = some ((), running) ∧
      ∃ version handshake, owner.configuration.terms = .ok (version, handshake) ∧
        (handshake.openExisting owner.configuration.directory owner.configuration.filename 1 :
          Activity Handle).run ⟨.ticking 100 1, running.storage, []⟩ = .returned handle after ∧
        handle.region = owner.handle.region := by
  have ran : (do
      let begun ← (Owner.start none 7 1).value? ⟨.ticking 100 0, .empty, []⟩
      let _ ← (begun.1.keepBeating 2).value? begun.2
      some begun.1.configuration) = some .default := by decide +kernel
  obtain ⟨⟨owner, published⟩, started, ran⟩ := Option.bind_eq_some_iff.1 ran
  obtain ⟨⟨_, running⟩, kept, configuration⟩ := Option.bind_eq_some_iff.1 ran
  have default : owner.configuration = .default := Option.some.inj configuration
  have marked : SemanticVersion.read owner.configuration.protocolVersion ≠ .ok ⟨0, 0, 0⟩ := by
    rw [default]
    exact fun same => absurd (congrArg Except.toOption same) (by decide +kernel)
  obtain ⟨version, handshake, handle, after, terms, attached, _, same, _⟩ :=
    @watcher_attaches_at_once none 7 1 2 _ published running owner
      (Clock.positive_standing (by decide)) started kept marked
      ⟨.ticking 100 1, running.storage, []⟩ rfl
      (fun _ listed => absurd listed List.not_mem_nil) none default 1 (by decide)
  exact ⟨owner, published, running, handle, after, started, kept, version, handshake, terms,
    attached, same⟩

/-- A storage with a configuration that asks for version 0.0.0 and a timeout of -1 ms. -/
def unmarked : Storage :=
  (FileChange.perform (.overwrite "/vigil.toml" 0
    "protocol_version = \"0.0.0\"\ntimeout_ms = -1\n".toUTF8.toList) .empty).2

/-- An owner with version 0.0.0 gets through its start, and its watcher finds no version. -/
theorem watcher_misses_unmarked :
    ∃ owner published version handshake after,
      (Clock.ticking 100 0).Positive ∧
      (Owner.start (some "/vigil.toml") 7 1).value? ⟨.ticking 100 0, unmarked, []⟩ =
        some (owner, published) ∧
      owner.configuration.FoundAt published.storage (some "/vigil.toml") ∧
      owner.configuration.terms = .ok (version, handshake) ∧
      (handshake.openExisting owner.configuration.directory owner.configuration.filename 1 :
        Activity Handle).run published = .failed (.refused .notInitialized) after := by
  have ran : (do
      let begun ← (Owner.start (some "/vigil.toml") 7 1).value? ⟨.ticking 100 0, unmarked, []⟩
      let found ← (Configuration.load begun.2.storage "/vigil.toml").toOption
      let terms ← found.terms.toOption
      some (decide (found = begun.1.configuration ∧
        ((terms.2.openExisting found.directory found.filename 1 : Activity Handle).run
          begun.2).Ensures (fun _ _ => False)
            (fun failure _ => failure = .refused .notInitialized) False))) = some true := by
    decide +kernel
  obtain ⟨⟨owner, published⟩, started, ran⟩ := Option.bind_eq_some_iff.1 ran
  obtain ⟨configuration, found, ran⟩ := Option.bind_eq_some_iff.1 ran
  obtain ⟨⟨version, handshake⟩, terms, ran⟩ := Option.bind_eq_some_iff.1 ran
  obtain ⟨rfl, missed⟩ := of_decide_eq_true (Option.some.inj ran)
  have settled {ε α : Type} {result : Except ε α} {value : α}
      (settles : result.toOption = some value) : result = .ok value := by
    cases result with
    | ok _ => exact congrArg Except.ok (Option.some.inj settles)
    | error _ => cases settles
  obtain ⟨_, after, missed, rfl⟩ := missed.of_failed
  exact ⟨owner, published, version, handshake, after, Clock.positive_standing (by decide), started,
    settled found, settled terms, missed⟩

end Owner

end Heartbeat
