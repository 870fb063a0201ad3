import Heartbeat.Scratch
import Heartbeat.Takeover
import Heartbeat.Proofs.Decision
import Heartbeat.Proofs.Resolution

/-!
# What stands between a directory and its deletion

An owner that starts from scratch deletes the directory that it finds, but not before the file in it
was found to have no live owner.  A file has a say in this only if it has room for the control
fields and the system lets them be mapped (`Storage.ShowsFields`): then the test answers what the
liveness decision answers on a mapping of the whole file (`run_protectLiveOwner_of_fields`),
although it maps nothing but the control span.  Any other file, and no file at all, is passed over
without a look at the clock (`run_protectLiveOwner_of_no_fields`).

`Handshake.recreate` is what is left to do when nothing objects.  It begins with the deletion, and
no step before it changes a file, so a creation that is refused leaves everything as it was
(`Handshake.createInDirectory_deletes_only_inactive`).
-/

set_option autoImplicit false

namespace Heartbeat

/-- The system lets the control fields of a file be mapped, and nothing but them. -/
def System.GrantsFields (system : System) (path : String) (layout : Layout) (object : ObjectId) :
    Prop :=
  system.Grants (.opening path) ∧
    system.Grants (.span object layout.versionOffset
      (layout.timestampOffset + timestampSize - layout.versionOffset))

theorem System.grantsFields_generous (path : String) (layout : Layout) (object : ObjectId) :
    generous.GrantsFields path layout object := ⟨rfl, rfl⟩

namespace Storage

variable {storage : Storage} {path : String} {object : ObjectId}

/-- A file that can be opened exists. -/
theorem pathExists_of_openFile (opened : storage.openFile path = .ok object) :
    storage.pathExists path = true := by
  obtain ⟨location, located⟩ := openFile_eq_ok_iff_locate.1 opened
  rw [pathExists, located]
  rfl

/-- There is a file at a path, and it has room for the control fields. -/
def HasFields (storage : Storage) (path : String) (layout : Layout) (object : ObjectId) : Prop :=
  storage.openFile path = .ok object ∧
    layout.timestampOffset + timestampSize ≤ (storage.content object).size

/-- There is a file at a path with room for the control fields, and they can be mapped. -/
structure ShowsFields (storage : Storage) (path : String) (layout : Layout) (object : ObjectId) :
    Prop where
  /-- The file has room for them. -/
  has : storage.HasFields path layout object
  /-- The system allows it. -/
  grants : storage.system.GrantsFields path layout object

variable {layout : Layout} (representable : layout.Representable)

include representable

/-- What mapping the control span of a file comes to once it may be opened. -/
theorem mapSpan_controlSpan (opens : storage.system.Grants (.opening path)) :
    storage.mapSpan path layout.versionOffset
        (layout.timestampOffset + timestampSize - layout.versionOffset) =
      .ok (match storage.openFile path with
        | .error cause => .error cause
        | .ok object =>
          if (storage.content object).size < layout.timestampOffset + timestampSize then
            .error (.spanPastEnd (storage.content object).size
              (layout.timestampOffset + timestampSize))
          else
            match storage.system.answer (.span object layout.versionOffset
              (layout.timestampOffset + timestampSize - layout.versionOffset)) with
            | .error cause => .error cause
            | .ok () => .ok (ControlFields.ofSpan layout object).region) := by
  have ordered := layout.ordered
  have nonempty : ¬ layout.timestampOffset + timestampSize - layout.versionOffset = 0 := by
    simp only [timestampSize]
    omega
  have sum : checkedSum layout.versionOffset
      (layout.timestampOffset + timestampSize - layout.versionOffset) =
        .ok (layout.timestampOffset + timestampSize) := by
    rw [checkedSum, Nat.add_sub_cancel' (by omega)]
    exact if_pos representable
  unfold mapSpan
  rw [if_neg nonempty, System.answer_of_grants opens]
  cases storage.openFile path with
  | error cause => rfl
  | ok object =>
    simp only [sum]
    split
    · rfl
    · cases storage.system.answer _ <;> rfl

/-- Mapping the control span succeeds on a file whose control fields can be mapped. -/
theorem mapSpan_of_shows (shows : storage.ShowsFields path layout object) :
    storage.mapSpan path layout.versionOffset
        (layout.timestampOffset + timestampSize - layout.versionOffset) =
      .ok (.ok (ControlFields.ofSpan layout object).region) := by
  obtain ⟨⟨opened, room⟩, opens, maps⟩ := shows
  rw [mapSpan_controlSpan representable opens, opened]
  simp only [if_neg (Nat.not_lt.2 room), System.answer_of_grants maps]

/-- Mapping the control span fails on any other file, and where there is none. -/
theorem mapSpan_of_not_shows (lacks : ∀ object, ¬ storage.ShowsFields path layout object) :
    ∃ cause, storage.mapSpan path layout.versionOffset
      (layout.timestampOffset + timestampSize - layout.versionOffset) = .ok (.error cause) := by
  by_cases opens : storage.system.Grants (.opening path)
  · rw [mapSpan_controlSpan representable opens]
    cases opened : storage.openFile path with
    | error cause => exact ⟨cause, rfl⟩
    | ok object =>
      by_cases short : (storage.content object).size < layout.timestampOffset + timestampSize
      · exact ⟨_, congrArg Except.ok (if_pos short)⟩
      · obtain ⟨refusal, refused⟩ := System.answer_of_not_grants fun maps =>
          lacks object ⟨⟨opened, Nat.not_lt.1 short⟩, opens, maps⟩
        simp only [if_neg short, refused]
        exact ⟨_, rfl⟩
  · obtain ⟨refusal, refused⟩ := System.answer_of_not_grants opens
    have ordered := layout.ordered
    refine ⟨.turnedDown refusal, ?_⟩
    unfold mapSpan
    rw [if_neg (by simp only [timestampSize]; omega), refused]

end Storage

namespace Handshake

variable {handshake : Handshake} {environment : Environment} {directory filename path : String}
  {object : ObjectId}

section Mapping

variable (representable : handshake.layout.Representable)
include representable

/-- The control fields of an existing path are mapped after a message. -/
theorem run_mapControlFields_of_pathExists
    (present : environment.storage.pathExists path = true) :
    ∃ reports, (handshake.mapControlFields path : Activity (Option Region)).run environment =
      match environment.storage.mapSpan path handshake.layout.versionOffset
        (handshake.layout.timestampOffset + timestampSize - handshake.layout.versionOffset) with
      | .error fault => .failed (.fault fault) (environment.reporting reports)
      | .ok mapped => .returned mapped.toOption (environment.reporting reports) := by
  have exists' : (Observer.look fun storage => .ok (storage.pathExists path) :
      Activity Bool).run environment = .returned true environment := by
    rw [Activity.run_look, present]
    rfl
  obtain ⟨messages, logged⟩ :=
    Activity.run_log environment handshake s!"cnc file exists: {path}"
  have span : (Observer.ofExcept (Failure.ofFault handshake.layout.controlSpan) :
      Activity (Nat × Nat)).run (environment.reporting messages) =
        .returned (handshake.layout.versionOffset,
          handshake.layout.timestampOffset + timestampSize - handshake.layout.versionOffset)
          (environment.reporting messages) := by
    rw [Activity.run_ofExcept, Layout.controlSpan_eq_ok representable]
    rfl
  unfold mapControlFields
  rw [Activity.run_bind_of_returned _ exists', if_pos rfl, Activity.run_bind_of_returned _ logged,
    Activity.run_bind_of_returned _ span]
  simp only [Activity.run_bind, Activity.run_look, Environment.storage_reporting]
  cases environment.storage.mapSpan path handshake.layout.versionOffset
    (handshake.layout.timestampOffset + timestampSize - handshake.layout.versionOffset) with
  | error fault => exact ⟨messages, rfl⟩
  | ok mapped =>
    cases mapped with
    | ok region => exact ⟨messages, rfl⟩
    | error cause =>
      refine ⟨?reports, ?run⟩
      case run =>
        simp only [Failure.ofFault, Outcome.ofExcept_ok]
        rw [Activity.run_bind_of_returned _ (Activity.run_report _ _),
          Environment.reporting_reporting]
        rfl

/-- Control fields that can be mapped are mapped. -/
theorem run_mapControlFields_of_fields
    (shows : environment.storage.ShowsFields path handshake.layout object) :
    ∃ reports, (handshake.mapControlFields path : Activity (Option Region)).run environment =
      .returned (some (ControlFields.ofSpan handshake.layout object).region)
        (environment.reporting reports) := by
  obtain ⟨reports, mapped⟩ := run_mapControlFields_of_pathExists representable
    (Storage.pathExists_of_openFile shows.has.1)
  refine ⟨reports, mapped.trans ?_⟩
  rw [Storage.mapSpan_of_shows representable shows]
  rfl

/-- Nothing is mapped if there is no file whose control fields can be mapped. -/
theorem run_mapControlFields_of_no_fields
    (lacks : ∀ object, ¬ environment.storage.ShowsFields path handshake.layout object) :
    ∃ reports, (handshake.mapControlFields path : Activity (Option Region)).run environment =
      .returned none (environment.reporting reports) := by
  by_cases present : environment.storage.pathExists path = true
  · obtain ⟨reports, mapped⟩ := run_mapControlFields_of_pathExists representable present
    obtain ⟨cause, unmapped⟩ := Storage.mapSpan_of_not_shows representable lacks
    refine ⟨reports, mapped.trans ?_⟩
    rw [unmapped]
    rfl
  · have missing : (Observer.look fun storage => .ok (storage.pathExists path) :
        Activity Bool).run environment = .returned false environment := by
      rw [Activity.run_look, Bool.eq_false_iff.2 present]
      rfl
    refine ⟨[], ?_⟩
    unfold mapControlFields
    rw [Activity.run_bind_of_returned _ missing, Environment.reporting_nil]
    rfl

end Mapping

/-! ## The test before a deletion -/

section Guarding

variable (representable : handshake.layout.Representable)
include representable

/-- Without a file whose control fields can be mapped there is no owner to protect. -/
theorem run_protectLiveOwner_of_no_fields (rounds : Nat)
    (lacks : ∀ object,
      ¬ environment.storage.ShowsFields (Path.join directory filename) handshake.layout object) :
    ∃ reports, (handshake.protectLiveOwner directory filename rounds :
        Activity Unit).run environment =
      .returned () (environment.reporting reports) := by
  obtain ⟨reports, unmapped⟩ := run_mapControlFields_of_no_fields representable lacks
  refine ⟨reports, ?_⟩
  unfold protectLiveOwner
  rw [Activity.run_bind_of_returned _ unmapped]
  rfl

variable (versionAligned : handshake.layout.versionOffset % versionSize = 0)
  (timestampAligned : handshake.layout.timestampOffset % timestampSize = 0)
include versionAligned timestampAligned

/-- The decision on a mapping of a whole file that has room for the control fields is the decision
on its control span. -/
theorem run_isActive_whole (object : ObjectId) {length : Nat} (rounds : Nat)
    (room : handshake.layout.timestampOffset + timestampSize ≤ length)
    (environment : Environment) :
    (handshake.isActive (some (.mapping object 0 length)) rounds : Activity Bool).run environment =
      (handshake.isActiveOn (.ofSpan handshake.layout object) rounds : Activity Bool).run
        environment := by
  have fit := ControlFields.fit_ofFile representable versionAligned timestampAligned object room
  rw [run_isActive_of_fit fit, isActiveOn_congr
    (ControlFields.version_span representable versionAligned timestampAligned object room)
    (ControlFields.timestamp_span representable versionAligned timestampAligned object room)]
  rfl

/-- The test answers what the decision on a mapping of the whole file answers. -/
theorem run_protectLiveOwner_of_fields (rounds : Nat)
    (shows : environment.storage.ShowsFields (Path.join directory filename) handshake.layout
      object) :
    ∃ reports, (handshake.protectLiveOwner directory filename rounds :
        Activity Unit).run environment =
      match (handshake.isActive
        (some (.mapping object 0 (environment.storage.content object).size)) rounds :
          Activity Bool).run (environment.reporting reports) with
      | .returned true after =>
        .failed (.refused (.activeOwner (Path.join directory filename))) after
      | .returned false after => .returned () after
      | .failed failure after => .failed failure after
      | .pending => .pending := by
  obtain ⟨reports, mapped⟩ := run_mapControlFields_of_fields representable shows
  have fits : (requireFit handshake.layout.rebased
      (ControlFields.ofSpan handshake.layout object).region : Activity Unit).run
        (environment.reporting reports) = .returned () (environment.reporting reports) := by
    rw [requireFit, Activity.run_look, show handshake.layout.rebased.check _ = .ok () from
      ControlFields.fit_ofSpan representable versionAligned timestampAligned object]
    rfl
  refine ⟨reports, ?_⟩
  rw [run_isActive_whole representable versionAligned timestampAligned object rounds
    shows.has.2]
  unfold protectLiveOwner
  rw [Activity.run_bind_of_returned _ mapped]
  simp only
  have span : (⟨(ControlFields.ofSpan handshake.layout object).region, handshake.layout.rebased⟩ :
      ControlFields) = .ofSpan handshake.layout object := rfl
  rw [Activity.run_bind_of_returned _ fits, Activity.run_bind, span]
  cases (handshake.isActiveOn (.ofSpan handshake.layout object) rounds : Activity Bool).run
      (environment.reporting reports) with
  | returned active after => cases active <;> rfl
  | failed failure after => rfl
  | pending => rfl

end Guarding

/-! ## Creation in a directory -/

/-- The creation of a file in a directory that nothing protects: the directory goes, and comes back
with the new file in it. -/
def recreate (handshake : Handshake) (directory filename : String) (length : Nat) :
    Activity Handle := do
  deleteDirectory directory false
  makeDirectory directory
  handshake.createFile directory filename length

/-- The test of the length and of the alignment comes before everything else. -/
theorem run_createInDirectory_of_unfit {length : Nat} {failure : Failure}
    (unfit : handshake.layout.checkMappedLength length = .error failure) (force : Bool)
    (rounds : Nat) :
    (handshake.createInDirectory directory filename length force rounds : Activity Handle).run
      environment = .failed failure environment := by
  unfold createInDirectory
  apply Activity.run_bind_of_failed _
  rw [Activity.run_ofExcept, unfit]
  rfl

/-- The message about a directory that is there already. -/
theorem run_directoryWarning (handshake : Handshake) (directory : String)
    (environment : Environment) {α : Type} (next : Activity α) :
    ∃ reports, (if handshake.warnsOfDirectory = true then do
        Observer.report (.event .warn "cnc directory already exists"
          [("directory", .text directory)])
        handshake.log s!"WARNING: {directory} already exists"
        next
      else next : Activity α).run environment = next.run (environment.reporting reports) := by
  split
  · obtain ⟨messages, logged⟩ := Activity.run_log
      (environment.reporting [.event .warn "cnc directory already exists"
        [("directory", .text directory)]]) handshake s!"WARNING: {directory} already exists"
    refine ⟨?reports, ?run⟩
    case run =>
      rw [Activity.run_bind_of_returned _ (Activity.run_report _ _),
        Activity.run_bind_of_returned _ logged, Environment.reporting_reporting]
  · exact ⟨[], by rw [Environment.reporting_nil]⟩

/-- In a directory that is there, everything depends on the test before the deletion. -/
theorem run_createInDirectory_of_directory {length : Nat}
    (fits : handshake.layout.checkMappedLength length = .ok ())
    (there : environment.storage.isDirectory directory = true) (filename : String)
    (rounds : Nat) :
    ∃ reports, (handshake.createInDirectory directory filename length false rounds :
        Activity Handle).run environment =
      (handshake.protectLiveOwner directory filename rounds >>= fun _ =>
        handshake.recreate directory filename length).run (environment.reporting reports) := by
  have tested : (Observer.ofExcept (handshake.layout.checkMappedLength length) :
      Activity Unit).run environment = .returned () environment := by
    rw [Activity.run_ofExcept, fits]
    rfl
  have found : (Observer.look fun storage => .ok (storage.isDirectory directory) :
      Activity Bool).run environment = .returned true environment := by
    rw [Activity.run_look, there]
    rfl
  obtain ⟨reports, warned⟩ := run_directoryWarning handshake directory environment
    (handshake.protectLiveOwner directory filename rounds >>= fun _ => do
      deleteDirectory directory false
      makeDirectory directory : Activity Unit)
  have prepared : (handshake.prepareDirectory directory filename false rounds :
      Activity Unit).run environment =
        (handshake.protectLiveOwner directory filename rounds >>= fun _ => do
          deleteDirectory directory false
          makeDirectory directory : Activity Unit).run (environment.reporting reports) := by
    unfold prepareDirectory
    simp only [Bool.not_false, if_true]
    rw [Activity.run_bind_of_returned _ found]
    exact warned
  refine ⟨reports, ?_⟩
  unfold createInDirectory
  rw [Activity.run_bind_of_returned _ tested, Activity.run_bind_congr _ prepared,
    Activity.run_bind_assoc, Activity.run_bind, Activity.run_bind]
  cases (handshake.protectLiveOwner directory filename rounds : Activity Unit).run
      (environment.reporting reports) with
  | returned value after => exact Activity.run_bind_assoc after _ _ _
  | failed failure after => rfl
  | pending => rfl

/-- Creation in the directory of a file whose control fields can be mapped goes by the decision on a
mapping of the file. -/
theorem run_createInDirectory_of_fields {length : Nat}
    (fits : handshake.layout.checkMappedLength length = .ok ())
    (there : environment.storage.isDirectory directory = true)
    (shows : environment.storage.ShowsFields (Path.join directory filename) handshake.layout object)
    (rounds : Nat) :
    ∃ reports, (handshake.createInDirectory directory filename length false rounds :
        Activity Handle).run environment =
      match (handshake.isActive
        (some (.mapping object 0 (environment.storage.content object).size)) rounds :
          Activity Bool).run (environment.reporting reports) with
      | .returned true after =>
        .failed (.refused (.activeOwner (Path.join directory filename))) after
      | .returned false after => (handshake.recreate directory filename length).run after
      | .failed failure after => .failed failure after
      | .pending => .pending := by
  obtain ⟨representable, _, versionAligned, timestampAligned⟩ :=
    Layout.checkMappedLength_eq_ok_iff.1 fits
  obtain ⟨before, begun⟩ := run_createInDirectory_of_directory fits there filename rounds
  have still : (environment.reporting before).storage.ShowsFields (Path.join directory filename)
      handshake.layout object := shows
  obtain ⟨reports, tested⟩ := run_protectLiveOwner_of_fields representable versionAligned
    timestampAligned rounds still
  refine ⟨before ++ reports, ?_⟩
  rw [begun, Activity.run_bind, tested, Environment.reporting_reporting,
    Environment.storage_reporting]
  cases (handshake.isActive
      (some (.mapping object 0 (environment.storage.content object).size)) rounds :
        Activity Bool).run (environment.reporting (before ++ reports)) with
  | returned active after => cases active <;> rfl
  | failed failure after => rfl
  | pending => rfl

/-- Creation in a directory that is there deletes only what was found to be inactive.

A length or an alignment that will not do is refused at once.  Otherwise a file whose control fields
can be mapped is given the liveness decision: a live owner, or a decision that fails, ends the
creation where the decision ended, with nothing done to the files but what others did at the
readings of the clock.  Only an owner that is found dead is no obstacle, nor is a file without room
for the fields, one that the system does not let be mapped, or no file at all, on which the clock is
not even read. -/
theorem createInDirectory_deletes_only_inactive (representable : handshake.layout.Representable)
    (there : environment.storage.isDirectory directory = true) (length rounds : Nat) :
    let creation := (handshake.createInDirectory directory filename length false rounds :
      Activity Handle).run environment
    (∀ failure, handshake.layout.checkMappedLength length = .error failure →
      (failure = .refused (.regionTooSmall length
          (handshake.layout.timestampOffset + timestampSize)) ∨
        failure = .refused (.misaligned "version" handshake.layout.versionOffset versionSize) ∨
        failure =
          .refused (.misaligned "timestamp" handshake.layout.timestampOffset timestampSize)) ∧
      creation = .failed failure environment) ∧
    (handshake.layout.checkMappedLength length = .ok () →
      (∀ object, ¬ environment.storage.ShowsFields (Path.join directory filename)
        handshake.layout object) →
      ∃ reports, creation =
        (handshake.recreate directory filename length).run (environment.reporting reports)) ∧
    (handshake.layout.checkMappedLength length = .ok () →
      ∀ object, environment.storage.ShowsFields (Path.join directory filename)
        handshake.layout object →
      ∃ reports,
        let decision := (handshake.isActive
          (some (.mapping object 0 (environment.storage.content object).size)) rounds :
            Activity Bool).run (environment.reporting reports)
        (∀ after, decision = .returned true after →
          creation = .failed (.refused (.activeOwner (Path.join directory filename))) after ∧
            ∃ readings, after.world = environment.world.ticks readings) ∧
        (∀ failure after, decision = .failed failure after →
          (failure = .refused .notInitialized ∨ failure = .refused .noHeartbeat ∨
            ∃ version refusal, version ≠ 0 ∧ handshake.check version = .error refusal ∧
              failure = .refused refusal) ∧
          creation = .failed failure after ∧
            ∃ readings, after.world = environment.world.ticks readings) ∧
        (∀ after, decision = .returned false after →
          creation = (handshake.recreate directory filename length).run after ∧
            ∃ readings, after.world = environment.world.ticks readings) ∧
        (decision = .pending → creation = .pending)) := by
  refine ⟨fun failure unfit => ⟨?_, run_createInDirectory_of_unfit unfit false rounds⟩,
    ?_, ?_⟩
  · rcases Layout.checkMappedLength_eq_error representable unfit with
      ⟨_, short⟩ | ⟨_, ⟨_, version⟩ | ⟨_, _, timestamp⟩⟩
    · exact .inl short
    · exact .inr (.inl version)
    · exact .inr (.inr timestamp)
  · intro fits lacks
    obtain ⟨before, begun⟩ := run_createInDirectory_of_directory fits there filename rounds
    have still : ∀ object, ¬ (environment.reporting before).storage.ShowsFields
        (Path.join directory filename) handshake.layout object := lacks
    obtain ⟨reports, unprotected⟩ :=
      run_protectLiveOwner_of_no_fields representable rounds still
    refine ⟨before ++ reports, ?_⟩
    rw [begun, Activity.run_bind_of_returned _ unprotected, Environment.reporting_reporting]
  · intro fits object shows
    obtain ⟨_, _, versionAligned, timestampAligned⟩ := Layout.checkMappedLength_eq_ok_iff.1 fits
    obtain ⟨reports, goes⟩ := run_createInDirectory_of_fields fits there shows rounds
    have fit := ControlFields.fit_ofFile representable versionAligned timestampAligned object
      shows.has.2
    refine ⟨reports, ?_⟩
    rw [goes]
    rcases run_isActive fit rounds (environment.reporting reports) with
      pending | ⟨answer, after, further, decides, ended⟩
    · rw [show _ = Outcome.pending from pending]
      exact ⟨nofun, nofun, nofun, fun _ => rfl⟩
    · obtain ⟨readings, moved⟩ := decides.ticks
      rw [show _ = Outcome.ofExcept answer _ from ended]
      cases answer with
      | error failure =>
        refine ⟨nofun, ?_, nofun, nofun⟩
        intro _ _ failed
        cases failed
        exact ⟨decides.refusal, rfl, readings, moved⟩
      | ok active =>
        cases active with
        | true =>
          refine ⟨?_, nofun, nofun, nofun⟩
          intro _ active
          cases active
          exact ⟨rfl, readings, moved⟩
        | false =>
          refine ⟨nofun, nofun, ?_, nofun⟩
          intro _ inactive
          cases inactive
          exact ⟨rfl, readings, moved⟩

end Handshake

/-! ## A directory with a live owner -/

/-- A storage in which an owner with version 1 has written its last heartbeat at 100 ms into the
file `/run/cnc`. -/
def Storage.owned : Storage :=
  ((FileChange.overwrite "/run/cnc" 0
    (StoredWord.toBytes (1 : Int32) ++ [0, 0, 0, 0] ++ StoredWord.toBytes (100 : Int64))).perform
      (Storage.empty.makeDirectories "/run").2).2

/-- Settings for that file with a timeout of 50 ms. -/
def Handshake.ofOwned : Handshake := { Scratch.usualSettings with timeout := 50 }

theorem Handshake.createInDirectory_deletes_only_inactive_owned :
    let environment : Environment := ⟨.ticking 120 1, .owned, []⟩
    (ofOwned.createInDirectory "/run" "cnc" 15 false 2 : Activity Handle).run environment =
      .failed (.refused (.regionTooSmall 15 16)) environment ∧
    (∃ reports, (ofOwned.createInDirectory "/run" "other" 16 false 2 : Activity Handle).run
        environment = (ofOwned.recreate "/run" "other" 16).run (environment.reporting reports)) ∧
    ∃ reports, ∀ after, (ofOwned.isActive
        (some (.mapping 0 0 (Storage.owned.content 0).size)) 2 : Activity Bool).run
          (environment.reporting reports) = .returned true after →
      (ofOwned.createInDirectory "/run" "cnc" 16 false 2 : Activity Handle).run environment =
        .failed (.refused (.activeOwner (Path.join "/run" "cnc"))) after := by
  intro environment
  have representable : ofOwned.layout.Representable := by decide
  have there : environment.storage.isDirectory "/run" = true := rfl
  have lacks : ∀ object, ¬ environment.storage.ShowsFields (Path.join "/run" "other")
      ofOwned.layout object := fun _ shows => nomatch shows.has.1
  have shows : environment.storage.ShowsFields (Path.join "/run" "cnc") ofOwned.layout 0 :=
    ⟨⟨rfl, by decide⟩, rfl, rfl⟩
  refine ⟨((createInDirectory_deletes_only_inactive representable there 15 2).1 _ rfl).2,
    (createInDirectory_deletes_only_inactive representable there 16 2).2.1 rfl lacks, ?_⟩
  obtain ⟨reports, refused, -⟩ :=
    (createInDirectory_deletes_only_inactive representable there 16 2).2.2 rfl 0 shows
  exact ⟨reports, fun after alive => (refused after alive).1⟩

end Heartbeat
