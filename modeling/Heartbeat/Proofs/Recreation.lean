import Heartbeat.Proofs.Placement
import Heartbeat.Proofs.Publication

/-!
# A second creation meets the first owner

An owner creates its file, announces versions and heartbeats through its handle, and later somebody
creates a file at the same place with the same layout.  As long as the last heartbeat is young for
the second one, it is refused, and the file is still the one that the first owner's handle has in
view (`Handshake.createInDirectory_spares_announced_owner`).

This rests on one path being meant by both: the first creation leaves its directory and its file
where the second one looks for them (`Handshake.Places`), announcements move neither
(`Handshake.Places.announceAll`), and the second creation finds both fields filled when it looks
for the first time (`Handshake.run_isActiveOn_of_shown`).  The empty path is the exception.  It
stands for the working directory in front of a file name, but it is not taken for a directory, so
nothing is looked at before the file is emptied (`Handshake.run_createInDirectory_unnamed`).
-/

set_option autoImplicit false

namespace Heartbeat

/-! ## What an owner announces -/

/-- What an owner announces through its handle. -/
inductive Announcement where
  /-- A version is published. -/
  | version (version : Int32)
  /-- A heartbeat is written. -/
  | heartbeat (time : Milliseconds)

/-- What an announcement leaves in the storage. -/
def Handle.announce (handle : Handle) (storage : Storage) : Announcement → Except Failure Storage
  | .version version => handle.signalReady storage version
  | .heartbeat time => handle.beat storage time

namespace Handshake.Places

variable {handshake : Handshake} {directory filename : String} {length : Nat} {handle : Handle}
  {fields : ControlFields} {before after : Storage}
  (places : handshake.Places directory filename length handle fields before)
include places

/-- An announcement moves nothing. -/
theorem announce {announcement : Announcement}
    (announced : handle.announce before announcement = .ok after) :
    handshake.Places directory filename length handle fields after := by
  cases announcement with
  | version version =>
    cases (Handle.signalReady_eq_ok places.fields places.fit before version).symm.trans announced
    exact places.put _ _
  | heartbeat time =>
    cases (Handle.beat_eq_ok places.fields places.fit before time).symm.trans announced
    exact places.put _ _

/-- Announcements move nothing. -/
theorem announceAll {announcements : List Announcement}
    (announced : announcements.foldlM handle.announce before = .ok after) :
    handshake.Places directory filename length handle fields after := by
  induction announcements generalizing before with
  | nil =>
    cases announced
    exact places
  | cons announcement announcements ih =>
    rw [List.foldlM_cons] at announced
    cases first : handle.announce before announcement with
    | error failure =>
      rw [first] at announced
      cases announced
    | ok between =>
      rw [first] at announced
      exact ih (places.announce first) announced

end Handshake.Places

/-! ## Files that stay the same -/

namespace Storage

/-- Two storages have the same directories and files, and the files have the same bytes. -/
structure SameFiles (before after : Storage) : Prop where
  /-- Every directory and every file keeps its place. -/
  tree : after.tree = before.tree
  /-- Relative paths start where they did. -/
  workingDirectory : after.workingDirectory = before.workingDirectory
  /-- Every file keeps its length. -/
  size : ∀ object ∈ before.tree.objects,
    (after.content object).size = (before.content object).size
  /-- Every file keeps its bytes. -/
  byte : ∀ object ∈ before.tree.objects, ∀ i,
    (after.content object).byte i = (before.content object).byte i

namespace SameFiles

theorem refl (storage : Storage) : SameFiles storage storage :=
  ⟨rfl, rfl, fun _ _ => rfl, fun _ _ _ => rfl⟩

variable {before after : Storage} (same : SameFiles before after)
include same

theorem namesKept : NamesKept before after :=
  ⟨same.workingDirectory, fun found => by rwa [same.tree]⟩

variable {path : String} {fields : ControlFields} (there : InPlace path fields before)
include there

theorem inPlace : InPlace path fields after where
  opened := openFile_of_namesKept same.namesKept there.opened
  size := (same.size _ (mem_objects_of_openFile there.opened)).trans there.size

/-- The bytes of a file that is in place are read as before. -/
theorem read (offset length : Nat) :
    (after.content fields.region.object).read offset length =
      (before.content fields.region.object).read offset length :=
  List.map_congr_left fun _ _ => same.byte _ (mem_objects_of_openFile there.opened) _

theorem versionIn : fields.versionIn after = fields.versionIn before :=
  congrArg StoredWord.ofBytes (same.read there _ _)

theorem timestampIn : fields.timestampIn after = fields.timestampIn before :=
  congrArg StoredWord.ofBytes (same.read there _ _)

end SameFiles

end Storage

/-! ## The second creation -/

namespace Handshake

variable {handshake later : Handshake} {directory filename : String}

/-- An owner whose version is accepted and whose heartbeat is young is found to be alive at once. -/
theorem run_isActive_of_young {region : Region}
    (fit : (⟨region, handshake.layout⟩ : ControlFields).Fit) {rounds : Nat} (granted : rounds ≠ 0)
    (environment : Environment) :
    let fields : ControlFields := ⟨region, handshake.layout⟩
    let seen := environment.world.tick
    fields.versionIn seen.storage ≠ 0 →
    handshake.check (fields.versionIn seen.storage) = .ok () →
    fields.timestampIn seen.storage ≠ 0 →
    heartbeatAge seen.shown (fields.timestampIn seen.storage) ≤ handshake.timeout →
    ∃ after, (handshake.isActive (some region) rounds : Activity Bool).run environment =
        .returned true after ∧ after.world = environment.world.ticks 2 := by
  intro fields seen published accepts beating young
  have decided := run_isActiveOn_of_shown fit handshake granted environment published beating
  have fresh : isFresh (heartbeatAge seen.shown (fields.timestampIn seen.storage))
      handshake.timeout = true := decide_eq_true young
  simp only [seen, fields] at accepts fresh
  simp only [accepts, fresh] at decided
  exact ⟨_, (run_isActive_of_fit fit rounds environment).trans decided, rfl⟩

/-- A second creation that finds a young heartbeat beside a version it accepts is refused, unless
its length is refused before. -/
theorem run_createInDirectory_of_announced {environment : Environment} {fields : ControlFields}
    (there : environment.storage.isDirectory directory = true)
    (inPlace : InPlace (Path.join directory filename) fields environment.storage)
    {object : ObjectId} {length : Nat} (file : fields = .ofFile later.layout object length)
    (grants : environment.storage.system.GrantsFields (Path.join directory filename) later.layout
      object)
    (fit : fields.Fit) (published : fields.versionIn environment.world.tick.storage ≠ 0)
    (accepts : later.check (fields.versionIn environment.world.tick.storage) = .ok ())
    (beating : fields.timestampIn environment.world.tick.storage ≠ 0)
    (young : heartbeatAge environment.world.tick.shown
      (fields.timestampIn environment.world.tick.storage) ≤ later.timeout)
    (length' : Nat) {rounds : Nat} (granted : rounds ≠ 0) :
    ∃ refusal readings after,
      (later.createInDirectory directory filename length' false rounds : Activity Handle).run
        environment = .failed (.refused refusal) after ∧
      after.world = environment.world.ticks readings ∧
      (later.layout.checkMappedLength length' = .ok () ∧
          refusal = .activeOwner (Path.join directory filename) ∨
        later.layout.checkMappedLength length' = .error (.refused refusal) ∧
          refusal.class? = some .configuration) := by
  subst file
  have room : later.layout.timestampOffset + timestampSize ≤ length :=
    (Layout.verify_eq_ok_iff.1 fit).2.1
  have shows : environment.storage.ShowsFields (Path.join directory filename) later.layout
      object := ⟨⟨inPlace.opened, inPlace.size.symm ▸ room⟩, grants⟩
  cases fits : later.layout.checkMappedLength length' with
  | error failure =>
    have representable : later.layout.Representable := (Layout.verify_eq_ok_iff.1 fit).1
    obtain ⟨refusal, rfl⟩ := Layout.unfit_is_refused representable fits
    exact ⟨refusal, 0, environment, run_createInDirectory_of_unfit fits false rounds, rfl,
      .inr ⟨rfl, Layout.class?_of_verify fits⟩⟩
  | ok =>
    obtain ⟨reports, goes⟩ := run_createInDirectory_of_fields fits there shows rounds
    have size : (environment.storage.content object).size = length := inPlace.size
    obtain ⟨after, active, moved⟩ := run_isActive_of_young fit granted
      (environment.reporting reports) published accepts beating young
    rw [size, active] at goes
    exact ⟨_, 2, after, goes, moved, .inl ⟨rfl, rfl⟩⟩

/-- In a directory with a path, a second creation never touches the file of a live owner.

The first creation may delete whatever it finds and meet others at each reading of its clock.  The
owner then announces what it likes through its handle, in the end a version and a heartbeat that are
not zero, and nobody else changes a file.  Whoever comes with the same layout, may map the control
fields, accepts the version and finds the heartbeat young is refused for the length that it asks for
or for the owner, and every file is as the owner left it.  The path still leads to the file that the
handle has in view, in the length of the first creation. -/
theorem createInDirectory_spares_announced_owner (named : directory ≠ "") {length : Nat}
    {force : Bool} {rounds : Nat} {start made : Environment} {handle : Handle}
    (created : (handshake.createInDirectory directory filename length force rounds :
      Activity Handle).run start = .returned handle made)
    {announcements : List Announcement} {told : Storage}
    (announced : announcements.foldlM handle.announce made.storage = .ok told)
    {version : Int32} (published : handle.version told = .ok version) (initialized : version ≠ 0)
    {heartbeat : Milliseconds} (beaten : handle.timestamp told = .ok heartbeat)
    (beating : heartbeat ≠ 0) {environment : Environment}
    (undisturbed : ∀ readings, told.SameFiles (environment.world.ticks readings).storage)
    (grants : ∀ object,
      environment.storage.openFile (Path.join directory filename) = .ok object →
        environment.storage.system.GrantsFields (Path.join directory filename) later.layout object)
    (layout : later.layout = handshake.layout) (accepts : later.check version = .ok ())
    (young : heartbeatAge environment.world.tick.shown heartbeat ≤ later.timeout)
    (length' : Nat) {rounds' : Nat} (granted : rounds' ≠ 0) :
    ∃ refusal after region,
      (later.createInDirectory directory filename length' false rounds' : Activity Handle).run
        environment = .failed (.refused refusal) after ∧
      (later.layout.checkMappedLength length' = .ok () ∧
          refusal = .activeOwner (Path.join directory filename) ∨
        later.layout.checkMappedLength length' = .error (.refused refusal) ∧
          refusal.class? = some .configuration) ∧
      told.SameFiles after.storage ∧ handle.region = .ok region ∧
      after.storage.openFile (Path.join directory filename) = .ok region.object ∧
      (after.storage.content region.object).size = length := by
  obtain ⟨⟨fields, places⟩, _⟩ := (gives_createInDirectory force rounds start).of_eq created
  have places := places.announceAll announced
  obtain ⟨object, file⟩ := places.file
  -- What the handle shows is in the file, and the file is the same wherever the later one looks.
  obtain rfl := Except.ok.inj
    ((Handle.version_eq places.fields places.fit told).symm.trans published)
  obtain rfl := Except.ok.inj
    ((Handle.timestamp_eq places.fields places.fit told).symm.trans beaten)
  have version : fields.versionIn environment.world.tick.storage = fields.versionIn told :=
    (undisturbed 1).versionIn places.inPlace
  have heartbeat : fields.timestampIn environment.world.tick.storage = fields.timestampIn told :=
    (undisturbed 1).timestampIn places.inPlace
  have there : environment.storage.isDirectory directory = true :=
    Storage.isDirectory_of_namesKept (undisturbed 0).namesKept (places.directory named)
  have inPlace := (undisturbed 0).inPlace places.inPlace
  have viewed : fields.region.object = object := by
    rw [file]
    rfl
  have shown := grants object (viewed ▸ inPlace.opened)
  obtain ⟨refusal, readings, after, refused, moved, why⟩ := run_createInDirectory_of_announced
    there inPlace (file.trans (by rw [layout])) shown places.fit (by rwa [version])
    (by rwa [version]) (by rwa [heartbeat]) (by rwa [heartbeat]) length' granted
  have same : told.SameFiles after.storage := by
    rw [← Environment.storage_world, moved]
    exact undisturbed readings
  have still := same.inPlace places.inPlace
  refine ⟨refusal, after, fields.region, refused, why, same, (Handle.of_fields places.fields).1,
    still.opened, still.size.trans ?_⟩
  rw [file]
  rfl

/-- An owner in a new directory announces version 1 and a heartbeat at 100 ms.  Who wants the file
longer at 120 ms, at a timeout of 50 ms, is refused. -/
theorem createInDirectory_spares_announced_owner_run :
    ∃ handle made told refusal after,
      (ofOwned.createInDirectory "/run" "cnc" 16 false 1 : Activity Handle).run
        ⟨.ticking 100 1, .empty, []⟩ = .returned handle made ∧
      [Announcement.version 1, .heartbeat 100].foldlM handle.announce made.storage = .ok told ∧
      (ofOwned.createInDirectory "/run" "cnc" 32 false 1 : Activity Handle).run
        ⟨.ticking 120 1, told, []⟩ = .failed (.refused refusal) after ∧
      told.SameFiles after.storage := by
  have ran : ((ofOwned.createInDirectory "/run" "cnc" 16 false 1 : Activity Handle).run
      ⟨.ticking 100 1, .empty, []⟩).Ensures (fun handle made => ∃ told,
        [Announcement.version 1, .heartbeat 100].foldlM handle.announce made.storage = .ok told ∧
        handle.version told = .ok 1 ∧ handle.timestamp told = .ok 100 ∧
        told.system = .generous) (fun _ _ => False) False :=
    ⟨_, rfl, rfl, rfl, rfl⟩
  obtain ⟨handle, made, created, told, announced, published, beaten, generous⟩ := ran.of_returned
  have grants (object : ObjectId) :
      told.openFile (Path.join "/run" "cnc") = .ok object →
        told.system.GrantsFields (Path.join "/run" "cnc") ofOwned.layout object := by
    intro _
    rw [generous]
    exact System.grantsFields_generous ..
  have undisturbed (readings : Nat) :
      told.SameFiles (World.ticks ⟨.ticking 120 1, told⟩ readings).storage := by
    rw [World.storage_ticks_of_undisturbed (Clock.undisturbed_ticking 120 1)]
    exact .refl _
  have young : heartbeatAge (World.tick ⟨.ticking 120 1, told⟩).shown 100 ≤ ofOwned.timeout :=
    (by decide : heartbeatAge 121 100 ≤ ofOwned.timeout)
  obtain ⟨refusal, after, _, refused, _, same, _⟩ :=
    @createInDirectory_spares_announced_owner ofOwned ofOwned "/run" "cnc" (by decide) 16 false 1
      _ _ _ created _ _ announced 1 published (by decide) 100 beaten (by decide)
      ⟨.ticking 120 1, told, []⟩ undisturbed grants rfl rfl young 32 1 (by decide)
  exact ⟨handle, made, told, refusal, after, created, announced, refused, same⟩

/-! ## The directory without a path -/

section Unnamed

variable {environment : Environment} {length : Nat}
  (fits : handshake.layout.checkMappedLength length = .ok ())
include fits

/-- The empty path is not taken for a directory, so there is nothing to look at and to delete. -/
theorem run_createInDirectory_unnamed (force : Bool) (rounds : Nat) :
    (handshake.createInDirectory "" filename length force rounds : Activity Handle).run environment =
      (handshake.createFile "" filename length : Activity Handle).run environment := by
  have tested : (Observer.ofExcept (handshake.layout.checkMappedLength length) :
      Activity Unit).run environment = .returned () environment := by
    rw [Activity.run_ofExcept, fits]
    rfl
  have prepared : (handshake.prepareDirectory "" filename force rounds : Activity Unit).run
      environment = .returned () environment := rfl
  unfold createInDirectory
  rw [Activity.run_bind_of_returned _ tested, Activity.run_bind_of_returned _ prepared]

/-- Whatever a file in the working directory holds, a creation without a path for the directory
empties it, if the system lets it be opened, sized and mapped. -/
theorem createInDirectory_unnamed_empties {object : ObjectId}
    (opened : environment.storage.openFile filename = .ok object) (short : length ≤ longestFile)
    (opens : environment.storage.system.Grants (.making filename))
    (sizes : environment.storage.system.Grants (.sizing object length))
    (maps : environment.storage.system.Grants (.mapping object length))
    (force : Bool) (rounds : Nat) :
    ∃ handle after,
      (handshake.createInDirectory "" filename length force rounds : Activity Handle).run
        environment = .returned handle after ∧
      handle.region = .ok (.mapping object 0 length) ∧
      ∀ i, (after.storage.content object).byte i = 0 := by
  have positive : length ≠ 0 := by
    have room := (Layout.checkMappedLength_eq_ok_iff.1 fits).2.1
    simp only [timestampSize] at room
    omega
  have path : Path.join "" filename = filename := by simp [Path.join]
  have emptied : environment.storage.openEmptied filename =
      (.ok object, environment.storage.modify object (·.resize 0)) :=
    Storage.openEmptied_of_grants opens (Storage.openOrCreateFile_of_openFile opened)
  have mapped : (environment.storage.modify object (·.resize 0)).mapResized object length = _ :=
    Storage.mapResized_of_grants short sizes maps
  rw [run_createInDirectory_unnamed fits]
  unfold createFile
  rw [Activity.run_bind, Activity.run_work]
  simp only [if_neg positive, path, emptied, filesResult, Outcome.ofExcept_ok]
  rw [Activity.run_bind, Activity.run_work]
  simp only [Environment.storage_inside, mapped, Outcome.ofExcept_ok, Environment.inside_inside]
  rw [Activity.run_bind_of_returned _ (Activity.run_report _ _), Activity.run_ofExcept,
    Handle.ofView, ← Layout.checkMappedLength_eq_check, fits]
  refine ⟨_, _, rfl, rfl, fun i => ?_⟩
  have made := Storage.made_of_openFile opened
  have held : Storage.SameBut object environment.storage
      (environment.storage.modify object (·.resize 0)) := .modify _ _ made
  rw [Environment.storage_reporting, Environment.storage_inside,
    Storage.content_modify _ _ _ _ (held.made ▸ made), if_pos rfl, Content.byte_resize,
    Storage.content_modify _ _ _ _ made, if_pos rfl, Content.size_resize, Nat.zero_min,
    if_neg (Nat.not_lt_zero i)]

end Unnamed

/-- An owner that created its file in the working directory at 100 ms and announced version 1 and
that time loses it to somebody who comes at 120 ms with a timeout of 50 ms. -/
theorem createInDirectory_unnamed_clobbers :
    ∃ handle made told later left,
      (ofOwned.createInDirectory "" "cnc" 16 false 1 : Activity Handle).run
        ⟨.ticking 100 1, .empty, []⟩ = .returned handle made ∧
      [Announcement.version 1, .heartbeat 100].foldlM handle.announce made.storage = .ok told ∧
      handle.version told = .ok 1 ∧ handle.timestamp told = .ok 100 ∧
      ofOwned.check 1 = .ok () ∧
      heartbeatAge (World.tick ⟨.ticking 120 1, told⟩).shown 100 ≤ ofOwned.timeout ∧
      (ofOwned.createInDirectory "" "cnc" 16 false 1 : Activity Handle).run
        ⟨.ticking 120 1, told, []⟩ = .returned later left ∧
      handle.version left.storage = .ok 0 ∧ handle.timestamp left.storage = .ok 0 := by
  refine ⟨_, _, _, _, _, rfl, rfl, rfl, rfl, rfl, ?young, rfl, ?lost⟩
  case young => exact (by decide : heartbeatAge 121 100 ≤ ofOwned.timeout)
  case lost => exact ⟨rfl, rfl⟩

end Handshake

end Heartbeat
