import Heartbeat.Caller
import Heartbeat.Proofs.Opening
import Heartbeat.Proofs.Publication

/-!
# What a use of a handle does

A handle is a small machine: it is open until it is closed, and then it is closed for good.  It
keeps a mark of that beside the region that it has in view, and the two agree in every handle that
was ever made and used (`Handle.Marked`).  `ensures_activity_of_open` and
`ensures_activity_of_closed` say for each use of such a handle what it answers, which handle remains
and what it leaves in the storage.

A handle from a path is open, marks this, and has its region from a mapping of its own, and the
region can carry its layout (`Acquisition.gives_fresh`).
-/

set_option autoImplicit false

namespace Heartbeat

namespace Handle

/-- A handle is marked as closed exactly if it has no region in view. -/
def Marked (handle : Handle) : Prop := handle.closed = handle.view.isNone

/-! ## Uses of a handle -/

namespace Use

/-- What a use that succeeds stores in a region, if it stores anything. -/
def patch? (layout : Layout) : Use → Option Patch
  | publish version => some ⟨layout.versionOffset, StoredWord.toBytes version⟩
  | beat time => some ⟨layout.timestampOffset, StoredWord.toBytes time⟩
  | put offset bytes => some ⟨offset, bytes⟩
  | _ => none

/-- The handle that remains when a use has succeeded. -/
def next (handle : Handle) : Use → Handle
  | close => handle.shut
  | _ => handle

/-- Whether a use is an access to the region, so that it fails if there is none.  Whether the owner
is alive is answered without a region, too. -/
def Accesses : Use → Prop
  | publish _ | beat _ | readVersion | readTimestamp | buffer | put _ _ => True
  | _ => False

/-- What does not go to the region stores nothing in it. -/
theorem patch?_of_not_accesses {use : Use} (afar : ¬ use.Accesses) (layout : Layout) :
    use.patch? layout = none := by
  cases use with
  | publish _ | beat _ | put _ _ => exact absurd trivial afar
  | _ => rfl

/-- What a use of an open handle answers. -/
def Answers (fields : ControlFields) (storage : Storage) : Use → Reply → Prop
  | readVersion, reply => reply = .version (fields.versionIn storage)
  | readTimestamp, reply => reply = .timestamp (fields.timestampIn storage)
  | buffer, reply => reply = .region fields.region
  | isClosed, reply => reply = .answer false
  | _, _ => True

end Use

end Handle

/-- The storage with a patch in a region. -/
def Region.patched (region : Region) (storage : Storage) : Option Patch → Storage
  | none => storage
  | some patch => storage.modify region.object (·.write (region.start + patch.offset) patch.bytes)

/-- Bytes can be put wherever the region has room for them. -/
theorem Region.storeBytes_eq (region : Region) (storage : Storage) (offset : Nat)
    (bytes : List UInt8) :
    region.storeBytes storage offset bytes =
      if region.capacity < offset + bytes.length then
        .error (.outOfBounds bytes.length offset region.capacity)
      else .ok (region.patched storage (some ⟨offset, bytes⟩)) := by
  have aligned : region.alignedAt offset 1 = true := decide_eq_true (Nat.mod_one _)
  unfold storeBytes checkAccess
  rw [aligned]
  by_cases short : region.capacity < offset + bytes.length
  · rw [if_pos short, if_pos short]
  · rw [if_neg short, if_neg short]
    rfl

/-! ## Deleting a directory -/

/-- To remove a directory is to take names away. -/
theorem Storage.objects_removeTree (storage : Storage) (path : String) :
    (storage.removeTree path).2.objects = storage.objects := by
  have emptied (other : Storage) : (other.removeEmptied path).2.objects = other.objects := by
    unfold removeEmptied
    split <;> rfl
  unfold removeTree
  split
  · rfl
  · rfl
  · exact emptied _

/-! ## One use -/

namespace Handle

variable {handle : Handle} {fields : ControlFields} {environment : Environment}

theorem view_of_fields (on : handle.fields = .ok fields) :
    ∃ backing, handle.view = some ⟨fields.region, backing⟩ := by
  obtain ⟨given, -⟩ := of_fields on
  unfold region at given
  cases seen : handle.view with
  | none => simp only [seen, reduceCtorEq] at given
  | some view =>
    simp only [seen, Except.ok.injEq] at given
    exact ⟨view.backing, given ▸ rfl⟩

theorem fields_of_view {view : View} (seen : handle.view = some view) :
    handle.fields = .ok ⟨view.region, handle.layout⟩ := by
  unfold Handle.fields Handle.region
  rw [seen]

/-- An open handle decides on its own fields whether the owner is alive. -/
theorem isActive_of_fields (on : handle.fields = .ok fields) (handshake : Handshake)
    (rounds : Nat) : (handle.isActive handshake rounds : Activity Bool) =
      handshake.isActiveOn fields rounds := by
  obtain ⟨_, layout⟩ := of_fields on
  obtain ⟨_, seen⟩ := view_of_fields on
  unfold isActive
  rw [seen, layout]

/-- Whatever goes to the region of a closed handle is refused. -/
theorem refused_of_closed (closed : handle.view = none) :
    handle.region = .error (.refused .closed) ∧
      (∀ storage, handle.version storage = .error (.refused .closed)) ∧
      (∀ storage, handle.timestamp storage = .error (.refused .closed)) ∧
      (∀ storage version, handle.signalReady storage version = .error (.refused .closed)) ∧
      ∀ storage time, handle.beat storage time = .error (.refused .closed) := by
  have given : handle.region = .error (.refused .closed) := by
    unfold region
    rw [closed]
  have none : handle.fields = .error (.refused .closed) := by
    unfold fields
    rw [given]
  refine ⟨given, fun storage => ?_, fun storage => ?_, fun storage _ => ?_, fun storage _ => ?_⟩
  · rw [version, none]
  · rw [timestamp, none]
  · rw [signalReady, none]
  · rw [beat, none]

/-- A closed handle has no live owner, and that takes no look at the clock. -/
theorem run_isActive_of_closed (closed : handle.view = none) (handshake : Handshake) (rounds : Nat)
    (environment : Environment) :
    (handle.isActive handshake rounds : Activity Bool).run environment =
      .returned false environment := by
  unfold isActive
  rw [closed]
  rfl

/-- To close a handle that is marked as closed is to do nothing. -/
theorem run_close_of_closed (closed : handle.closed = true) (environment : Environment) :
    (handle.close : Activity Handle).run environment = .returned handle environment := by
  unfold close
  rw [closed]
  rfl

/-- To close any other handle leaves the world as it is, and the handle marked and without a
region. -/
theorem run_close_of_open (unshut : handle.closed = false) (environment : Environment) :
    ∃ reports, (handle.close : Activity Handle).run environment =
      .returned handle.shut (environment.reporting reports) := by
  have nothing : environment = environment.reporting [] := environment.reporting_nil.symm
  unfold close
  rw [unshut]
  cases handle.view with
  | none => exact ⟨[], congrArg _ nothing⟩
  | some view =>
    obtain ⟨region, backing⟩ := view
    cases backing with
    | owned => exact ⟨_, rfl⟩
    | shared | external => exact ⟨[], congrArg _ nothing⟩

namespace Marked

variable (marked : handle.Marked)
include marked

theorem closed_of_view (closed : handle.view = none) : handle.closed = true := by
  rw [marked, closed]
  rfl

theorem open_of_fields (on : handle.fields = .ok fields) : handle.closed = false := by
  obtain ⟨_, seen⟩ := view_of_fields on
  rw [marked, seen]
  rfl

/-- A handle without a region is what closing makes of it. -/
theorem shut_of_view (closed : handle.view = none) : handle.shut = handle := by
  have mark := marked.closed_of_view closed
  obtain ⟨_, _, _, _, _⟩ := handle
  cases closed
  cases mark
  rfl

/-- However often a handle is closed, it is marked and without a region then. -/
theorem run_close (environment : Environment) :
    ∃ reports, (handle.close : Activity Handle).run environment =
      .returned handle.shut (environment.reporting reports) := by
  cases mark : handle.closed with
  | false => exact run_close_of_open mark environment
  | true =>
    have closed : handle.view = none := Option.isNone_iff_eq_none.1 (marked.symm.trans mark)
    refine ⟨[], (run_close_of_closed mark environment).trans ?_⟩
    rw [marked.shut_of_view closed, Environment.reporting_nil]

end Marked

/-- A handle deletes the directory that it knows, if it knows one.  That takes no byte away, and is
refused only by the file system. -/
theorem ensures_deleteDirectory (handle : Handle) (ignoresFailures : Bool)
    (environment : Environment) :
    ((handle.deleteDirectory ignoresFailures : Activity Unit).run environment).Ensures
      (fun _ after => after.storage.objects = environment.storage.objects)
      (fun failure after => after.storage.objects = environment.storage.objects ∧ failure.OfFiles)
      False := by
  unfold Handle.deleteDirectory
  cases handle.directory with
  | none => rfl
  | some directory =>
    have kept {after : Environment} (left : after.world =
        ⟨environment.clock, (environment.storage.removeTree directory).2⟩) :
        after.storage.objects = environment.storage.objects :=
      (congrArg (fun world => world.storage.objects) left).trans
        (environment.storage.objects_removeTree directory)
    exact (Handshake.outcome_deleteDirectory ignoresFailures).imp
      (fun _ _ ensured => kept ensured.2) (fun _ _ failed => ⟨kept failed.2, failed.1⟩) id

/-- An open handle finds out whether the owner is alive by looking, and never fails with a fault. -/
theorem ensures_isActive (on : handle.fields = .ok fields) (fit : fields.Fit)
    (handshake : Handshake) (rounds : Nat) (environment : Environment) :
    ((handle.isActive handshake rounds : Activity Bool).run environment).Ensures
      (fun _ after => environment.clock.Undisturbed →
        after.storage.objects = environment.storage.objects)
      (fun failure after => (∀ fault, failure ≠ .fault fault) ∧
        (environment.clock.Undisturbed → after.storage.objects = environment.storage.objects))
      True := by
  rw [isActive_of_fields on]
  rcases handshake.run_isActiveOn fit rounds environment with
    ⟨pending, _⟩ | ⟨answer, after, reports, decides, ended⟩
  · rw [pending]
    trivial
  · obtain ⟨readings, rfl⟩ := decides.ticks
    have kept (quiet : environment.clock.Undisturbed) :
        (environment.world.ticks readings).storage.objects = environment.storage.objects :=
      congrArg Storage.objects (World.storage_ticks_of_undisturbed quiet readings)
    rw [ended]
    cases answer with
    | ok alive => exact kept
    | error failure =>
      refine ⟨?_, kept⟩
      rcases decides.refusal with rfl | rfl | ⟨_, _, _, _, rfl⟩ <;> exact nofun

namespace Use

/-- A use of an open handle that goes to the region is answered, and stores what it has to store,
unless it puts bytes past the end of the region. -/
theorem run_of_open (on : handle.fields = .ok fields) (fit : fields.Fit) {use : Use}
    (accesses : use.Accesses) (rounds : Nat) (environment : Environment) :
    (∃ reply, (use.activity rounds handle).run environment = .returned (reply, handle)
        (environment.inside ⟨environment.clock,
          fields.region.patched environment.storage (use.patch? fields.layout)⟩) ∧
      use.Answers fields environment.storage reply) ∨
    ∃ offset bytes fault, use = .put offset bytes ∧
      fields.region.capacity < offset + bytes.length ∧
      (use.activity rounds handle).run environment = .failed (.fault fault) environment := by
  obtain ⟨given, layout⟩ := of_fields on
  cases use with
  | publish version =>
    refine .inl ⟨.done, ?_, trivial⟩
    simp only [activity]
    rw [Activity.run_bind, Activity.run_change, signalReady_eq_ok on fit]
    rfl
  | beat time =>
    refine .inl ⟨.done, ?_, trivial⟩
    simp only [activity]
    rw [Activity.run_bind, Activity.run_change, beat_eq_ok on fit]
    rfl
  | readVersion =>
    refine .inl ⟨_, ?_, rfl⟩
    simp only [activity]
    rw [Activity.run_bind, Activity.run_look, version_eq on fit]
    rfl
  | readTimestamp =>
    refine .inl ⟨_, ?_, rfl⟩
    simp only [activity]
    rw [Activity.run_bind, Activity.run_look, timestamp_eq on fit]
    rfl
  | buffer =>
    refine .inl ⟨_, ?_, rfl⟩
    simp only [activity]
    rw [Activity.run_bind, Activity.run_ofExcept, given]
    rfl
  | put offset bytes =>
    have seen : (Observer.ofExcept handle.region : Activity Region).run environment =
        .returned fields.region environment := by
      rw [Activity.run_ofExcept, given]
      rfl
    simp only [activity]
    rw [Activity.run_bind_of_returned _ seen, Activity.run_bind, Activity.run_change,
      Region.storeBytes_eq]
    by_cases short : fields.region.capacity < offset + bytes.length
    · rw [if_pos short]
      exact .inr ⟨offset, bytes, _, rfl, short, rfl⟩
    · rw [if_neg short]
      exact .inl ⟨.done, rfl, trivial⟩
  | isActive _ | isClosed | close | deleteDirectory _ => exact accesses.elim

/-- What a use of an open handle answers and leaves.  It fails with a fault only if it puts bytes
past the end of the region. -/
theorem ensures_activity_of_open (marked : handle.Marked) (on : handle.fields = .ok fields)
    (fit : fields.Fit) (use : Use) (rounds : Nat) (environment : Environment) :
    ((use.activity rounds handle).run environment).Ensures
      (fun answer after => answer.2 = use.next handle ∧
        use.Answers fields environment.storage answer.1 ∧
        (environment.clock.Undisturbed → after.storage.objects =
          (fields.region.patched environment.storage (use.patch? fields.layout)).objects))
      (fun failure after =>
        (∀ fault, failure = .fault fault → ∃ offset bytes, use = .put offset bytes ∧
          fields.region.capacity < offset + bytes.length) ∧
        (environment.clock.Undisturbed → after.storage.objects = environment.storage.objects))
      True := by
  by_cases accesses : use.Accesses
  · rcases run_of_open on fit accesses rounds environment with
      ⟨reply, returns, answers⟩ | ⟨offset, bytes, fault, puts, past, fails⟩
    · have same : handle = use.next handle := by
        cases use <;> first | rfl | exact accesses.elim
      rw [returns]
      exact ⟨same, answers, fun _ => rfl⟩
    · rw [fails]
      exact ⟨fun _ _ => ⟨offset, bytes, puts, past⟩, fun _ => rfl⟩
  cases use with
  | publish _ | beat _ | readVersion | readTimestamp | buffer | put _ _ =>
    exact absurd trivial accesses
  | isActive handshake =>
    simp only [activity]
    refine .bind ((ensures_isActive on fit handshake rounds environment).imp ?_ ?_ id)
    · exact fun _ _ kept => ⟨rfl, trivial, kept⟩
    · exact fun failure _ ended =>
        ⟨fun fault faulty => absurd faulty (ended.1 fault), ended.2⟩
  | isClosed => exact ⟨rfl, congrArg Reply.answer (marked.open_of_fields on), fun _ => rfl⟩
  | close =>
    obtain ⟨reports, closes⟩ := marked.run_close environment
    simp only [activity]
    rw [Activity.run_bind_of_returned _ closes]
    exact ⟨rfl, trivial, fun _ => rfl⟩
  | deleteDirectory ignoresFailures =>
    refine .bind ((ensures_deleteDirectory handle ignoresFailures environment).imp ?_ ?_
      False.elim)
    · exact fun _ _ kept => ⟨rfl, trivial, fun _ => kept⟩
    · rintro failure after ⟨kept, _, _, _, rfl⟩
      exact ⟨nofun, fun _ => kept⟩

/-- A use of a closed handle that goes to the region is refused, and nothing happens. -/
theorem run_of_closed (closed : handle.view = none) {use : Use} (accesses : use.Accesses)
    (rounds : Nat) (environment : Environment) :
    (use.activity rounds handle).run environment = .failed (.refused .closed) environment := by
  obtain ⟨given, version, timestamp, publishes, beats⟩ := refused_of_closed closed
  cases use with
  | publish version =>
    simp only [activity]
    rw [Activity.run_bind, Activity.run_change, publishes]
  | beat time =>
    simp only [activity]
    rw [Activity.run_bind, Activity.run_change, beats]
  | readVersion =>
    simp only [activity]
    rw [Activity.run_bind, Activity.run_look, version]
    rfl
  | readTimestamp =>
    simp only [activity]
    rw [Activity.run_bind, Activity.run_look, timestamp]
    rfl
  | buffer | put _ _ =>
    simp only [activity]
    rw [Activity.run_bind, Activity.run_ofExcept, given]
    rfl
  | isActive _ | isClosed | close | deleteDirectory _ => exact accesses.elim

/-- What a use of a closed handle leaves.  The handle stays closed, no byte is touched, and if it
does not fail it has not gone to the region. -/
theorem ensures_activity_of_closed (marked : handle.Marked) (closed : handle.view = none)
    (use : Use) (rounds : Nat) (environment : Environment) :
    ((use.activity rounds handle).run environment).Ensures
      (fun answer after => answer.2 = handle ∧ ¬ use.Accesses ∧
        after.storage.objects = environment.storage.objects)
      (fun failure after => (∀ fault, failure ≠ .fault fault) ∧
        after.storage.objects = environment.storage.objects)
      False := by
  by_cases accesses : use.Accesses
  · rw [run_of_closed closed accesses]
    exact ⟨nofun, rfl⟩
  cases use with
  | publish _ | beat _ | readVersion | readTimestamp | buffer | put _ _ =>
    exact absurd trivial accesses
  | isActive handshake =>
    simp only [activity]
    rw [Activity.run_bind, run_isActive_of_closed closed]
    exact ⟨rfl, id, rfl⟩
  | isClosed => exact ⟨rfl, id, rfl⟩
  | close =>
    simp only [activity]
    rw [Activity.run_bind, run_close_of_closed (marked.closed_of_view closed)]
    exact ⟨rfl, id, rfl⟩
  | deleteDirectory ignoresFailures =>
    refine .bind ((ensures_deleteDirectory handle ignoresFailures environment).imp ?_ ?_
      id)
    · exact fun _ _ kept => ⟨rfl, id, kept⟩
    · rintro failure after ⟨kept, _, _, _, rfl⟩
      exact ⟨nofun, kept⟩

end Use

/-! ## Handles that were just made -/

/-- A handle that was just made: it is open, marks this, and its region can carry its layout. -/
structure Fresh (handle : Handle) (backing : Backing) (region : Region) : Prop where
  /-- It has the region in view. -/
  view : handle.view = some ⟨region, backing⟩
  /-- It is not marked as closed. -/
  closed : handle.closed = false
  /-- The region can carry the layout. -/
  fit : handle.layout.check region = .ok ()

/-- A handle is fresh, whoever made it. -/
theorem fresh_of_ofView {view : View} {layout : Layout} {directory file : Option String}
    (given : ofView view layout directory file = .ok handle) :
    handle.Fresh view.backing view.region := by
  unfold ofView at given
  split at given
  · cases given
  · next fit =>
    cases given
    exact ⟨rfl, rfl, fit⟩

end Handle

/-- The handle that an attachment gives is made at its end. -/
theorem Handshake.gives_fresh_openExisting (handshake : Handshake) (directory filename : String)
    (rounds : Nat) (environment : Environment) :
    ((handshake.openExisting directory filename rounds : Activity Handle).run environment).Gives
      fun handle _ => ∃ region, handle.Fresh .owned region := by
  unfold Handshake.openExisting
  refine .last fun deadline between => .last fun region between => .last fun _ between =>
    .last fun version between => .last fun _ between => .last fun _ between =>
    .last fun _ between => ?_
  rw [Activity.run_look]
  exact .of_ofExcept fun _ given => ⟨_, Handle.fresh_of_ofView given⟩

/-- A handle from a path is fresh, and its region is a mapping of its own. -/
theorem Acquisition.gives_fresh (acquisition : Acquisition) (rounds : Nat)
    (environment : Environment) :
    ((acquisition.activity rounds).run environment).Gives fun handle _ =>
      ∃ region, handle.Fresh .owned region := by
  cases acquisition with
  | creation handshake directory filename length force =>
    refine (Handshake.gives_createInDirectory force rounds environment).imp ?_
    rintro handle _ ⟨⟨fields, places⟩, -⟩
    obtain ⟨object, file⟩ := places.file
    refine ⟨fields.region, ?_, ?_, ?_⟩
    · rw [places.handle]
    · rw [places.handle]
    · have fit := places.fit
      rw [file] at fit ⊢
      rw [places.handle]
      exact fit
  | adoption handshake path length shouldPreExist =>
    cases fits : handshake.layout.checkMappedLength length with
    | error failure =>
      simp only [activity]
      rw [Handshake.run_createOrAdopt_of_unfit fits]
      trivial
    | ok =>
      refine (Handshake.outcome_createOrAdopt fits shouldPreExist).gives.imp ?_
      rintro handle _ ⟨object, mapped, -, given, -⟩
      rw [given.handle]
      exact ⟨_, rfl, rfl, Handshake.fit_of_mapKeeping fits given.file⟩
  | attachment handshake directory filename =>
    exact handshake.gives_fresh_openExisting directory filename rounds environment

end Heartbeat
