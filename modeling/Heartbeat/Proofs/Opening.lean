import Heartbeat.Proofs.Growing
import Heartbeat.Proofs.Observing
import Heartbeat.Proofs.Placement

/-!
# What gives access to a region

A process reaches a region through a mapping, through a piece of memory or through a handle, and it
has got each of these from one of a few operations (`Access.Opened`).  Whatever the operation was,
the object behind the region had been made by then, and since objects are never taken away it is
still there (`Access.Opened.made`).
-/

set_option autoImplicit false

namespace Heartbeat

/-- Something through which a process reaches a region. -/
inductive Access where
  /-- A mapping, or a piece of memory. -/
  | ofRegion (region : Region)
  /-- A handle. -/
  | ofHandle (handle : Handle)

namespace Access

/-- The region that is reached.  A closed handle reaches none. -/
def region : Access → Except Failure Region
  | ofRegion region => .ok region
  | ofHandle handle => handle.region

/-- What a process may have opened before a storage is as it is now, on any paths and with any
settings.  Meanwhile anything may have happened that takes no object away. -/
inductive Opened : Access → Storage → Prop
  | mapNew {storage after : Storage} {path : String} {length : Nat} {region : Region}
      (maps : storage.mapNew path length = (.ok region, after)) : Opened (.ofRegion region) after
  | mapKeeping {storage after : Storage} {path : String} {length : Nat} {region : Region}
      (maps : storage.mapKeeping path length = (.ok region, after)) :
      Opened (.ofRegion region) after
  | mapWhole {storage : Storage} {path : String} {region : Region}
      (maps : storage.mapWhole path = .ok region) : Opened (.ofRegion region) storage
  | mapSpan {storage : Storage} {path : String} {offset length : Nat} {region : Region}
      (maps : storage.mapSpan path offset length = .ok (.ok region)) :
      Opened (.ofRegion region) storage
  | memory (storage : Storage) (name : String) (capacity address : Nat) :
      Opened (.ofRegion ⟨storage.fresh, 0, capacity, address⟩)
        (storage.addMemory name capacity address)
  | create {handshake : Handshake} {directory filename : String} {length rounds : Nat}
      {force : Bool} {environment after : Environment} {handle : Handle}
      (creates : (handshake.createInDirectory directory filename length force rounds :
        Activity Handle).run environment = .returned handle after) :
      Opened (.ofHandle handle) after.storage
  | adopt {handshake : Handshake} {path : String} {length : Nat} {shouldPreExist : Bool}
      {environment after : Environment} {handle : Handle}
      (adopts : (handshake.createOrAdopt path length shouldPreExist : Activity Handle).run
        environment = .returned handle after) : Opened (.ofHandle handle) after.storage
  | attach {handshake : Handshake} {directory filename : String} {rounds : Nat}
      {environment after : Environment} {handle : Handle}
      (attaches : (handshake.openExisting directory filename rounds : Activity Handle).run
        environment = .returned handle after) : Opened (.ofHandle handle) after.storage
  | handleOn {storage : Storage} {region : Region} {backing : Backing} {layout : Layout}
      {handle : Handle} (opened : Opened (.ofRegion region) storage)
      (given : Handle.ofRegion region backing layout = .ok handle) :
      Opened (.ofHandle handle) storage
  | regionOf {storage : Storage} {region : Region} {handle : Handle}
      (opened : Opened (.ofHandle handle) storage) (given : handle.region = .ok region) :
      Opened (.ofRegion region) storage
  | closed {storage : Storage} {handle : Handle} (opened : Opened (.ofHandle handle) storage) :
      Opened (.ofHandle handle.shut) storage
  | later {storage after : Storage} {access : Access} (opened : Opened access storage)
      (grows : storage.Grows after) : Opened access after

end Access

namespace Storage

variable {storage after : Storage} {path : String} {offset length : Nat} {region : Region}

/-- The path of a mapping leads to what is mapped. -/
theorem openFile_of_mapNew (maps : storage.mapNew path length = (.ok region, after)) :
    after.openFile path = .ok region.object := by
  unfold mapNew at maps
  split at maps
  · cases maps
  · split at maps
    · cases maps
    · next object emptied opened =>
      obtain ⟨-, rfl, rfl⟩ := mapResized_eq_ok maps
      exact openFile_of_namesKept (.modify _ _ _) (openFile_of_openEmptied opened).1

theorem openFile_of_mapWhole (maps : storage.mapWhole path = .ok region) :
    storage.openFile path = .ok region.object := by
  unfold mapWhole at maps
  split at maps <;> cases maps
  next opened => exact opened

theorem openFile_of_mapSpan (maps : storage.mapSpan path offset length = .ok (.ok region)) :
    storage.openFile path = .ok region.object := by
  unfold mapSpan at maps
  split at maps
  · cases maps
  split at maps
  · cases maps
  split at maps
  · cases maps
  next opened =>
  split at maps
  · cases maps
  simp only at maps
  split at maps
  · cases maps
  split at maps <;> cases maps
  exact opened

end Storage

section Attachment

variable {environment : Environment}

/-- What only observes takes no object away. -/
theorem Activity.Observes.gives {α : Type} {activity : Activity α} (observes : activity.Observes) :
    (activity.run environment).Gives fun _ after =>
      environment.storage.Grows after.storage := by
  refine (Outcome.Ensures.gives (observes environment)).imp ?_
  rintro _ after ⟨readings, moved⟩
  have storage : after.storage = (environment.world.ticks readings).storage :=
    congrArg World.storage moved
  exact storage ▸ Storage.Grows.ticks environment.world readings

/-- A watcher maps an object that was made. -/
theorem Handshake.gives_mapWhenPresent (handshake : Handshake) (path : String)
    (deadline : Milliseconds) (rounds : Nat) :
    ((handshake.mapWhenPresent path deadline rounds : Activity Region).run environment).Gives
      fun region after => region.object < after.storage.objects.size := by
  refine (Activity.Observes.look _).gives.bind fun required _ _ => ?_
  refine (observes_awaitFile rounds path required deadline).gives.bind fun _ _ _ => ?_
  refine (Activity.Observes.log handshake _).gives.bind fun _ present _ => ?_
  rw [Activity.run_look]
  exact .of_ofExcept fun region mapped =>
    Storage.made_of_openFile (Storage.openFile_of_mapWhole (filesResult_eq_ok_iff.1 mapped))

/-- A watcher attaches to an object that was made. -/
theorem Handshake.gives_openExisting (handshake : Handshake) (directory filename : String)
    (rounds : Nat) :
    ((handshake.openExisting directory filename rounds : Activity Handle).run environment).Gives
      fun handle after => ∃ region, handle.region = .ok region ∧
        region.object < after.storage.objects.size := by
  refine (Activity.Observes.deadlineAfter _).gives.bind fun deadline _ _ => ?_
  refine (handshake.gives_mapWhenPresent _ deadline rounds).bind fun region _ made => ?_
  refine (Activity.Observes.look _).gives.bind fun _ _ fitting => ?_
  refine (ControlFields.observes_awaitVersion _ deadline rounds).gives.bind
    fun version _ published => ?_
  refine (Activity.Observes.consult handshake version).gives.bind fun _ _ accepted => ?_
  refine (ControlFields.observes_awaitHeartbeat _ deadline rounds).gives.bind
    fun _ _ beaten => ?_
  refine (Activity.Observes.report _).gives.bind fun _ _ told => ?_
  rw [Activity.run_look]
  refine .of_ofExcept fun handle given => ⟨region, Handle.region_of_ofView given, ?_⟩
  exact Nat.lt_of_lt_of_le made
    (fitting.trans (published.trans (accepted.trans (beaten.trans told))))

/-- An owner adopts an object that was made. -/
theorem Handshake.gives_createOrAdopt (handshake : Handshake) (path : String) (length : Nat)
    (shouldPreExist : Bool) :
    ((handshake.createOrAdopt path length shouldPreExist : Activity Handle).run environment).Gives
      fun handle after => ∃ region, handle.region = .ok region ∧
        region.object < after.storage.objects.size := by
  cases fits : handshake.layout.checkMappedLength length with
  | error failure =>
    rw [run_createOrAdopt_of_unfit fits]
    trivial
  | ok =>
    refine (outcome_createOrAdopt fits shouldPreExist).gives.imp ?_
    rintro handle after ⟨object, mapped, readings, adopts, moved⟩
    refine ⟨.mapping object 0 length, congrArg Handle.region adopts.handle, ?_⟩
    obtain ⟨_, same, leads⟩ := Storage.mapKeeping_eq_ok adopts.file
    cases same
    have storage : after.storage = (World.ticks ⟨environment.clock, mapped⟩ readings).storage :=
      congrArg World.storage moved
    exact Nat.lt_of_lt_of_le (Storage.made_of_openFile leads)
      (storage ▸ Storage.Grows.ticks ⟨environment.clock, mapped⟩ readings)

end Attachment

namespace Access

/-- What is reached was made before. -/
theorem Opened.made {access : Access} {storage : Storage} (opened : access.Opened storage)
    {region : Region} (reaches : access.region = .ok region) :
    region.object < storage.objects.size := by
  induction opened generalizing region with
  | mapNew maps =>
    cases reaches
    exact Storage.made_of_openFile (Storage.openFile_of_mapNew maps)
  | mapKeeping maps =>
    cases reaches
    obtain ⟨_, rfl, leads⟩ := Storage.mapKeeping_eq_ok maps
    exact Storage.made_of_openFile leads
  | mapWhole maps =>
    cases reaches
    exact Storage.made_of_openFile (Storage.openFile_of_mapWhole maps)
  | mapSpan maps =>
    cases reaches
    exact Storage.made_of_openFile (Storage.openFile_of_mapSpan maps)
  | memory storage name capacity address =>
    cases reaches
    simp [Storage.addMemory, Storage.fresh]
  | create creates =>
    obtain ⟨⟨fields, places⟩, -⟩ := (Handshake.gives_createInDirectory _ _ _).of_eq creates
    obtain rfl := places.handle
    cases reaches
    exact places.made
  | adopt adopts =>
    obtain ⟨_, given, made⟩ := (Handshake.gives_createOrAdopt _ _ _ _).of_eq adopts
    cases given.symm.trans reaches
    exact made
  | attach attaches =>
    obtain ⟨_, given, made⟩ := (Handshake.gives_openExisting _ _ _ _).of_eq attaches
    cases given.symm.trans reaches
    exact made
  | handleOn opened given ih =>
    cases (Handle.region_of_ofView given).symm.trans reaches
    exact ih rfl
  | regionOf opened given ih =>
    cases reaches
    exact ih given
  | closed opened ih => cases reaches
  | later opened grows ih => exact Nat.lt_of_lt_of_le (ih reaches) grows

end Access

end Heartbeat
