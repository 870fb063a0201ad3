import Heartbeat.Program.Watcher
import Heartbeat.Proofs.Guard

/-!
# Watchers only observe

All that a watcher does to its world is to read the clock (`Activity.Observes`).  That is so for each
elementary step of an observer, and it is kept when steps follow each other, when a failure is
caught, and in a wait, so it holds of every operation that a watcher has (`Watch.observes`): attaching
to a region, deciding whether its owner is alive, waiting for a version or a heartbeat, reading a
field or other bytes, letting go of the region, and the watcher program as a whole.

So whatever operations a watcher makes, one after the other, successfully or not, and whatever others
do meanwhile, the storage is in the end as the others alone would have left it
(`Watched.final_storage_eq`).  A mapping could be written to, but no watcher does.
-/

set_option autoImplicit false

namespace Heartbeat

/-- A world can be reached from another one by reading the clock and nothing else. -/
def World.Later (world after : World) : Prop := ∃ readings, after = world.ticks readings

namespace World.Later

theorem refl (world : World) : world.Later world := ⟨0, rfl⟩

theorem tick (world : World) : world.Later world.tick := ⟨1, rfl⟩

theorem trans {world between after : World} (first : world.Later between)
    (second : between.Later after) : world.Later after := by
  obtain ⟨earlier, rfl⟩ := first
  obtain ⟨later, rfl⟩ := second
  exact ⟨earlier + later, (world.ticks_add earlier later).symm⟩

/-- The clock tells how often it was read. -/
theorem eq_ticks {world after : World} (later : world.Later after) :
    after = world.ticks (after.clock.reads - world.clock.reads) := by
  obtain ⟨readings, rfl⟩ := later
  rw [World.reads_ticks, Nat.add_sub_cancel_left]

end World.Later

/-! ## Activities that only observe -/

namespace Activity

/-- An activity does nothing to its world but to read the clock, whether it returns or fails. -/
def Observes {α : Type} (activity : Activity α) : Prop :=
  ∀ environment, (activity.run environment).Ensures
    (fun _ after => environment.world.Later after.world)
    (fun _ after => environment.world.Later after.world) True

namespace Observes

variable {α β : Type}

theorem pure (value : α) : Observes (Pure.pure value) := fun environment => .refl environment.world

theorem bind {activity : Activity α} {next : α → Activity β} (first : activity.Observes)
    (second : ∀ value, (next value).Observes) : (activity >>= next).Observes := by
  intro environment
  refine .bind ((first environment).imp ?_ (fun _ _ => id) id)
  intro value between begun
  exact (second value between).imp (fun _ _ => begun.trans) (fun _ _ => begun.trans) id

theorem now : Observes (Waiting.now : Activity Milliseconds) :=
  fun environment => .tick environment.world

theorem pause (milliseconds : Nat) : Observes (Waiting.pause milliseconds : Activity Unit) :=
  fun environment => .refl environment.world

theorem exhausted : Observes (Waiting.exhausted : Activity α) := fun _ => trivial

theorem look (view : Storage → Except Failure α) :
    Observes (Observer.look view : Activity α) := by
  intro environment
  rw [run_look]
  exact .of_ofExcept (fun _ _ => .refl _) fun _ _ => .refl _

theorem fail (failure : Failure) : Observes (Observer.fail failure : Activity α) :=
  fun environment => .refl environment.world

/-- A failure that is caught has only observed as well. -/
theorem attempt {activity : Activity α} (observes : activity.Observes) :
    Observes (Observer.attempt activity : Activity (Except Failure α)) := by
  intro environment
  have begun := observes environment
  change (Activity.attempt activity environment).Ensures _ _ _
  unfold Activity.attempt
  revert begun
  unfold Activity.run
  cases activity environment <;> exact id

theorem report (report : Report) : Observes (Observer.report report : Activity Unit) :=
  fun environment => .refl environment.world

theorem ofExcept (result : Except Failure α) :
    Observes (Observer.ofExcept result : Activity α) := by
  cases result with
  | ok value => exact .pure value
  | error failure => exact .fail failure

theorem log (handshake : Handshake) (message : String) :
    Observes (handshake.log message : Activity Unit) := by
  unfold Handshake.log
  split
  · exact .report _
  · exact .pure ()

theorem consult (handshake : Handshake) (version : Int32) :
    Observes (handshake.consult version : Activity Unit) := by
  refine .bind (.report _) fun _ => ?_
  split
  · exact .pure ()
  · exact .fail _

theorem deadlineAfter (timeout : Milliseconds) :
    Observes (Heartbeat.deadlineAfter timeout : Activity Milliseconds) :=
  .bind .now fun _ => .pure _

/-- A wait only observes if its probe does. -/
theorem pollUntilDeadline (deadline : Milliseconds) (interval : Nat) {probe : Activity (Option α)}
    (observes : probe.Observes) (rounds : Nat) :
    Observes (Heartbeat.pollUntilDeadline deadline interval probe rounds) := by
  induction rounds with
  | zero => exact .exhausted
  | succ rounds ih =>
    refine .bind observes fun found => ?_
    cases found with
    | some value => exact .pure _
    | none =>
      refine .bind .now fun now => ?_
      split
      · exact .pure none
      · exact .bind (.pause interval) fun _ => ih

end Observes

end Activity

/-! ## What watchers do -/

namespace ControlFields

variable (fields : ControlFields) (deadline : Milliseconds) (rounds : Nat)

theorem observes_awaitVersion :
    (fields.awaitVersion deadline rounds : Activity Int32).Observes := by
  refine .bind (.pollUntilDeadline _ _ (.bind (.look _) fun _ => .pure _) _) fun found => ?_
  cases found with
  | some version => exact .pure version
  | none => exact .fail _

theorem observes_awaitHeartbeat :
    (fields.awaitHeartbeat deadline rounds : Activity Milliseconds).Observes := by
  refine .bind (.pollUntilDeadline _ _ (.bind (.look _) fun _ => .pure _) _) fun found => ?_
  cases found with
  | some timestamp => exact .pure timestamp
  | none => exact .fail _

end ControlFields

namespace Handshake

variable (handshake : Handshake) (rounds : Nat)

theorem observes_isActiveOn (fields : ControlFields) :
    (handshake.isActiveOn fields rounds : Activity Bool).Observes :=
  .bind (.deadlineAfter _) fun deadline =>
  .bind (fields.observes_awaitVersion deadline rounds) fun version =>
  .bind (fields.observes_awaitHeartbeat deadline rounds) fun _ =>
  .bind (.consult handshake version) fun _ =>
  .bind .now fun _ =>
  .bind (.log handshake _) fun _ =>
  .bind (.report _) fun _ => .pure _

theorem observes_isActive (region : Option Region) :
    (handshake.isActive region rounds : Activity Bool).Observes := by
  cases region with
  | none => exact .pure false
  | some region => exact .bind (.look _) fun _ => handshake.observes_isActiveOn rounds _

theorem observes_awaitFile (path : String) (required : Nat) (deadline : Milliseconds) :
    (awaitFile path required deadline rounds : Activity Unit).Observes := by
  refine .bind (.pollUntilDeadline _ _ (.bind (.look _) fun _ => .pure _) _) fun found => ?_
  cases found with
  | some size => exact .pure ()
  | none => exact .fail _

theorem observes_mapWhenPresent (path : String) (deadline : Milliseconds) :
    (handshake.mapWhenPresent path deadline rounds : Activity Region).Observes :=
  .bind (.look _) fun required =>
  .bind (observes_awaitFile rounds path required deadline) fun _ =>
  .bind (.log handshake _) fun _ => .look _

theorem observes_openExisting (directory filename : String) :
    (handshake.openExisting directory filename rounds : Activity Handle).Observes :=
  .bind (.deadlineAfter _) fun deadline =>
  .bind (handshake.observes_mapWhenPresent rounds _ deadline) fun _ =>
  .bind (.look _) fun _ =>
  .bind (ControlFields.observes_awaitVersion _ deadline rounds) fun version =>
  .bind (.consult handshake version) fun _ =>
  .bind (ControlFields.observes_awaitHeartbeat _ deadline rounds) fun _ =>
  .bind (.report _) fun _ => .look _

end Handshake

namespace Handle

theorem observes_isActive (handle : Handle) (handshake : Handshake) (rounds : Nat) :
    (handle.isActive handshake rounds : Activity Bool).Observes := by
  unfold isActive
  split
  · exact .pure false
  · exact handshake.observes_isActiveOn rounds _

theorem observes_close (handle : Handle) : (handle.close : Activity Handle).Observes := by
  unfold close
  split
  · exact .pure _
  · split
    · exact .bind (.report _) fun _ => .pure _
    · exact .pure _

end Handle

namespace Handshake

variable (handshake : Handshake) (region : Region) (timeout : Milliseconds) (rounds : Nat)

theorem observes_awaitInitialized :
    (handshake.awaitInitialized region timeout rounds : Activity Int32).Observes :=
  .bind (.look _) fun _ =>
  .bind (.deadlineAfter _) fun deadline => ControlFields.observes_awaitVersion _ deadline rounds

theorem observes_awaitHeartbeat :
    (handshake.awaitHeartbeat region timeout rounds : Activity Milliseconds).Observes :=
  .bind (.look _) fun _ =>
  .bind (.deadlineAfter _) fun deadline => ControlFields.observes_awaitHeartbeat _ deadline rounds

end Handshake

/-! ## The watcher program -/

namespace Program

variable {α β : Type}

/-- A program does nothing to its world but to read the clock, whatever it comes to. -/
def Observes (program : Program Activity α) : Prop := Activity.Observes program.run

namespace Observes

theorem bind {program : Program Activity α} {next : α → Program Activity β}
    (first : program.Observes) (second : ∀ value, (next value).Observes) :
    (program >>= next).Observes := by
  refine Activity.Observes.bind first fun result => ?_
  cases result with
  | ok value => exact second value
  | error complaint => exact .pure _

theorem step {process : Activity α} (observes : process.Observes) :
    (Program.step process).Observes := by
  refine Activity.Observes.bind observes.attempt fun result => ?_
  cases result <;> exact Activity.Observes.pure _

theorem stepOf {process : Activity α} (observes : process.Observes) (task : String) :
    (Program.stepOf task process).Observes := by
  refine Activity.Observes.bind observes.attempt fun result => ?_
  cases result <;> exact Activity.Observes.pure _

theorem ofExcept {ε : Type} (complain : ε → Complaint) (result : Except ε α) :
    (Program.ofExcept complain result : Program Activity α).Observes := by
  cases result <;> exact Activity.Observes.pure _

theorem configuration (path : Option String) :
    (Program.configuration path : Program Activity Configuration).Observes := by
  cases path with
  | none => exact Activity.Observes.pure _
  | some path => exact .bind (.step (.look _)) fun _ => .ofExcept _ _

end Observes

end Program

namespace Watcher

variable (handle : Handle) (handshake : Handshake) (interval rounds : Nat)

theorem observes_reportAge : (reportAge handle : Activity Unit).Observes :=
  .bind .now fun _ => .bind (.look _) fun _ => .report _

/-- Each look at an owner only observes, so any number of them does. -/
theorem observes_follow (looks : Nat) :
    (follow handle handshake interval rounds looks : Activity Unit).Observes := by
  induction looks with
  | zero => exact .exhausted
  | succ looks ih =>
    refine .bind (handle.observes_isActive handshake rounds) fun alive => ?_
    split
    · exact .bind (observes_reportAge handle) fun _ => .bind (.pause interval) fun _ => ih
    · exact .report _

theorem observes_reportOwner : (reportOwner handle : Activity Unit).Observes :=
  .bind (.look _) fun _ => .bind (.look _) fun _ => .report _

theorem observes_run (path : Option String) :
    (Watcher.run path rounds : Program Activity Unit).Observes :=
  .bind (.configuration path) fun _ =>
  .bind (.ofExcept _ _) fun (_, handshake) =>
  .bind (.stepOf (handshake.observes_openExisting rounds _ _) _) fun handle =>
  .bind (.step (observes_reportOwner handle)) fun _ =>
  .bind (.step (observes_follow handle handshake _ rounds rounds)) fun _ =>
  .bind (.step handle.observes_close) fun _ => Activity.Observes.pure _

end Watcher

/-! ## Whatever watchers do -/

/-- What a watcher can do, by the type of what it learns. -/
inductive Watch : Type → Type 1 where
  /-- To attach to the region of a file. -/
  | attach (handshake : Handshake) (directory filename : String) : Watch Handle
  /-- To decide whether the owner of a region is alive. -/
  | decide (handshake : Handshake) (region : Option Region) : Watch Bool
  /-- To decide whether the owner of a handle's region is alive. -/
  | decideHandle (handshake : Handshake) (handle : Handle) : Watch Bool
  /-- To wait for a version. -/
  | awaitInitialized (handshake : Handshake) (region : Region) (timeout : Milliseconds) :
      Watch Int32
  /-- To wait for a heartbeat. -/
  | awaitHeartbeat (handshake : Handshake) (region : Region) (timeout : Milliseconds) :
      Watch Milliseconds
  /-- To read the version. -/
  | version (handle : Handle) : Watch Int32
  /-- To read the heartbeat. -/
  | timestamp (handle : Handle) : Watch Milliseconds
  /-- To read the number of the owner's process. -/
  | ownerProcess (handle : Handle) : Watch (Option Int64)
  /-- To take the region of a handle. -/
  | regionOf (handle : Handle) : Watch Region
  /-- To read a word of a region. -/
  | word {α : Type} [StoredWord α] (region : Region) (offset : Nat) : Watch α
  /-- To read bytes of a region. -/
  | bytes (region : Region) (offset length : Nat) : Watch (List UInt8)
  /-- To close a handle. -/
  | close (handle : Handle) : Watch Handle
  /-- To run the watcher program. -/
  | program (configuration : Option String) : Watch (Except Complaint Unit)

/-- What a watcher does, with some rounds for each wait. -/
def Watch.activity (rounds : Nat) : {α : Type} → Watch α → Activity α
  | _, .attach handshake directory filename => handshake.openExisting directory filename rounds
  | _, .decide handshake region => handshake.isActive region rounds
  | _, .decideHandle handshake handle => handle.isActive handshake rounds
  | _, .awaitInitialized handshake region timeout =>
    handshake.awaitInitialized region timeout rounds
  | _, .awaitHeartbeat handshake region timeout => handshake.awaitHeartbeat region timeout rounds
  | _, .version handle => Observer.look handle.version
  | _, .timestamp handle => Observer.look handle.timestamp
  | _, .ownerProcess handle => Observer.look handle.ownerProcess
  | _, .regionOf handle => Observer.ofExcept handle.region
  | _, @Watch.word α _ region offset =>
    Observer.look fun storage => Failure.ofFault (region.load storage offset : Except Fault α)
  | _, .bytes region offset length =>
    Observer.look fun storage => Failure.ofFault (region.loadBytes storage offset length)
  | _, .close handle => handle.close
  | _, .program configuration => (Watcher.run configuration rounds).run

/-- Whatever a watcher does, it only observes. -/
theorem Watch.observes {α : Type} (watch : Watch α) (rounds : Nat) :
    (watch.activity rounds).Observes := by
  cases watch with
  | attach handshake directory filename =>
    exact handshake.observes_openExisting rounds directory filename
  | decide handshake region => exact handshake.observes_isActive rounds region
  | decideHandle handshake handle => exact handle.observes_isActive handshake rounds
  | awaitInitialized handshake region timeout =>
    exact handshake.observes_awaitInitialized region timeout rounds
  | awaitHeartbeat handshake region timeout =>
    exact handshake.observes_awaitHeartbeat region timeout rounds
  | version _ | timestamp _ | ownerProcess _ | word _ _ | bytes _ _ _ => exact .look _
  | regionOf _ => exact .ofExcept _
  | close handle => exact handle.observes_close
  | program configuration => exact Watcher.observes_run rounds configuration

/-- Watchers do something or others act, in any order and number, and the acts of the others, those
at the readings of the watchers' clocks among them, come to a list. -/
inductive Watched (start : Storage) : List Act → Storage → Prop
  /-- Nothing has happened. -/
  | nothing : Watched start [] start
  /-- Others act while no watcher does anything. -/
  | others {acts : List Act} {storage : Storage} (watched : Watched start acts storage)
      (act : Act) : Watched start (acts ++ [act]) (storage.afterActs [act])
  /-- A watcher does something, with any clock, and it succeeds or fails. -/
  | call {acts : List Act} {environment after : Environment} {α : Type}
      {result : Except Failure α} (watched : Watched start acts environment.storage)
      (watch : Watch α) (rounds : Nat)
      (ends : (watch.activity rounds).run environment = .ofExcept result after) :
      Watched start
        (acts ++ environment.clock.upcoming (after.clock.reads - environment.clock.reads))
        after.storage

/-- What one call leaves is what the acts of others at the readings of its clock leave. -/
theorem Watch.storage_eq {α : Type} (watch : Watch α) {rounds : Nat}
    {environment after : Environment} {result : Except Failure α}
    (ends : (watch.activity rounds).run environment = .ofExcept result after) :
    after.storage = environment.storage.afterActs
      (environment.clock.upcoming (after.clock.reads - environment.clock.reads)) := by
  have observed := watch.observes rounds environment
  have later : environment.world.Later after.world := by
    rw [ends] at observed
    cases result <;> exact observed
  have storage := congrArg World.storage later.eq_ticks
  rwa [World.storage_ticks] at storage

/-- Whatever watchers did and others meanwhile, the storage is what the acts of the others alone
make of it.  If these only set clocks, the storage is the same as before. -/
theorem Watched.final_storage_eq {start final : Storage} {acts : List Act}
    (watched : Watched start acts final) :
    final = start.afterActs acts ∧
      ((∀ act ∈ acts, ∃ time, act = .setTime time) → final = start) := by
  have left : final = start.afterActs acts := by
    induction watched with
    | nothing => rfl
    | others _ act ih => rw [Storage.afterActs_append, ← ih]
    | call _ watch rounds ends ih => rw [Storage.afterActs_append, ← ih, watch.storage_eq ends]
  exact ⟨left, fun sets => left.trans (Storage.afterActs_of_setTime sets)⟩

/-- A clock at 120 ms, at whose first reading the owner of `/run/cnc` writes the heartbeat 110. -/
def Clock.beaten : Clock := ⟨120, 1, 0, fun reading =>
  if reading = 1 then [.files (.overwrite "/run/cnc" 8 (StoredWord.toBytes (110 : Int64)))] else []⟩

/-- A watcher attaches while the owner writes a heartbeat, and later finds the owner dead.  All
that has changed in the storage is the heartbeat. -/
theorem Watched.final_storage_eq_owned :
    let handle : Handle := ⟨Handshake.ofOwned.layout, some "/run", some (Path.join "/run" "cnc"),
      some ⟨.mapping 0 0 16, .owned⟩, false⟩
    ∃ attached decided,
      ((Watch.attach .ofOwned "/run" "cnc").activity 2).run ⟨.beaten, .owned, []⟩ =
        .returned handle attached ∧
      ((Watch.decideHandle .ofOwned handle).activity 2).run
        ⟨.ticking 200 1, attached.storage, []⟩ = .returned false decided ∧
      decided.storage = Storage.owned.afterActs (Clock.beaten.script 1) ∧
      (handle.timestamp decided.storage).toOption = some 110 := by
  intro handle
  obtain ⟨attached, attaches, once⟩ : ∃ attached,
      ((Watch.attach .ofOwned "/run" "cnc").activity 2).run ⟨.beaten, .owned, []⟩ =
        .returned handle attached ∧ attached.clock.reads = 1 := ⟨_, rfl, rfl⟩
  have first : Watched .owned (Clock.beaten.script 1) attached.storage := by
    have call := Watched.call .nothing _ 2 (attaches.trans (Outcome.ofExcept_ok handle _).symm)
    rwa [once] at call
  have dead : (((Watch.decideHandle .ofOwned handle).activity 2).run
      ⟨.ticking 200 1, attached.storage, []⟩).Ensures (fun alive _ => alive = false)
        (fun _ _ => False) False := by
    rw [first.final_storage_eq.1]
    decide
  obtain ⟨_, decided, decides, rfl⟩ := dead.of_returned
  have second : Watched .owned (Clock.beaten.script 1) decided.storage := by
    have between : Watched .owned (Clock.beaten.script 1)
        (Environment.mk (.ticking 200 1) attached.storage []).storage := first
    have quiet (readings : Nat) : (Clock.ticking 200 1).upcoming readings = [] :=
      List.flatMap_eq_nil_iff.2 fun _ _ => rfl
    have call := between.call _ 2 (decides.trans (Outcome.ofExcept_ok false _).symm)
    rwa [quiet, List.append_nil] at call
  have left := second.final_storage_eq.1
  exact ⟨attached, decided, attaches, decides, left, by rw [left]; decide⟩

end Heartbeat
