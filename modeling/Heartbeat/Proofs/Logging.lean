import Heartbeat.Proofs.Guard

/-!
# What is said makes no difference to what is done

A handshake says what it does through a logger, if it has one, and warns of a directory if it is told
to.  It says so between the steps that matter: between the look for a file and its mapping, between
the reading of the clock and the test of the age, before a deletion.

Two activities agree (`Activity.Agrees`) if they come to the same in any one world, that is to the
same value or the same failure, and leave the same world, which is the files, the memories and the
clock with the count of its readings.  All that is left out is the journal, before and afterwards.
Agreement is kept when steps follow each other and in a wait, and whatever is only said agrees with
whatever else is only said (`Agrees.report`, `Agrees.log`).  So each operation of a handshake agrees
with the same operation of another one that asks for the same and says something else
(`Operation.indifferent_to_logging`).
-/

set_option autoImplicit false

namespace Heartbeat

/-- What an outcome comes to apart from its journal: the result, and the world that is left.  What
still waits has come to nothing. -/
def Outcome.effect {α : Type} : Outcome α → Option (Except Failure α × World)
  | .returned value after => some (.ok value, after.world)
  | .failed failure after => some (.error failure, after.world)
  | .pending => none

namespace Activity

variable {α β : Type}

/-! ## Activities that agree -/

/-- Two activities have the same effect in any one world, whatever was reported before. -/
def Agrees (activity other : Activity α) : Prop :=
  ∀ environment start : Environment, environment.world = start.world →
    (activity.run environment).effect = (other.run start).effect

namespace Agrees

theorem pure (value : α) : Agrees (Pure.pure value) (Pure.pure value) :=
  fun _ _ same => congrArg (fun world => some (Except.ok value, world)) same

theorem bind {activity other : Activity α} {next following : α → Activity β}
    (first : activity.Agrees other) (second : ∀ value, (next value).Agrees (following value)) :
    (activity >>= next).Agrees (other >>= following) := by
  intro environment start same
  have begun := first environment start same
  rw [run_bind, run_bind]
  revert begun
  -- Either both go on from one world with one value, or both are over.
  cases activity.run environment <;> cases other.run start <;>
    simp only [Outcome.effect, reduceCtorEq, Option.some.injEq, Prod.mk.injEq, Except.ok.injEq,
      Except.error.injEq, false_and, false_implies, forall_const]
  · rintro ⟨rfl, left⟩
    exact second _ _ _ left
  · exact id

theorem now : Agrees (Waiting.now : Activity Milliseconds) Waiting.now :=
  fun _ _ same => congrArg (fun world : World => some (Except.ok world.shown, world.tick)) same

theorem pause (milliseconds : Nat) :
    Agrees (Waiting.pause milliseconds : Activity Unit) (Waiting.pause milliseconds) := .pure ()

theorem exhausted : Agrees (Waiting.exhausted : Activity α) Waiting.exhausted := fun _ _ _ => rfl

theorem fail (failure : Failure) :
    Agrees (Observer.fail failure : Activity α) (Observer.fail failure) :=
  fun _ _ same => congrArg (fun world => some (Except.error failure, world)) same

theorem of_result {environment start : Environment} (same : environment.world = start.world)
    (result : Except Failure α) :
    (Outcome.ofExcept result environment).effect = (Outcome.ofExcept result start).effect := by
  cases result with
  | ok value => exact pure value _ _ same
  | error failure => exact fail failure _ _ same

theorem ofExcept (result : Except Failure α) :
    Agrees (Observer.ofExcept result : Activity α) (Observer.ofExcept result) := by
  intro environment start same
  rw [run_ofExcept, run_ofExcept]
  exact of_result same result

theorem look (view : Storage → Except Failure α) :
    Agrees (Observer.look view : Activity α) (Observer.look view) := by
  intro environment start same
  have storage : environment.storage = start.storage := congrArg World.storage same
  rw [run_look, run_look, storage]
  exact of_result same _

theorem work (step : Storage → Except Failure α × Storage) :
    Agrees (Worker.work step : Activity α) (Worker.work step) := by
  intro environment start same
  obtain ⟨clock, storage⟩ := World.mk.inj same
  rw [run_work, run_work, clock, storage]
  exact @of_result _ (environment.inside _) (start.inside _) rfl _

/-- It makes no difference which of two things is reported. -/
theorem report (report other : Report) :
    Agrees (Observer.report report : Activity Unit) (Observer.report other) :=
  fun _ _ same => congrArg (fun world => some (Except.ok (), world)) same

/-- It makes no difference what is said, and whether anybody listens. -/
theorem log (handshake other : Handshake) (message message' : String) :
    Agrees (handshake.log message : Activity Unit) (other.log message') := by
  intro environment start same
  obtain ⟨reports, logged⟩ := run_log environment handshake message
  obtain ⟨reports', logged'⟩ := run_log start other message'
  rw [logged, logged']
  exact congrArg (fun world => some (Except.ok (), world)) same

/-- A step that is made only under a condition, and what follows it. -/
theorem bind_ite {condition : Prop} [Decidable condition] {step other : Activity α}
    {next following : Activity β} (first : step.Agrees other) (second : next.Agrees following) :
    Agrees (if condition then step >>= fun _ => next else next)
      (if condition then other >>= fun _ => following else following) := by
  split
  · exact .bind first fun _ => second
  · exact second

theorem deadlineAfter (timeout : Milliseconds) :
    Agrees (Heartbeat.deadlineAfter timeout : Activity Milliseconds)
      (Heartbeat.deadlineAfter timeout) := .bind .now fun _ => .pure _

/-- Waits agree if their probes do. -/
theorem pollUntilDeadline (deadline : Milliseconds) (interval : Nat)
    {probe other : Activity (Option α)} (agrees : probe.Agrees other) (rounds : Nat) :
    Agrees (Heartbeat.pollUntilDeadline deadline interval probe rounds)
      (Heartbeat.pollUntilDeadline deadline interval other rounds) := by
  induction rounds with
  | zero => exact .exhausted
  | succ rounds ih =>
    refine .bind agrees fun found => ?_
    cases found with
    | some value => exact .pure _
    | none =>
      refine .bind .now fun now => ?_
      split
      · exact .pure none
      · exact .bind (.pause interval) fun _ => ih

end Agrees

end Activity

/-! ## What operations have in common -/

open Activity

namespace ControlFields

variable (fields : ControlFields) (deadline : Milliseconds) (rounds : Nat)

theorem agrees_awaitVersion :
    Agrees (fields.awaitVersion deadline rounds) (fields.awaitVersion deadline rounds) := by
  refine .bind (.pollUntilDeadline _ _ (.bind (.look _) fun _ => .pure _) _) fun found => ?_
  cases found with
  | some version => exact .pure version
  | none => exact .fail _

theorem agrees_awaitHeartbeat :
    Agrees (fields.awaitHeartbeat deadline rounds) (fields.awaitHeartbeat deadline rounds) := by
  refine .bind (.pollUntilDeadline _ _ (.bind (.look _) fun _ => .pure _) _) fun found => ?_
  cases found with
  | some timestamp => exact .pure timestamp
  | none => exact .fail _

end ControlFields

theorem agrees_deleteDirectory (directory : String) (ignoresFailures : Bool) :
    Agrees (deleteDirectory directory ignoresFailures)
      (deleteDirectory directory ignoresFailures) := by
  refine .bind (.work _) fun removal => ?_
  split
  · exact .pure ()
  · exact .pure ()
  · split
    · exact .report _ _
    · exact .fail _

namespace Handshake

/-- Two handshakes ask for the same.  What they say, and whether they warn, may differ. -/
structure SameTerms (handshake other : Handshake) : Prop where
  /-- The control fields lie at the same places. -/
  layout : handshake.layout = other.layout
  /-- The timeouts are the same. -/
  timeout : handshake.timeout = other.timeout
  /-- The same versions are acceptable, for the same reasons. -/
  check : handshake.check = other.check

section Operations

variable {handshake other : Handshake} (terms : handshake.SameTerms other)
include terms

theorem SameTerms.agrees_consult (version : Int32) :
    Agrees (handshake.consult version) (other.consult version) := by
  unfold consult
  rw [terms.check]
  refine .bind (.report _ _) fun _ => ?_
  split
  · exact .pure ()
  · exact .fail _

theorem SameTerms.agrees_isActiveOn (fields : ControlFields) (rounds : Nat) :
    Agrees (handshake.isActiveOn fields rounds) (other.isActiveOn fields rounds) := by
  unfold isActiveOn
  rw [terms.timeout]
  exact .bind (.deadlineAfter _) fun deadline =>
    .bind (fields.agrees_awaitVersion deadline rounds) fun version =>
    .bind (fields.agrees_awaitHeartbeat deadline rounds) fun _ =>
    .bind (terms.agrees_consult version) fun _ =>
    .bind .now fun _ =>
    .bind (.log handshake other _ _) fun _ =>
    .bind (.report _ _) fun _ => .pure _

theorem SameTerms.agrees_isActive (region : Option Region) (rounds : Nat) :
    Agrees (handshake.isActive region rounds) (other.isActive region rounds) := by
  cases region with
  | none => exact .pure false
  | some region =>
    unfold isActive
    rw [terms.layout]
    exact .bind (.look _) fun _ => terms.agrees_isActiveOn _ rounds

theorem SameTerms.agrees_isActiveHandle (handle : Handle) (rounds : Nat) :
    Agrees (handle.isActive handshake rounds) (handle.isActive other rounds) := by
  unfold Handle.isActive
  split
  · exact .pure false
  · exact terms.agrees_isActiveOn _ rounds

theorem SameTerms.agrees_awaitInitialized (region : Region) (timeout : Milliseconds) (rounds : Nat) :
    Agrees (handshake.awaitInitialized region timeout rounds)
      (other.awaitInitialized region timeout rounds) := by
  unfold awaitInitialized
  rw [terms.layout]
  exact .bind (.look _) fun _ =>
    .bind (.deadlineAfter _) fun deadline => ControlFields.agrees_awaitVersion _ deadline rounds

theorem SameTerms.agrees_awaitHeartbeat (region : Region) (timeout : Milliseconds) (rounds : Nat) :
    Agrees (handshake.awaitHeartbeat region timeout rounds)
      (other.awaitHeartbeat region timeout rounds) := by
  unfold awaitHeartbeat
  rw [terms.layout]
  exact .bind (.look _) fun _ =>
    .bind (.deadlineAfter _) fun deadline => ControlFields.agrees_awaitHeartbeat _ deadline rounds

/-! ## Attaching -/

omit terms in
theorem agrees_awaitFile (path : String) (required : Nat) (deadline : Milliseconds)
    (rounds : Nat) :
    Agrees (awaitFile path required deadline rounds) (awaitFile path required deadline rounds) := by
  refine .bind (.pollUntilDeadline _ _ (.bind (.look _) fun _ => .pure _) _) fun found => ?_
  cases found with
  | some size => exact .pure ()
  | none => exact .fail _

theorem SameTerms.agrees_mapWhenPresent (path : String) (deadline : Milliseconds) (rounds : Nat) :
    Agrees (handshake.mapWhenPresent path deadline rounds)
      (other.mapWhenPresent path deadline rounds) := by
  unfold mapWhenPresent
  rw [terms.layout]
  exact .bind (.look _) fun required =>
    .bind (agrees_awaitFile path required deadline rounds) fun _ =>
    .bind (.log handshake other _ _) fun _ => .look _

theorem SameTerms.agrees_openExisting (directory filename : String) (rounds : Nat) :
    Agrees (handshake.openExisting directory filename rounds)
      (other.openExisting directory filename rounds) := by
  unfold openExisting
  rw [terms.timeout, terms.layout]
  exact .bind (.deadlineAfter _) fun deadline =>
    .bind (terms.agrees_mapWhenPresent _ deadline rounds) fun _ =>
    .bind (.look _) fun _ =>
    .bind (ControlFields.agrees_awaitVersion _ deadline rounds) fun version =>
    .bind (terms.agrees_consult version) fun _ =>
    .bind (ControlFields.agrees_awaitHeartbeat _ deadline rounds) fun _ =>
    .bind (.report _ _) fun _ => .look _

/-! ## Taking over -/

theorem SameTerms.agrees_mapControlFields (path : String) :
    Agrees (handshake.mapControlFields path) (other.mapControlFields path) := by
  unfold mapControlFields
  rw [terms.layout]
  refine .bind (.look _) fun there => ?_
  cases there with
  | false => exact .pure none
  | true =>
    refine .bind (.log handshake other _ _) fun _ =>
      .bind (.ofExcept _) fun span => .bind (.look _) fun mapped => ?_
    cases mapped with
    | ok region => exact .pure _
    | error cause => exact .bind (.report _ _) fun _ => .pure none

theorem SameTerms.agrees_protectLiveOwner (directory filename : String) (rounds : Nat) :
    Agrees (handshake.protectLiveOwner directory filename rounds)
      (other.protectLiveOwner directory filename rounds) := by
  unfold protectLiveOwner
  rw [terms.layout]
  refine .bind (terms.agrees_mapControlFields _) fun mapped => ?_
  cases mapped with
  | none => exact .pure ()
  | some region =>
    refine .bind (.look _) fun _ => .bind (terms.agrees_isActiveOn _ rounds) fun active => ?_
    cases active with
    | false => exact .pure ()
    | true => exact .fail _

omit terms in
/-- What follows a warning does not depend on whether there was one. -/
theorem agrees_directoryWarning (directory : String) {α : Type} {next following : Activity α}
    (agrees : next.Agrees following) :
    Agrees (if handshake.warnsOfDirectory = true then do
        Observer.report (.event .warn "cnc directory already exists"
          [("directory", .text directory)])
        handshake.log s!"WARNING: {directory} already exists"
        next
      else next)
      (if other.warnsOfDirectory = true then do
        Observer.report (.event .warn "cnc directory already exists"
          [("directory", .text directory)])
        other.log s!"WARNING: {directory} already exists"
        following
      else following) := by
  intro environment start same
  obtain ⟨reports, warned⟩ := run_directoryWarning handshake directory environment next
  obtain ⟨reports', warned'⟩ := run_directoryWarning other directory start following
  rw [warned, warned']
  exact agrees _ _ same

theorem SameTerms.agrees_prepareDirectory (directory filename : String) (force : Bool)
    (rounds : Nat) :
    Agrees (handshake.prepareDirectory directory filename force rounds)
      (other.prepareDirectory directory filename force rounds) := by
  have remade : Agrees (deleteDirectory directory false >>= fun _ => makeDirectory directory)
      (deleteDirectory directory false >>= fun _ => makeDirectory directory) :=
    .bind (agrees_deleteDirectory directory false) fun _ => .work _
  unfold prepareDirectory
  refine .bind (.look _) fun there => ?_
  cases there with
  | false => exact .work _
  | true =>
    refine agrees_directoryWarning directory ?_
    cases force with
    | true => exact remade
    | false => exact .bind (terms.agrees_protectLiveOwner directory filename rounds) fun _ => remade

theorem SameTerms.agrees_createFile (directory filename : String) (length : Nat) :
    Agrees (handshake.createFile directory filename length)
      (other.createFile directory filename length) := by
  unfold createFile
  rw [terms.layout]
  exact .bind (.work _) fun _ => .bind (.work _) fun _ =>
    .bind (.report _ _) fun _ => .ofExcept _

theorem SameTerms.agrees_createInDirectory (directory filename : String) (length : Nat) (force : Bool)
    (rounds : Nat) :
    Agrees (handshake.createInDirectory directory filename length force rounds)
      (other.createInDirectory directory filename length force rounds) := by
  unfold createInDirectory
  rw [terms.layout]
  exact .bind (.ofExcept _) fun _ =>
    .bind (terms.agrees_prepareDirectory directory filename force rounds) fun _ =>
      terms.agrees_createFile directory filename length

theorem SameTerms.agrees_requireStale (path : String) (fields : ControlFields) :
    Agrees (handshake.requireStale path fields) (other.requireStale path fields) := by
  unfold requireStale
  rw [terms.timeout]
  exact .bind (.log handshake other _ _) fun _ =>
    .bind (.look _) fun version =>
    .bind_ite (terms.agrees_consult version)
      (.bind (.look _) fun timestamp =>
        .bind .now fun now =>
        .bind (.log handshake other _ _) fun _ =>
        .bind_ite (.fail _) (.report _ _))

theorem SameTerms.agrees_createOrAdopt (path : String) (length : Nat) (shouldPreExist : Bool) :
    Agrees (handshake.createOrAdopt path length shouldPreExist)
      (other.createOrAdopt path length shouldPreExist) := by
  unfold createOrAdopt
  rw [terms.layout]
  exact .bind (.ofExcept _) fun _ =>
    .bind (.work _) fun region =>
    .bind (.look _) fun _ =>
    .bind_ite (terms.agrees_requireStale path _) (.ofExcept _)

end Operations

end Handshake

/-! ## Whatever a handshake is used for -/

/-- What a handshake can be used for, by the type of what comes of it. -/
inductive Operation : Type → Type where
  /-- To wait for a version. -/
  | awaitInitialized (region : Region) (timeout : Milliseconds) : Operation Int32
  /-- To wait for a heartbeat. -/
  | awaitHeartbeat (region : Region) (timeout : Milliseconds) : Operation Milliseconds
  /-- To decide whether the owner of a region is alive. -/
  | isActive (region : Option Region) : Operation Bool
  /-- To decide whether the owner of a handle's region is alive. -/
  | isActiveHandle (handle : Handle) : Operation Bool
  /-- To create a fresh file in a fresh directory. -/
  | createInDirectory (directory filename : String) (length : Nat) (force : Bool) :
      Operation Handle
  /-- To adopt a file as it is, or to make it. -/
  | createOrAdopt (path : String) (length : Nat) (shouldPreExist : Bool) : Operation Handle
  /-- To attach to the region of a file. -/
  | openExisting (directory filename : String) : Operation Handle

namespace Operation

/-- What a handshake does, with some rounds for each wait. -/
def activity (handshake : Handshake) (rounds : Nat) : {α : Type} → Operation α → Activity α
  | _, awaitInitialized region timeout => handshake.awaitInitialized region timeout rounds
  | _, awaitHeartbeat region timeout => handshake.awaitHeartbeat region timeout rounds
  | _, isActive region => handshake.isActive region rounds
  | _, isActiveHandle handle => handle.isActive handshake rounds
  | _, createInDirectory directory filename length force =>
    handshake.createInDirectory directory filename length force rounds
  | _, createOrAdopt path length shouldPreExist =>
    handshake.createOrAdopt path length shouldPreExist
  | _, openExisting directory filename => handshake.openExisting directory filename rounds

/-- Two handshakes that differ in nothing but what they say come to the same in one world, whatever
they are used for and however much was said before.  They return the same value, or fail for the
same reason, or are both still waiting after the same rounds, and they leave the same files,
memories and clock, which has been read equally often. -/
theorem indifferent_to_logging {α : Type} (operation : Operation α) {handshake other : Handshake}
    (terms : handshake.SameTerms other) (rounds : Nat) {environment start : Environment}
    (same : environment.world = start.world) :
    ((operation.activity handshake rounds).run environment).effect =
      ((operation.activity other rounds).run start).effect := by
  have agrees : Agrees (operation.activity handshake rounds) (operation.activity other rounds) := by
    cases operation with
    | awaitInitialized region timeout => exact terms.agrees_awaitInitialized region timeout rounds
    | awaitHeartbeat region timeout => exact terms.agrees_awaitHeartbeat region timeout rounds
    | isActive region => exact terms.agrees_isActive region rounds
    | isActiveHandle handle => exact terms.agrees_isActiveHandle handle rounds
    | createInDirectory directory filename length force =>
      exact terms.agrees_createInDirectory directory filename length force rounds
    | createOrAdopt path length shouldPreExist =>
      exact terms.agrees_createOrAdopt path length shouldPreExist
    | openExisting directory filename => exact terms.agrees_openExisting directory filename rounds
  exact agrees environment start same

/-- The settings of `Handshake.ofOwned` for an owner that says everything it can. -/
def talkative : Handshake :=
  { Handshake.ofOwned with logger := some .collecting, warnsOfDirectory := true }

/-- A creation where an owner is alive is refused in silence, or with three messages and a warning
after what was said before. -/
theorem indifferent_to_logging_owned :
    Handshake.ofOwned.SameTerms talkative ∧
    let operation := createInDirectory "/run" "cnc" 16 false
    let refused := Failure.refused (.activeOwner (Path.join "/run" "cnc"))
    let silent := (operation.activity .ofOwned 2).run ⟨.ticking 120 1, .owned, []⟩
    let told := (operation.activity talkative 2).run ⟨.ticking 120 1, .owned, [.message "hello"]⟩
    silent.effect = told.effect ∧
      silent.Ensures (fun _ _ => False)
        (fun failure after => failure = refused ∧ after.journal.length = 2) False ∧
      told.Ensures (fun _ _ => False)
        (fun failure after => failure = refused ∧ after.journal.length = 7) False := by
  have terms : Handshake.ofOwned.SameTerms talkative := ⟨rfl, rfl, rfl⟩
  exact ⟨terms, indifferent_to_logging _ terms 2 rfl, by decide +kernel, by decide +kernel⟩

end Operation

end Heartbeat
