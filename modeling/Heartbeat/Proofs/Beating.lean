import Heartbeat.Program.Owner
import Heartbeat.Proofs.Placement
import Heartbeat.Proofs.Publication

/-!
# An owner that got through its start

`Owner.Shown` says that a storage shows an owner: its file is in place, with the version and with a
heartbeat that is not zero.  A start that succeeds leaves this (`Owner.reaches_start`), one more
heartbeat keeps it (`Owner.Lives.beat`), and so does any number of them (`Owner.Lives.keepBeating`).

A heartbeat is not zero since the clock shows no time up to zero (`Clock.Positive`).  Nothing is
said about the directory and whatever was in it before, which a start may delete.
-/

set_option autoImplicit false

namespace Heartbeat

/-! ## Clocks that show times after zero -/

/-- Nobody acts at the readings of a clock but to set it, and each of them shows a time after
zero. -/
structure Clock.Positive (clock : Clock) : Prop where
  /-- The clock is set, and nothing else happens. -/
  undisturbed : clock.Undisturbed
  /-- All times are after zero. -/
  positive : ∀ readings, 0 < (World.ticks ⟨clock, .empty⟩ readings).shown

namespace Clock.Positive

variable {world : World} (positive : world.clock.Positive)
include positive

theorem shown : 0 < world.shown := by
  rw [World.shown_eq world.clock world.storage .empty]
  exact positive.positive 0

theorem storage_tick : world.tick.storage = world.storage :=
  World.storage_ticks_of_undisturbed positive.undisturbed 1

theorem tick : world.tick.clock.Positive where
  undisturbed := positive.undisturbed
  positive readings := by
    have still := @World.storage_ticks_of_undisturbed ⟨world.clock, .empty⟩ positive.undisturbed 1
    have elsewhere : World.tick ⟨world.clock, .empty⟩ = ⟨world.tick.clock, .empty⟩ :=
      congr (congrArg World.mk (World.clock_tick_eq world.clock .empty world.storage)) still
    rw [← elsewhere, ← World.ticks_succ]
    exact positive.positive (readings + 1)

theorem ticks (readings : Nat) : (world.ticks readings).clock.Positive := by
  induction readings generalizing world with
  | zero => exact positive
  | succ readings ih => exact ih positive.tick

end Clock.Positive

/-- A clock that stands still after zero. -/
theorem Clock.positive_standing {time : Milliseconds} (late : 0 < time) :
    (ticking time 0).Positive where
  undisturbed := undisturbed_ticking time 0
  positive readings := by
    suffices still : ∀ reads, (World.ticks ⟨⟨time, 0, reads, fun _ => []⟩, .empty⟩ readings).shown =
        time from (still 0).symm ▸ late
    induction readings with
    | zero => exact fun _ => rfl
    | succ readings ih =>
      intro reads
      have tick : World.tick ⟨⟨time, 0, reads, fun _ => []⟩, .empty⟩ =
          ⟨⟨time, 0, reads + 1, fun _ => []⟩, .empty⟩ :=
        congrArg (fun time => World.mk ⟨time, 0, reads + 1, fun _ => []⟩ .empty)
          (Int64.add_zero time)
      rw [World.ticks_succ, tick]
      exact ih (reads + 1)

/-! ## What programs come to -/

namespace Program

variable {α β : Type}

/-- The run of a step that complains in some way. -/
def complaining (complain : Failure → Complaint) : Outcome α → Outcome (Except Complaint α)
  | .returned value after => .returned (.ok value) after
  | .failed failure after => .returned (.error (complain failure)) after
  | .pending => .pending

variable (environment : Environment)

theorem run_step (process : Activity α) :
    Activity.run (step process).run environment =
      complaining .ofFailure (process.run environment) := by
  change (process.attempt.andThen _) environment = complaining .ofFailure (process environment)
  unfold Activity.andThen Activity.attempt
  cases process environment <;> rfl

theorem run_stepOf (task : String) (process : Activity α) :
    Activity.run (stepOf task process).run environment =
      complaining (fun failure => (Complaint.ofFailure failure).under task)
        (process.run environment) := by
  change (process.attempt.andThen _) environment = complaining _ (process environment)
  unfold Activity.andThen Activity.attempt
  cases process environment <;> rfl

/-- A program goes on with the value that its beginning came to. -/
theorem run_bind_of_ok {program : Program Activity β} {next : β → Program Activity α} {value : β}
    {after : Environment}
    (came : Activity.run program.run environment = .returned (.ok value) after) :
    Activity.run (program >>= next).run environment = Activity.run (next value).run after :=
  Activity.run_bind_of_returned environment came

/-- A program takes the configuration that the storage has at a path. -/
theorem run_configuration (path : String) :
    Activity.run (configuration (some path) : Program Activity Configuration).run environment =
      Activity.run (ofExcept .ofConfigurationError (Configuration.load environment.storage path) :
        Program Activity Configuration).run environment := by
  have looked : Activity.run (step (Observer.look fun storage =>
      .ok (Configuration.load storage path)) : Program Activity _).run environment =
        .returned (.ok (Configuration.load environment.storage path)) environment := by
    rw [run_step, Activity.run_look]
    rfl
  exact run_bind_of_ok environment looked

/-- The value that a program comes to, if it comes to one, and what is left. -/
def value? (program : Program Activity α) (environment : Environment) :
    Option (α × Environment) :=
  match Activity.run program.run environment with
  | .returned (.ok value) after => some (value, after)
  | _ => none

/-- What holds of the value of a program and of what is left, if it comes to a value. -/
def Reaches (program : Program Activity α) (environment : Environment)
    (holds : α → Environment → Prop) : Prop :=
  (Activity.run program.run environment).Gives fun result after =>
    ∀ value, result = .ok value → holds value after

variable {environment} {holds : α → Environment → Prop}

theorem Reaches.of_value? {program : Program Activity α} {value : α} {after : Environment}
    (reaches : program.Reaches environment holds)
    (came : program.value? environment = some (value, after)) : holds value after := by
  unfold value? at came
  split at came
  · next ran =>
    cases came
    exact reaches.of_eq ran value rfl
  · cases came

theorem Reaches.pure {value : α} (now : holds value environment) :
    (Pure.pure value : Program Activity α).Reaches environment holds := by
  rintro _ ⟨⟩
  exact now

theorem Reaches.bind {program : Program Activity β} {next : β → Program Activity α}
    {first : β → Environment → Prop} (reaches : program.Reaches environment first)
    (follows : ∀ value after, first value after → (next value).Reaches after holds) :
    (program >>= next).Reaches environment holds := by
  refine Outcome.Gives.bind reaches ?_
  intro result after holds
  cases result with
  | error complaint => exact nofun
  | ok value => exact follows value after (holds value rfl)

theorem Reaches.of_complaining {program : Program Activity α} {process : Activity α}
    {complain : Failure → Complaint}
    (runs : Activity.run program.run environment = complaining complain (process.run environment))
    (gives : (process.run environment).Gives holds) : program.Reaches environment holds := by
  unfold Reaches
  rw [runs]
  cases ran : process.run environment with
  | returned value after =>
    rintro _ ⟨⟩
    exact gives.of_eq ran
  | failed failure after => exact nofun
  | pending => trivial

theorem Reaches.step {process : Activity α} (gives : (process.run environment).Gives holds) :
    (step process).Reaches environment holds := .of_complaining (run_step environment process) gives

theorem Reaches.stepOf {task : String} {process : Activity α}
    (gives : (process.run environment).Gives holds) :
    (stepOf task process).Reaches environment holds :=
  .of_complaining (run_stepOf environment task process) gives

theorem Reaches.ofExcept {ε : Type} {complain : ε → Complaint} {result : Except ε α}
    (now : ∀ value, result = .ok value → holds value environment) :
    (ofExcept complain result).Reaches environment holds := by
  cases result with
  | ok value => exact .pure (now value rfl)
  | error _ => exact nofun

/-- To read a configuration changes nothing. -/
theorem reaches_configuration (path : Option String) :
    (configuration path).Reaches environment fun _ after => after = environment := by
  cases path with
  | none => exact .pure rfl
  | some path =>
    unfold Reaches
    rw [run_configuration]
    exact Reaches.ofExcept fun _ _ => rfl

end Program

/-! ## The steps of an owner -/

/-- What a store leaves. -/
theorem Region.eq_put_of_store {α : Type} [StoredWord α] {region : Region}
    {storage after : Storage} {offset : Nat} {value : α}
    (stored : region.store storage offset value = .ok after) :
    after = region.put storage offset value := by
  unfold store at stored
  split at stored
  · cases stored
  · exact (Except.ok.inj stored).symm

section Steps

variable {environment : Environment}

/-- A reading of a clock that shows times after zero changes no file. -/
theorem gives_now (positive : environment.clock.Positive) :
    ((Waiting.now : Activity Milliseconds).run environment).Gives fun time after =>
      0 < time ∧ after.storage = environment.storage ∧ after.clock.Positive := by
  have clock : environment.world.clock.Positive := positive
  exact ⟨clock.shown, clock.storage_tick, clock.tick⟩

/-- The storing of a word that succeeds puts it into the region. -/
theorem gives_store {α : Type} [StoredWord α] (region : Region) (offset : Nat) (value : α) :
    ((Worker.change fun storage => Failure.ofFault (region.store storage offset value) :
      Activity Unit).run environment).Gives fun _ after =>
        after.storage = region.put environment.storage offset value ∧
          after.clock = environment.clock := by
  rw [Activity.run_change]
  cases stored : region.store environment.storage offset value with
  | error fault => trivial
  | ok left => exact ⟨Region.eq_put_of_store stored, rfl⟩

variable {handshake : Handshake} {directory filename : String} {length : Nat} {handle : Handle}
  {fields : ControlFields} (positive : environment.clock.Positive)
  (places : handshake.Places directory filename length handle fields environment.storage)
include positive places

/-- An introduction moves nothing. -/
theorem gives_introduce (process : Int64) :
    ((handle.introduce process : Activity Unit).run environment).Gives fun _ after =>
      handshake.Places directory filename length handle fields after.storage ∧
        after.clock.Positive := by
  have given : (Observer.ofExcept handle.region : Activity Region).run environment =
      .returned fields.region environment := by
    rw [Activity.run_ofExcept, (Handle.of_fields places.fields).1]
    rfl
  unfold Handle.introduce
  rw [Activity.run_bind_of_returned _ given]
  by_cases room : handle.layout.payloadOffset + 16 ≤ fields.region.capacity
  · simp only [if_pos room]
    refine (gives_store _ _ process).bind ?_
    rintro _ named ⟨put, still⟩
    refine (gives_now (still ▸ positive)).bind ?_
    rintro time read ⟨_, same, positive⟩
    refine (gives_store _ _ time).imp ?_
    rintro _ introduced ⟨put', still'⟩
    rw [put', same, put, still']
    exact ⟨(places.put _ _).put _ _, positive⟩
  · simp only [if_neg room]
    exact ⟨places, positive⟩

/-- A heartbeat is a time after zero. -/
theorem gives_beat :
    ((Owner.beat handle : Activity Unit).run environment).Gives fun _ after =>
      ∃ time : Milliseconds, 0 < time ∧ after.clock.Positive ∧
        after.storage =
          fields.region.put environment.storage fields.layout.timestampOffset time := by
  refine (gives_now positive).bind ?_
  rintro time read ⟨late, same, positive⟩
  rw [Activity.run_change, Handle.beat_eq_ok places.fields places.fit, same]
  exact ⟨time, late, positive, rfl⟩

end Steps

/-! ## The life of an owner -/

namespace Owner

/-- A storage shows an owner: its file is in place, with a version and a heartbeat that is not
zero. -/
structure Shown (owner : Owner) (handshake : Handshake) (fields : ControlFields) (version : Int32)
    (storage : Storage) : Prop where
  /-- The file is in place. -/
  places : handshake.Places owner.configuration.directory owner.configuration.filename
    owner.configuration.fileLength owner.handle fields storage
  /-- The version is published. -/
  published : fields.versionIn storage = version
  /-- There is a heartbeat. -/
  beating : fields.timestampIn storage ≠ 0

/-- An owner is shown, and its clock shows times after zero. -/
structure Lives (owner : Owner) (handshake : Handshake) (fields : ControlFields) (version : Int32)
    (environment : Environment) : Prop where
  /-- The owner is shown. -/
  shown : owner.Shown handshake fields version environment.storage
  /-- The clock shows times after zero. -/
  clock : environment.clock.Positive

section Steps

variable {owner : Owner} {handshake : Handshake} {fields : ControlFields} {version : Int32}
  {storage : Storage} {environment : Environment}

/-- A heartbeat other than zero takes nothing away. -/
theorem Shown.put (shown : owner.Shown handshake fields version storage) {time : Milliseconds}
    (alive : time ≠ 0) :
    owner.Shown handshake fields version
      (fields.region.put storage fields.layout.timestampOffset time) where
  places := shown.places.put _ _
  published := (ControlFields.versionIn_put_timestamp shown.places.made time).trans shown.published
  beating := (ControlFields.timestampIn_put_timestamp shown.places.made time).symm ▸ alive

theorem Lives.reporting (lives : owner.Lives handshake fields version environment)
    (reports : List Report) :
    owner.Lives handshake fields version (environment.reporting reports) :=
  ⟨lives.shown, lives.clock⟩

/-- An announcement leaves a version and a heartbeat. -/
theorem gives_announce (owner : Owner) (positive : environment.clock.Positive)
    (places : handshake.Places owner.configuration.directory owner.configuration.filename
      owner.configuration.fileLength owner.handle fields environment.storage)
    (process : Int64) (version : Int32) :
    ((announce owner.handle process version : Activity Unit).run environment).Gives
      fun _ after => owner.Lives handshake fields version after := by
  refine (gives_introduce positive places process).bind ?_
  rintro _ introduced ⟨places, positive⟩
  refine (gives_beat positive places).bind ?_
  rintro _ beaten ⟨time, late, positive, put⟩
  have beating := ControlFields.timestampIn_put_timestamp places.made time
  have places' := places.put fields.layout.timestampOffset time
  rw [Activity.run_change, Handle.signalReady_eq_ok places.fields places.fit, put]
  refine ⟨⟨places'.put _ _, ControlFields.versionIn_put_version places'.made version, ?_⟩, positive⟩
  rw [Environment.storage_inside, ControlFields.timestampIn_put_version places'.made, beating]
  exact (Int64.ne_of_lt late).symm

end Steps

/-- A start that succeeds leaves an owner that lives. -/
theorem reaches_start {environment : Environment} (positive : environment.clock.Positive)
    (path : Option String) (process : Int64) (rounds : Nat) :
    (Owner.start path process rounds).Reaches environment fun owner after =>
      ∃ version handshake fields, owner.configuration.terms = .ok (version, handshake) ∧
        owner.Lives handshake fields version.pack after := by
  refine (Program.reaches_configuration path).bind ?_
  rintro configuration loaded rfl
  have settled : (Program.ofExcept id configuration.terms).Reaches loaded fun terms after =>
      configuration.terms = .ok terms ∧ after = loaded := .ofExcept fun _ agreed => ⟨agreed, rfl⟩
  refine settled.bind ?_
  rintro ⟨version, handshake⟩ agreed ⟨terms, rfl⟩
  refine (Program.Reaches.stepOf (Handshake.gives_createInDirectory _ rounds agreed)).bind ?_
  rintro handle made ⟨⟨fields, places⟩, readings, moved⟩
  have later : made.clock.Positive :=
    moved ▸ @Clock.Positive.ticks agreed.world positive readings
  refine (Program.Reaches.step (gives_announce ⟨configuration, handle⟩ later places process
    version.pack)).bind ?_
  intro _ published lives
  have reported (report : Report) : ((Observer.report report : Activity Unit).run published).Gives
      fun _ after => Lives ⟨configuration, handle⟩ handshake fields version.pack after :=
    lives.reporting [report]
  exact (Program.Reaches.step (reported _)).bind fun _ _ lives =>
    .pure ⟨version, handshake, fields, terms, lives⟩

section Beats

variable {owner : Owner} {handshake : Handshake} {fields : ControlFields} {version : Int32}
  {environment : Environment} (lives : owner.Lives handshake fields version environment)
include lives

/-- A heartbeat keeps an owner alive. -/
theorem Lives.beat :
    ((Owner.beat owner.handle : Activity Unit).run environment).Gives fun _ after =>
      owner.Lives handshake fields version after := by
  refine (gives_beat lives.clock lives.shown.places).imp ?_
  rintro _ after ⟨time, late, positive, put⟩
  exact ⟨put ▸ lives.shown.put (Int64.ne_of_lt late).symm, positive⟩

/-- Any number of heartbeats keeps an owner alive. -/
theorem Lives.keepBeating (beats : Nat) :
    (owner.keepBeating beats).Reaches environment fun _ after =>
      owner.Lives handshake fields version after := by
  induction beats generalizing environment with
  | zero => exact .pure lives
  | succ beats ih =>
    refine (Program.Reaches.step lives.beat).bind ?_
    intro _ beaten lives
    refine Program.Reaches.bind (.step ?_) fun _ _ => ih
    exact lives

end Beats

end Owner

end Heartbeat
