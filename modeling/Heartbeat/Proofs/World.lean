import Heartbeat.Handshake
import Heartbeat.Activity

/-!
# Worlds, and how activities run in them

An environment is a world, which is a clock and a storage, together with a journal that nothing
reads back.  A process that only observes moves its world in one way: each reading of the clock lets
the acts of that reading happen and moves the clock on (`World.tick`).  So where an observation ends
is known from the number of readings alone (`World.ticks`), what the readings have shown is known
from the world in which each was made (`World.shown`), and the storage is the one that the acts of
the readings leave (`World.storage_ticks`).

The second half says how each elementary step of an activity runs.  Later modules open a program
with these lemmas and never unfold an interface.
-/

set_option autoImplicit false

namespace Heartbeat

/-- A clock and the storage around it: all that an observer can learn something about. -/
structure World where
  /-- The clock. -/
  clock : Clock
  /-- The storage. -/
  storage : Storage

namespace World

/-- The time that the next reading of the clock shows. -/
def shown (world : World) : Milliseconds := (world.clock.read world.storage).1

/-- The world after the next reading of the clock. -/
def tick (world : World) : World :=
  ⟨(world.clock.read world.storage).2.1, (world.clock.read world.storage).2.2⟩

/-- The world after some readings of the clock and nothing else. -/
def ticks (world : World) : (readings : Nat) → World
  | 0 => world
  | readings + 1 => (world.tick).ticks readings

@[simp] theorem ticks_zero (world : World) : world.ticks 0 = world := rfl

theorem ticks_succ (world : World) (readings : Nat) :
    world.ticks (readings + 1) = world.tick.ticks readings := rfl

theorem ticks_add (world : World) (earlier later : Nat) :
    world.ticks (earlier + later) = (world.ticks earlier).ticks later := by
  induction earlier generalizing world with
  | zero => rw [Nat.zero_add, ticks_zero]
  | succ earlier ih => rw [Nat.succ_add, ticks_succ, ticks_succ, ih]

/-- One more reading after some readings. -/
theorem tick_ticks (world : World) (readings : Nat) :
    (world.ticks readings).tick = world.ticks (readings + 1) := (world.ticks_add readings 1).symm

@[simp] theorem reads_tick (world : World) :
    world.tick.clock.reads = world.clock.reads + 1 := rfl

/-- The clock counts its readings. -/
theorem reads_ticks (world : World) (readings : Nat) :
    (world.ticks readings).clock.reads = world.clock.reads + readings := by
  induction readings generalizing world with
  | zero => rfl
  | succ readings ih =>
    rw [ticks_succ, ih, reads_tick]
    omega

@[simp] theorem script_tick (world : World) :
    world.tick.clock.script = world.clock.script := rfl

end World

/-! ## What the readings let happen -/

/-- The storage that acts of others leave, one after the other. -/
def Storage.afterActs (storage : Storage) (acts : List Act) : Storage :=
  (Act.performAll acts (0, storage)).2

/-- The acts of the next readings of a clock. -/
def Clock.upcoming (clock : Clock) (readings : Nat) : List Act :=
  (List.range' (clock.reads + 1) readings).flatMap clock.script

namespace Act

theorem performAll_cons (act : Act) (acts : List Act) (world : Milliseconds × Storage) :
    performAll (act :: acts) world = performAll acts (act.perform world) := rfl

/-- What acts leave in the storage does not depend on the time. -/
theorem performAll_storage (acts : List Act) (time : Milliseconds) (storage : Storage) :
    (performAll acts (time, storage)).2 = storage.afterActs acts := by
  suffices same : ∀ other, (performAll acts (time, storage)).2 =
      (performAll acts (other, storage)).2 from same 0
  intro other
  induction acts generalizing time other storage with
  | nil => rfl
  | cons act acts ih =>
    rw [performAll_cons, performAll_cons]
    cases act with
    | setTime _ => rfl
    | pokeInt32 _ _ _ | pokeInt64 _ _ _ | files _ => exact ih _ _ _

/-- What acts make of the time does not depend on the storage. -/
theorem performAll_time (acts : List Act) (time : Milliseconds) (storage other : Storage) :
    (performAll acts (time, storage)).1 = (performAll acts (time, other)).1 := by
  induction acts generalizing time storage other with
  | nil => rfl
  | cons act acts ih =>
    rw [performAll_cons, performAll_cons]
    cases act <;> exact ih _ _ _

end Act

namespace Storage

@[simp] theorem afterActs_nil (storage : Storage) : storage.afterActs [] = storage := rfl

theorem afterActs_cons (storage : Storage) (act : Act) (acts : List Act) :
    storage.afterActs (act :: acts) = (storage.afterActs [act]).afterActs acts :=
  Act.performAll_storage acts _ _

theorem afterActs_append (storage : Storage) (earlier later : List Act) :
    storage.afterActs (earlier ++ later) = (storage.afterActs earlier).afterActs later := by
  induction earlier generalizing storage with
  | nil => rfl
  | cons act acts ih => rw [List.cons_append, afterActs_cons, ih, ← afterActs_cons]

end Storage

namespace World

/-- The time that a reading shows does not depend on the storage. -/
theorem shown_eq (clock : Clock) (storage other : Storage) :
    shown ⟨clock, storage⟩ = shown ⟨clock, other⟩ := Act.performAll_time _ _ _ _

/-- What a reading makes of the clock does not depend on the storage. -/
theorem clock_tick_eq (clock : Clock) (storage other : Storage) :
    (tick ⟨clock, storage⟩).clock = (tick ⟨clock, other⟩).clock :=
  congrArg (fun time => { clock with time := time + clock.tick, reads := clock.reads + 1 })
    (shown_eq clock storage other)

/-- Readings of the clock leave what the acts of these readings leave. -/
theorem storage_ticks (world : World) (readings : Nat) :
    (world.ticks readings).storage = world.storage.afterActs (world.clock.upcoming readings) := by
  induction readings generalizing world with
  | zero => rfl
  | succ readings ih =>
    have first : world.tick.storage =
        world.storage.afterActs (world.clock.script (world.clock.reads + 1)) :=
      Act.performAll_storage _ _ _
    have following : world.clock.upcoming (readings + 1) =
        world.clock.script (world.clock.reads + 1) ++ world.tick.clock.upcoming readings := by
      simp only [Clock.upcoming, List.range'_succ, List.flatMap_cons, reads_tick, script_tick]
    rw [ticks_succ, ih, first, following, Storage.afterActs_append]

end World

/-- Nobody acts at the readings of a clock but to set it. -/
def Clock.Undisturbed (clock : Clock) : Prop :=
  ∀ reading, ∀ act ∈ clock.script reading, ∃ time, act = .setTime time

theorem Clock.undisturbed_ticking (time tick : Milliseconds) : (ticking time tick).Undisturbed :=
  fun _ _ listed => absurd listed List.not_mem_nil

/-- Setting clocks changes nothing in the storage. -/
theorem Storage.afterActs_of_setTime {storage : Storage} {acts : List Act}
    (sets : ∀ act ∈ acts, ∃ time, act = .setTime time) : storage.afterActs acts = storage := by
  induction acts with
  | nil => rfl
  | cons act acts ih =>
    obtain ⟨time, rfl⟩ := sets act (List.mem_cons_self ..)
    rw [afterActs_cons]
    exact ih fun other listed => sets other (List.mem_cons_of_mem _ listed)

/-- The readings of an undisturbed clock change nothing in the storage. -/
theorem World.storage_ticks_of_undisturbed {world : World}
    (undisturbed : world.clock.Undisturbed) (readings : Nat) :
    (world.ticks readings).storage = world.storage := by
  rw [storage_ticks]
  refine Storage.afterActs_of_setTime fun act listed => ?_
  obtain ⟨reading, _, scripted⟩ := List.mem_flatMap.1 listed
  exact undisturbed reading act scripted

namespace Environment

/-- The world of an environment. -/
def world (environment : Environment) : World := ⟨environment.clock, environment.storage⟩

/-- The same journal in another world. -/
def inside (environment : Environment) (world : World) : Environment :=
  { environment with clock := world.clock, storage := world.storage }

/-- The same world with further reports in the journal. -/
def reporting (environment : Environment) (reports : List Report) : Environment :=
  { environment with journal := environment.journal ++ reports }

variable (environment : Environment)

@[simp] theorem inside_world : environment.inside environment.world = environment := rfl

@[simp] theorem world_inside (world : World) : (environment.inside world).world = world := rfl

@[simp] theorem inside_inside (world other : World) :
    (environment.inside world).inside other = environment.inside other := rfl

@[simp] theorem world_reporting (reports : List Report) :
    (environment.reporting reports).world = environment.world := rfl

@[simp] theorem storage_reporting (reports : List Report) :
    (environment.reporting reports).storage = environment.storage := rfl

@[simp] theorem storage_inside (world : World) :
    (environment.inside world).storage = world.storage := rfl

@[simp] theorem storage_world : environment.world.storage = environment.storage := rfl

@[simp] theorem reporting_nil : environment.reporting [] = environment := by
  simp [reporting]

@[simp] theorem reporting_reporting (first second : List Report) :
    (environment.reporting first).reporting second = environment.reporting (first ++ second) := by
  simp [reporting]

/-- Reports and readings of the clock do not get into each other's way. -/
@[simp] theorem reporting_inside (reports : List Report) (world : World) :
    (environment.reporting reports).inside world = (environment.inside world).reporting reports :=
  rfl

end Environment

namespace Outcome

/-- The outcome that a result makes of an environment. -/
def ofExcept {α : Type} (result : Except Failure α) (after : Environment) : Outcome α :=
  match result with
  | .ok value => .returned value after
  | .error failure => .failed failure after

@[simp] theorem ofExcept_ok {α : Type} (value : α) (after : Environment) :
    ofExcept (.ok value) after = .returned value after := rfl

@[simp] theorem ofExcept_error {α : Type} (failure : Failure) (after : Environment) :
    ofExcept (.error failure : Except Failure α) after = .failed failure after := rfl

variable {α : Type}

/-- What holds of an outcome: of the value returned and what is left, of the failure and what is
left, or if it is still pending. -/
def Ensures (outcome : Outcome α) (returned : α → Environment → Prop)
    (failed : Failure → Environment → Prop) (pending : Prop) : Prop :=
  match outcome with
  | .returned value after => returned value after
  | .failed failure after => failed failure after
  | .pending => pending

variable {returned : α → Environment → Prop} {failed : Failure → Environment → Prop}
  {pending : Prop}

instance (outcome : Outcome α) [∀ value after, Decidable (returned value after)]
    [∀ failure after, Decidable (failed failure after)] [Decidable pending] :
    Decidable (outcome.Ensures returned failed pending) :=
  match outcome with
  | .returned value after => inferInstanceAs (Decidable (returned value after))
  | .failed failure after => inferInstanceAs (Decidable (failed failure after))
  | .pending => inferInstanceAs (Decidable pending)

theorem Ensures.imp {outcome : Outcome α} {returned' : α → Environment → Prop}
    {failed' : Failure → Environment → Prop} {pending' : Prop}
    (ensures : outcome.Ensures returned failed pending)
    (returns : ∀ value after, returned value after → returned' value after)
    (fails : ∀ failure after, failed failure after → failed' failure after)
    (waits : pending → pending') : outcome.Ensures returned' failed' pending' := by
  cases outcome with
  | returned value after => exact returns value after ensures
  | failed failure after => exact fails failure after ensures
  | pending => exact waits ensures

/-- An outcome that is neither a failure nor pending is something returned. -/
theorem Ensures.of_returned {outcome : Outcome α}
    (ensures : outcome.Ensures returned (fun _ _ => False) False) :
    ∃ value after, outcome = .returned value after ∧ returned value after := by
  cases outcome with
  | returned value after => exact ⟨value, after, rfl, ensures⟩
  | failed _ _ | pending => exact False.elim ensures

/-- An outcome that is neither something returned nor pending is a failure. -/
theorem Ensures.of_failed {outcome : Outcome α}
    (ensures : outcome.Ensures (fun _ _ => False) failed False) :
    ∃ failure after, outcome = .failed failure after ∧ failed failure after := by
  cases outcome with
  | failed failure after => exact ⟨failure, after, rfl, ensures⟩
  | returned _ _ | pending => exact False.elim ensures

/-- What failed is what had to be. -/
theorem Ensures.failed_of_eq {outcome : Outcome α}
    (ensures : outcome.Ensures returned failed pending) {failure : Failure} {after : Environment}
    (run : outcome = .failed failure after) : failed failure after := by
  subst run
  exact ensures

/-- What one activity and those that follow it ensure. -/
theorem Ensures.bind {β : Type} {activity : Activity β} {next : β → Activity α}
    {environment : Environment}
    (first : (activity.run environment).Ensures
      (fun value after => ((next value).run after).Ensures returned failed pending) failed pending) :
    ((activity >>= next).run environment).Ensures returned failed pending := by
  rw [Activity.run_bind]
  cases run : activity.run environment with
  | returned _ _ | failed _ _ | pending =>
    rw [run] at first
    exact first

theorem Ensures.of_ofExcept {result : Except Failure α} {after : Environment}
    (gives : ∀ value, result = .ok value → returned value after)
    (fails : ∀ failure, result = .error failure → failed failure after) :
    (ofExcept result after).Ensures returned failed pending := by
  cases result with
  | ok value => exact gives value rfl
  | error failure => exact fails failure rfl

/-- What holds of the value returned and of what is left, if a value is returned. -/
def Gives (outcome : Outcome α) (returned : α → Environment → Prop) : Prop :=
  outcome.Ensures returned (fun _ _ => True) True

theorem Ensures.gives {outcome : Outcome α} (ensures : outcome.Ensures returned failed pending) :
    outcome.Gives returned :=
  ensures.imp (fun _ _ => id) (fun _ _ _ => trivial) fun _ => trivial

theorem Gives.imp {outcome : Outcome α} {returned' : α → Environment → Prop}
    (gives : outcome.Gives returned)
    (returns : ∀ value after, returned value after → returned' value after) :
    outcome.Gives returned' := Ensures.imp gives returns (fun _ _ => id) id

theorem Gives.bind {β : Type} {activity : Activity β} {next : β → Activity α}
    {environment : Environment} {first : β → Environment → Prop}
    (gives : (activity.run environment).Gives first)
    (follows : ∀ value after, first value after → ((next value).run after).Gives returned) :
    ((activity >>= next).run environment).Gives returned :=
  Ensures.bind (Ensures.imp gives follows (fun _ _ => id) id)

/-- What the last step gives, whatever the steps before it were. -/
theorem Gives.last {β : Type} {activity : Activity β} {next : β → Activity α}
    {environment : Environment}
    (follows : ∀ value after, ((next value).run after).Gives returned) :
    ((activity >>= next).run environment).Gives returned := by
  have first : (activity.run environment).Gives fun _ _ => True := by
    cases activity.run environment <;> trivial
  exact first.bind fun value after _ => follows value after

theorem Gives.of_ofExcept {result : Except Failure α} {after : Environment}
    (gives : ∀ value, result = .ok value → returned value after) :
    (ofExcept result after).Gives returned := Ensures.of_ofExcept gives fun _ _ => trivial

/-- What was returned is what had to be. -/
theorem Gives.of_eq {outcome : Outcome α} (gives : outcome.Gives returned) {value : α}
    {after : Environment} (run : outcome = .returned value after) : returned value after := by
  subst run
  exact gives

end Outcome

/-- The reports that a message becomes. -/
def Handshake.messages (handshake : Handshake) (message : String) : List Report :=
  (handshake.logger.map fun logger => logger message).toList

/-! ## How the elementary steps run -/

namespace Activity

variable {α β : Type} (environment : Environment)

/-- It makes no difference how steps that follow each other are grouped. -/
theorem run_bind_assoc {γ : Type} (activity : Activity α) (next : α → Activity β)
    (last : β → Activity γ) :
    (activity >>= next >>= last).run environment =
      (activity >>= fun value => next value >>= last).run environment := by
  simp only [run_bind]
  cases activity.run environment <;> rfl

/-- What follows an activity depends on nothing but its outcome. -/
theorem run_bind_congr {start : Environment} {activity other : Activity α}
    {next : α → Activity β} (same : activity.run environment = other.run start) :
    (activity >>= next).run environment = (other >>= next).run start := by
  rw [run_bind, same, ← run_bind]

theorem run_bind_of_returned {activity : Activity α} {next : α → Activity β} {value : α}
    {after : Environment} (returned : activity.run environment = .returned value after) :
    (activity >>= next).run environment = (next value).run after := by
  rw [run_bind, returned]

theorem run_bind_of_failed {activity : Activity α} {next : α → Activity β} {failure : Failure}
    {after : Environment} (failed : activity.run environment = .failed failure after) :
    (activity >>= next).run environment = .failed failure after := by
  rw [run_bind, failed]

theorem run_bind_of_pending {activity : Activity α} {next : α → Activity β}
    (pending : activity.run environment = .pending) :
    (activity >>= next).run environment = .pending := by
  rw [run_bind, pending]

@[simp] theorem run_now :
    (Waiting.now : Activity Milliseconds).run environment =
      .returned environment.world.shown (environment.inside environment.world.tick) := rfl

@[simp] theorem run_pause (milliseconds : Nat) :
    (Waiting.pause milliseconds : Activity Unit).run environment = .returned () environment := rfl

@[simp] theorem run_exhausted :
    (Waiting.exhausted : Activity α).run environment = .pending := rfl

@[simp] theorem run_look (view : Storage → Except Failure α) :
    (Observer.look view : Activity α).run environment =
      .ofExcept (view environment.storage) environment := by
  cases seen : view environment.storage <;> simp [run, Observer.look, look, seen]

@[simp] theorem run_fail (failure : Failure) :
    (Observer.fail failure : Activity α).run environment = .failed failure environment := rfl

@[simp] theorem run_refuse (refusal : Refusal) :
    (Observer.refuse refusal : Activity α).run environment =
      .failed (.refused refusal) environment := rfl

@[simp] theorem run_ofExcept (result : Except Failure α) :
    (Observer.ofExcept result : Activity α).run environment = .ofExcept result environment := by
  cases result <;> rfl

/-- What a result gives is what it is. -/
theorem gives_ofExcept (result : Except Failure α) :
    ((Observer.ofExcept result : Activity α).run environment).Gives fun value _ =>
      result = .ok value := by
  rw [run_ofExcept]
  exact .of_ofExcept fun _ => id

@[simp] theorem run_report (report : Report) :
    (Observer.report report : Activity Unit).run environment =
      .returned () (environment.reporting [report]) := rfl

@[simp] theorem run_work (step : Storage → Except Failure α × Storage) :
    (Worker.work step : Activity α).run environment =
      .ofExcept (step environment.storage).1
        (environment.inside ⟨environment.clock, (step environment.storage).2⟩) := by
  rcases seen : step environment.storage with ⟨result, after⟩
  cases result <;> simp [run, Worker.work, work, seen, Environment.inside]

/-- A change that does not happen leaves everything as it was. -/
theorem run_change (step : Storage → Except Failure Storage) :
    (Worker.change step : Activity Unit).run environment =
      match step environment.storage with
      | .ok after => .returned () (environment.inside ⟨environment.clock, after⟩)
      | .error failure => .failed failure environment := by
  unfold Worker.change
  rw [run_work]
  cases step environment.storage <;> rfl

/-- A message becomes what the logger makes of it, if there is one. -/
theorem run_log_eq (handshake : Handshake) (message : String) :
    (handshake.log message : Activity Unit).run environment =
      .returned () (environment.reporting (handshake.messages message)) := by
  unfold Handshake.log Handshake.messages
  cases handshake.logger with
  | none => exact congrArg _ environment.reporting_nil.symm
  | some logger => rfl

/-- Logging changes nothing but the journal. -/
theorem run_log (handshake : Handshake) (message : String) :
    ∃ reports, (handshake.log message : Activity Unit).run environment =
      .returned () (environment.reporting reports) :=
  ⟨_, run_log_eq environment handshake message⟩

/-- The version check is reported, and its refusal is the failure. -/
theorem run_consult (handshake : Handshake) (version : Int32) :
    (handshake.consult version : Activity Unit).run environment =
      .ofExcept (Failure.ofRefusal (handshake.check version))
        (environment.reporting [.consulted version]) := by
  unfold Handshake.consult
  rw [run_bind_of_returned _ (run_report _ _)]
  cases handshake.check version <;> rfl

end Activity

end Heartbeat
