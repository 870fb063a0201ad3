import Heartbeat.Discovery
import Heartbeat.Proofs.Guard
import Heartbeat.Proofs.Probes

/-!
# The budget of time that the waits of a call share

A call that waits reads the clock once for its deadline and then goes from one wait to the next: an
attachment waits for a file, for a version and for a heartbeat, a decision for the latter two.
`InTurn` tells how the waits of a call follow each other.  They all go by the same deadline, each of
them begins where the one before it ended, and a wait ends with the probe that finds something,
whatever the time is, or with the first reading past the deadline.

`Call.waits_share_one_deadline` says that every call goes like this, and what follows for its
readings: all readings of its waits are in time, except for the last reading of a call that fails
since a wait was in vain.  If the readings strictly increase, the number of readings is bounded by
the timeout, whatever others do.
-/

set_option autoImplicit false

namespace Heartbeat

/-! ## Readings that increase -/

namespace World

/-- The first readings of the clock show later and later times. -/
def Rising (world : World) (readings : Nat) : Prop :=
  ∀ i, i + 1 < readings → (world.ticks i).shown < (world.ticks (i + 1)).shown

variable {world : World} {readings : Nat}

/-- Readings of the clock are told apart by the clock's count of them. -/
theorem ticks_injective {other : Nat} (same : world.ticks readings = world.ticks other) :
    readings = other := by
  have reads := congrArg (fun world => world.clock.reads) same
  simp only [reads_ticks] at reads
  omega

theorem Rising.mono {fewer : Nat} (rising : world.Rising readings) (le : fewer ≤ readings) :
    world.Rising fewer := fun i below => rising i (Nat.lt_of_lt_of_le below le)

/-- Each reading gains at least a millisecond. -/
theorem Rising.gain (rising : world.Rising readings) {i : Nat} (below : i < readings) :
    world.shown.toInt + i ≤ (world.ticks i).shown.toInt := by
  induction i with
  | zero => exact Int.le_of_eq (Int.add_zero _)
  | succ i ih =>
    have earlier := ih (Nat.lt_of_succ_lt below)
    have later := Int64.lt_iff_toInt_lt.1 (rising i below)
    omega

/-- A reading in time comes at most as many readings after the first one as the timeout has
milliseconds. -/
theorem Rising.le_of_inTime (rising : world.Rising readings) {timeout : Milliseconds}
    (fits : world.shown.toInt + timeout.toInt < Int64.maxValue.toInt) {i : Nat}
    (below : i < readings)
    (inTime : (world.ticks i).shown ≤ world.shown.saturatingAdd timeout) :
    i ≤ timeout.toInt.toNat := by
  have gain := rising.gain below
  have bound := Int64.le_iff_toInt_le.1 inTime
  have least := Int64.minValue_le_toInt world.shown
  rw [Milliseconds.toInt_saturatingAdd] at bound
  omega

end World

/-! ## Waits in turn -/

/-- What a wait waits for. -/
inductive Aim where
  /-- A file of some size. -/
  | file (path : String) (required : Nat)
  /-- A version in the control fields of a region. -/
  | version (fields : ControlFields)
  /-- A heartbeat in the control fields of a region. -/
  | heartbeat (fields : ControlFields)

namespace Aim

/-- A storage does not have what a wait waits for. -/
def Lacks : Aim → Storage → Prop
  | file path required, storage => ∀ size, storage.sizeOf? path = some size → size < required
  | version fields, storage => fields.versionIn storage = 0
  | heartbeat fields, storage => fields.timestampIn storage = 0

/-- The refusal of a wait in vain. -/
def refusal : Aim → Refusal
  | file path _ => .fileNotFound path
  | version _ => .notInitialized
  | heartbeat _ => .noHeartbeat

end Aim

/-- The waits of a call follow each other: what they wait for, which of them was in vain, if any,
and how often the clock had been read by then.  The first reading is that for the deadline. -/
inductive InTurn (world : World) (deadline : Milliseconds) :
    List Aim → Option Aim → (readings : Nat) → Prop where
  | start : InTurn world deadline [] none 1
  | met {aims : List Aim} {aim : Aim} {readings probes : Nat}
      (earlier : InTurn world deadline aims none readings)
      (vain : (world.ticks readings).InVain aim.Lacks deadline probes)
      (found : ¬ aim.Lacks (world.ticks (readings + probes)).storage) :
      InTurn world deadline (aims ++ [aim]) none (readings + probes)
  | unmet {aims : List Aim} {aim : Aim} {readings probes : Nat}
      (earlier : InTurn world deadline aims none readings)
      (expires : (world.ticks readings).Expires aim.Lacks deadline probes) :
      InTurn world deadline (aims ++ [aim]) (some aim) (readings + probes + 1)

namespace InTurn

variable {world : World} {deadline : Milliseconds} {aims : List Aim} {unmet : Option Aim}
  {readings : Nat}

theorem pos (turn : InTurn world deadline aims unmet readings) : 0 < readings := by
  induction turn with
  | start => exact Nat.one_pos
  | met _ _ _ ih => exact Nat.add_pos_left ih _
  | unmet _ _ _ => exact Nat.succ_pos _

/-- Waits that all found something read the clock in time. -/
theorem inTime (turn : InTurn world deadline aims none readings) :
    ∀ i, 0 < i → i < readings → (world.ticks i).shown ≤ deadline := by
  generalize result : (none : Option Aim) = unmet at turn
  induction turn with
  | start => exact fun i first last => absurd first (Nat.not_lt.2 (Nat.le_of_lt_succ last))
  | @met _ _ readings _ _ vain _ ih =>
    intro i first last
    rcases Nat.lt_or_ge i readings with early | late
    · exact ih rfl i first early
    · obtain ⟨i, rfl⟩ := Nat.exists_eq_add_of_le late
      rw [World.ticks_add]
      exact (vain i (Nat.lt_of_add_lt_add_left last)).2
  | unmet _ _ _ => cases result

/-- The same, counted from the reading after that for the deadline. -/
theorem inTime_tick (turn : InTurn world deadline aims none readings) :
    world.tick.InTime deadline (readings - 1) :=
  fun i below => turn.inTime (i + 1) (Nat.succ_pos i) (Nat.add_lt_of_lt_sub below)

/-- All readings but the last are in time. -/
theorem inTime_of_lt (turn : InTurn world deadline aims unmet readings) :
    ∀ i, 0 < i → i + 1 < readings → (world.ticks i).shown ≤ deadline := by
  intro i first last
  cases turn with
  | start => exact absurd last (Nat.not_lt.2 (Nat.succ_le_succ (Nat.zero_le i)))
  | met earlier vain found => exact (met earlier vain found).inTime i first (Nat.lt_of_succ_lt last)
  | @unmet _ _ readings _ earlier expires =>
    rcases Nat.lt_or_ge i readings with early | late
    · exact earlier.inTime i first early
    · obtain ⟨i, rfl⟩ := Nat.exists_eq_add_of_le late
      rw [World.ticks_add]
      exact (expires.vain i (by omega)).2

/-- There is a reading past the deadline if and only if a wait was in vain. -/
theorem late_iff (turn : InTurn world deadline aims unmet readings) :
    (∃ i, 0 < i ∧ i < readings ∧ deadline < (world.ticks i).shown) ↔ unmet ≠ none := by
  constructor
  · rintro ⟨i, first, last, late⟩ rfl
    exact Int64.not_lt.2 (turn.inTime i first last) late
  · intro vain
    cases turn with
    | start | met _ _ _ => exact absurd rfl vain
    | @unmet _ _ readings probes earlier expires =>
      refine ⟨readings + probes, Nat.add_pos_left earlier.pos _, Nat.lt_succ_self _, ?_⟩
      rw [World.ticks_add]
      exact expires.late

/-- The probe before the last reading of a wait in vain found nothing. -/
theorem lacking {aim : Aim} (turn : InTurn world deadline aims (some aim) readings) :
    aim.Lacks (world.ticks (readings - 1)).storage := by
  cases turn with
  | unmet _ expires =>
    rw [Nat.add_sub_cancel, World.ticks_add]
    exact expires.lacking

end InTurn

/-! ## One wait after the other -/

/-- An environment that a call has come to past some waits. -/
def Environment.Past (environment : Environment) (world : World) (deadline : Milliseconds)
    (aims : List Aim) (unmet : Option Aim) : Prop :=
  ∃ readings, InTurn world deadline aims unmet readings ∧ environment.world = world.ticks readings

theorem Environment.Past.reporting {environment : Environment} {world : World}
    {deadline : Milliseconds} {aims : List Aim} {unmet : Option Aim}
    (past : environment.Past world deadline aims unmet) (reports : List Report) :
    (environment.reporting reports).Past world deadline aims unmet := past

/-- The size of what a path leads to, if that is at least some size. -/
def Storage.sizeFrom? (storage : Storage) (path : String) (required : Nat) : Option Nat :=
  (storage.sizeOf? path).filter fun size => required ≤ size

theorem Aim.lacks_file_iff {path : String} {required : Nat} {storage : Storage} :
    storage.sizeFrom? path required = none ↔ (Aim.file path required).Lacks storage := by
  simp only [Storage.sizeFrom?, Option.filter_eq_none_iff, decide_eq_true_eq, Nat.not_le]
  rfl

/-- A look for a file of some size. -/
theorem Handshake.run_fileProbe (path : String) (required : Nat) (environment : Environment) :
    (do
      let size ← Observer.look fun storage => .ok (storage.sizeOf? path)
      pure (size.filter fun size => required ≤ size) : Activity (Option Nat)).run environment =
    .returned (environment.storage.sizeFrom? path required) environment := by
  rw [Activity.run_bind_of_returned _ (Activity.run_look _ _)]
  rfl

/-- A wait for a file is still going on, in time, finds it, or is refused at the deadline. -/
theorem Handshake.run_awaitFile (path : String) (required : Nat) (deadline : Milliseconds)
    (rounds : Nat) (environment : Environment) :
    ((awaitFile path required deadline rounds : Activity Unit).run environment = .pending ∧
        environment.world.InTime deadline rounds) ∨
      ∃ result after,
        Waits (·.sizeFrom? path required) deadline environment.world result after ∧
        (awaitFile path required deadline rounds : Activity Unit).run environment =
          .ofExcept (result.elim (.error (.refused (.fileNotFound path))) fun _ => .ok ())
            (environment.inside after) :=
  run_pollUntilDeadline_refusing (run_fileProbe path required) deadline filePollInterval
    (fun _ => ()) (fun _ => rfl) rfl rounds environment

section Wait

variable {α β : Type} {process : Activity β} {seen : Storage → Option α} (give : α → β)
  {world : World} {deadline : Milliseconds} {aims : List Aim} (aim : Aim) {rounds : Nat}
  {environment : Environment}

/-- A wait goes by the deadline of the waits before it, and if it finds nothing, its refusal is the
failure. -/
theorem ensures_wait (lacks : ∀ storage, seen storage = none ↔ aim.Lacks storage)
    (runs : (process.run environment = .pending ∧ environment.world.InTime deadline rounds) ∨
      ∃ result after, Waits seen deadline environment.world result after ∧
        process.run environment =
          .ofExcept (result.elim (.error (.refused aim.refusal)) fun value => .ok (give value))
            (environment.inside after))
    (past : environment.Past world deadline aims none) :
    (process.run environment).Ensures
      (fun value after => after.Past world deadline (aims ++ [aim]) none ∧
        ∃ found, seen after.storage = some found ∧ value = give found)
      (fun failure after => after.Past world deadline (aims ++ [aim]) (some aim) ∧
        failure = .refused aim.refusal)
      (world.tick.InTime deadline rounds) := by
  obtain ⟨readings, turn, reached⟩ := past
  have empty : (fun storage => seen storage = none) = aim.Lacks :=
    funext fun storage => propext (lacks storage)
  rcases runs with ⟨pending, rest⟩ | ⟨result, after, waits, run⟩
  · rw [pending]
    have continued : world.tick.ticks (readings - 1) = environment.world := by
      rw [reached, ← World.ticks_succ, Nat.sub_add_cancel turn.pos]
    exact (turn.inTime_tick.add (continued ▸ rest)).mono (Nat.le_add_left _ _)
  · rw [run]
    cases result with
    | none =>
      obtain ⟨probes, expires, rfl⟩ := waits_none_iff.1 waits
      rw [empty, reached] at expires
      refine ⟨⟨_, turn.unmet expires, ?_⟩, rfl⟩
      rw [Environment.world_inside, reached, ← World.ticks_add]
      rfl
    | some found =>
      obtain ⟨probes, finds, rfl⟩ := waits_some_iff.1 waits
      have vain := finds.vain
      have there : ¬ aim.Lacks (environment.world.ticks probes).storage :=
        fun lacking => nomatch finds.found.symm.trans ((lacks _).2 lacking)
      rw [empty, reached] at vain
      rw [reached, ← World.ticks_add] at there
      exact ⟨⟨_, turn.met vain there, by rw [Environment.world_inside, reached, ← World.ticks_add]⟩,
        found, waits.seen_after, rfl⟩

end Wait

/-! ## The calls that wait -/

/-- The calls that wait for an owner. -/
inductive Call : Type → Type where
  /-- Attaches to the file in a directory. -/
  | attach (handshake : Handshake) (directory filename : String) : Call Handle
  /-- Decides whether the owner of a region is alive. -/
  | decide (handshake : Handshake) (region : Option Region) : Call Bool
  /-- Decides whether the owner of a handle's region is alive. -/
  | follow (handshake : Handshake) (handle : Handle) : Call Bool

namespace Call

variable {α : Type}

/-- What a call does. -/
def activity : {α : Type} → Call α → (rounds : Nat) → Activity α
  | _, attach handshake directory filename, rounds =>
    handshake.openExisting directory filename rounds
  | _, decide handshake region, rounds => handshake.isActive region rounds
  | _, follow handshake handle, rounds => handle.isActive handshake rounds

/-- The settings of a call. -/
def handshake : {α : Type} → Call α → Handshake
  | _, attach handshake _ _ => handshake
  | _, decide handshake _ => handshake
  | _, follow handshake _ => handshake

/-- What the waits of a call wait for if they all go well.  An attachment does so in a region that
it maps, the other calls in a region that they are given. -/
def plan : {α : Type} → Call α → (mapped : Region) → List Aim
  | _, attach handshake directory filename, mapped =>
    [.file (Path.join directory filename) (handshake.layout.timestampOffset + timestampSize),
      .version ⟨mapped, handshake.layout⟩, .heartbeat ⟨mapped, handshake.layout⟩]
  | _, decide _ none, _ => []
  | _, decide handshake (some region), _ =>
    [.version ⟨region, handshake.layout⟩, .heartbeat ⟨region, handshake.layout⟩]
  | _, follow _ handle, _ =>
    match handle.view with
    | none => []
    | some view => [.version ⟨view.region, handle.layout⟩, .heartbeat ⟨view.region, handle.layout⟩]

/-- How often a call reads the clock after its waits. -/
def closing : {α : Type} → Call α → Nat
  | _, attach _ _ _ => 0
  | _, decide _ _ => 1
  | _, follow _ _ => 1

/-- How many readings a call makes at most if they strictly increase. -/
def budget {α : Type} (call : Call α) : Nat := (max call.handshake.timeout.toInt 0).toNat + 2

/-- The handle of a call is one that was made for its region. -/
def Proper : {α : Type} → Call α → Prop
  | _, follow _ handle =>
    ∀ view, handle.view = some view → (⟨view.region, handle.layout⟩ : ControlFields).Fit
  | _, _ => True

/-- An attachment maps a region where its wait for the file ends. -/
def Opens (world : World) (deadline : Milliseconds) (mapped : Region) : {α : Type} → Call α → Prop
  | _, attach handshake directory filename => ∃ readings,
    InTurn world deadline
      [.file (Path.join directory filename) (handshake.layout.timestampOffset + timestampSize)]
      none readings ∧
    (world.ticks readings).storage.mapWhole (Path.join directory filename) = .ok mapped
  | _, _ => True

end Call

/-! ## How the calls go -/

/-- Why a call fails: since a wait was in vain, or for another reason.  The latter is a timeout only
if the version check says so. -/
def Handshake.Blames (handshake : Handshake) (failure : Failure) : Option Aim → Prop
  | some aim => failure = .refused aim.refusal
  | none => ∀ refusal, failure = .refused refusal → refusal.class? = some .timeout →
      ∃ version, version ≠ 0 ∧ handshake.check version = .error refusal

/-- A call fails past some waits of a plan. -/
def Handshake.FailsPast (handshake : Handshake) (world : World) (plan : List Aim)
    (failure : Failure) (after : Environment) : Prop :=
  ∃ aims unmet, aims <+: plan ∧ after.Past world (handshake.deadlineIn world) aims unmet ∧
    handshake.Blames failure unmet

namespace Handshake

variable {handshake : Handshake} {fields : ControlFields}

/-- The deadline of a call comes before its waits. -/
theorem past_deadline (handshake : Handshake) (environment : Environment) :
    (environment.inside environment.world.tick).Past environment.world
      (handshake.deadlineIn environment.world) [] none := ⟨1, .start, rfl⟩

section Fields

variable (fit : fields.Fit) {world : World} {deadline : Milliseconds} {aims : List Aim}
  {environment : Environment} (past : environment.Past world deadline aims none) (rounds : Nat)

include fit past

theorem ensures_awaitVersion :
    ((fields.awaitVersion deadline rounds : Activity Int32).run environment).Ensures
      (fun version after => after.Past world deadline (aims ++ [.version fields]) none ∧
        version ≠ 0)
      (fun failure after =>
        after.Past world deadline (aims ++ [.version fields]) (some (.version fields)) ∧
          failure = .refused .notInitialized)
      (world.tick.InTime deadline rounds) := by
  refine (ensures_wait id (.version fields) (fun _ => nonzero?_eq_none)
    (ControlFields.run_awaitVersion fit deadline rounds environment) past).imp ?_ ?_ id
  · rintro version after ⟨past, found, seen, rfl⟩
    exact ⟨past, (nonzero?_eq_some.1 seen).2⟩
  · exact fun _ _ => id

theorem ensures_awaitHeartbeat :
    ((fields.awaitHeartbeat deadline rounds : Activity Milliseconds).run environment).Ensures
      (fun _ after => after.Past world deadline (aims ++ [.heartbeat fields]) none)
      (fun failure after =>
        after.Past world deadline (aims ++ [.heartbeat fields]) (some (.heartbeat fields)) ∧
          failure = .refused .noHeartbeat)
      (world.tick.InTime deadline rounds) :=
  (ensures_wait id (.heartbeat fields) (fun _ => nonzero?_eq_none)
    (ControlFields.run_awaitHeartbeat fit deadline rounds environment) past).imp
    (fun _ _ => And.left) (fun _ _ => id) id

end Fields

/-- A decision waits for a version and for a heartbeat, and reads the clock once more if both waits
go well and the version is accepted. -/
theorem ensures_isActiveOn (fit : fields.Fit) (rounds : Nat) (environment : Environment) :
    let plan := [Aim.version fields, .heartbeat fields]
    let deadline := handshake.deadlineIn environment.world
    ((handshake.isActiveOn fields rounds : Activity Bool).run environment).Ensures
      (fun _ after => ∃ readings, InTurn environment.world deadline plan none readings ∧
        after.world = environment.world.ticks (readings + 1))
      (handshake.FailsPast environment.world plan)
      (environment.world.tick.InTime deadline rounds) := by
  intro plan deadline
  unfold isActiveOn
  rw [Activity.run_bind_of_returned _ (run_deadline handshake environment)]
  apply Outcome.Ensures.bind
  refine (ensures_awaitVersion fit (past_deadline handshake environment) rounds).imp ?_ ?_ id
  · rintro version published ⟨past, nonzero⟩
    apply Outcome.Ensures.bind
    refine (ensures_awaitHeartbeat fit past rounds).imp ?_ ?_ id
    · rintro timestamp sighted ⟨readings, turn, reached⟩
      rw [run_verdict]
      cases checked : handshake.check version with
      | error refusal =>
        refine ⟨plan, none, List.prefix_rfl, ⟨readings, turn, reached⟩, ?_⟩
        rintro _ ⟨⟩ _
        exact ⟨version, nonzero, checked⟩
      | ok =>
        refine ⟨readings, turn, ?_⟩
        rw [Environment.world_reporting, Environment.world_inside, reached, World.tick_ticks]
    · rintro failure after ⟨past, rfl⟩
      exact ⟨plan, _, List.prefix_rfl, past, rfl⟩
  · rintro failure after ⟨past, rfl⟩
    exact ⟨[.version fields], _, ⟨[.heartbeat fields], rfl⟩, past, rfl⟩

/-- A region that cannot carry the layout is no timeout. -/
theorem blames_of_check {region : Region} {failure : Failure}
    (unfit : handshake.layout.check region = .error failure) : handshake.Blames failure none := by
  rintro refusal rfl timeout
  cases (Layout.class?_of_verify unfit).symm.trans timeout

variable {directory filename path : String}

/-- An attachment waits for a file and maps it. -/
theorem ensures_mapWhenPresent {world : World} {environment : Environment}
    (past : environment.Past world (handshake.deadlineIn world) [] none) (rounds : Nat) :
    let file := Aim.file path (handshake.layout.timestampOffset + timestampSize)
    ((handshake.mapWhenPresent path (handshake.deadlineIn world) rounds :
        Activity Region).run environment).Ensures
      (fun region after => after.Past world (handshake.deadlineIn world) [file] none ∧
        after.storage.mapWhole path = .ok region)
      (handshake.FailsPast world [file])
      (world.tick.InTime (handshake.deadlineIn world) rounds) := by
  intro file
  unfold mapWhenPresent
  apply Outcome.Ensures.bind
  rw [Activity.run_look]
  by_cases representable : handshake.layout.Representable
  · rw [Layout.requiredLength_eq_ok representable]
    apply Outcome.Ensures.bind
    refine (ensures_wait (fun _ => ()) file (fun _ => Aim.lacks_file_iff)
      (run_awaitFile path _ _ rounds environment) past).imp ?_ ?_ id
    · rintro _ sized ⟨past, _⟩
      rw [Activity.run_bind_of_returned _ (Activity.run_log_eq _ _ _), Activity.run_look,
        Environment.storage_reporting]
      apply Outcome.Ensures.of_ofExcept
      · intro region mapped
        exact ⟨past, filesResult_eq_ok_iff.1 mapped⟩
      · intro failure unmapped
        obtain ⟨cause, rfl⟩ := filesResult_eq_error unmapped
        refine ⟨[file], none, List.prefix_rfl, past, ?_⟩
        rintro _ ⟨⟩ timeout
        cases timeout
    · rintro failure after ⟨past, rfl⟩
      exact ⟨[file], _, List.prefix_rfl, past, rfl⟩
  · have overflow : handshake.layout.requiredLength = .error .sumTooLarge :=
      if_neg representable
    rw [overflow]
    exact ⟨[], none, List.nil_prefix, past, nofun⟩

/-- An attachment waits for a file, maps it, and waits in it for a version and for a heartbeat. -/
theorem ensures_openExisting (rounds : Nat) (environment : Environment) :
    let call := Call.attach handshake directory filename
    let world := environment.world
    let deadline := handshake.deadlineIn world
    ((handshake.openExisting directory filename rounds : Activity Handle).run environment).Ensures
      (fun _ after => ∃ mapped, call.Opens world deadline mapped ∧
        after.Past world deadline (call.plan mapped) none)
      (fun failure after => ∃ mapped aims unmet, aims <+: call.plan mapped ∧
        (1 < aims.length → call.Opens world deadline mapped) ∧
        after.Past world deadline aims unmet ∧ handshake.Blames failure unmet)
      (world.tick.InTime deadline rounds) := by
  intro call world deadline
  unfold openExisting
  rw [Activity.run_bind_of_returned _ (run_deadline handshake environment)]
  apply Outcome.Ensures.bind
  refine (ensures_mapWhenPresent (past_deadline handshake environment) rounds).imp ?_ ?_ id
  · rintro region sized ⟨past, mapped⟩
    have opens : call.Opens world deadline region := by
      obtain ⟨readings, turn, reached⟩ := past
      exact ⟨readings, turn, by rw [← reached]; exact mapped⟩
    have fails {failure : Failure} {after : Environment}
        (failed : handshake.FailsPast world (call.plan region) failure after) :
        ∃ mapped aims unmet, aims <+: call.plan mapped ∧
          (1 < aims.length → call.Opens world deadline mapped) ∧
          after.Past world deadline aims unmet ∧ handshake.Blames failure unmet := by
      obtain ⟨aims, unmet, reached, past, blames⟩ := failed
      exact ⟨region, aims, unmet, reached, fun _ => opens, past, blames⟩
    apply Outcome.Ensures.bind
    rw [requireFit, Activity.run_look]
    apply Outcome.Ensures.of_ofExcept
    · intro _ fits
      have fit : (⟨region, handshake.layout⟩ : ControlFields).Fit := fits
      apply Outcome.Ensures.bind
      refine (ensures_awaitVersion fit past rounds).imp ?_ ?_ id
      · rintro version published ⟨past, nonzero⟩
        apply Outcome.Ensures.bind
        rw [Activity.run_consult]
        cases checked : handshake.check version with
        | error refusal =>
          refine fails ⟨_, none, ⟨[.heartbeat ⟨region, handshake.layout⟩], rfl⟩, past, ?_⟩
          rintro _ ⟨⟩ _
          exact ⟨version, nonzero, checked⟩
        | ok =>
          apply Outcome.Ensures.bind
          refine (ensures_awaitHeartbeat fit (past.reporting _) rounds).imp ?_ ?_ id
          · intro timestamp sighted past
            rw [Activity.run_bind_of_returned _ (Activity.run_report _ _), Activity.run_look,
              Handle.ofView, fits]
            exact ⟨region, opens, past⟩
          · rintro failure after ⟨past, rfl⟩
            exact fails ⟨_, _, List.prefix_rfl, past, rfl⟩
      · rintro failure after ⟨past, rfl⟩
        exact fails ⟨_, _, ⟨[.heartbeat ⟨region, handshake.layout⟩], rfl⟩, past, rfl⟩
    · intro failure unfit
      exact fails ⟨_, none, ⟨[.version _, .heartbeat _], rfl⟩, past, blames_of_check unfit⟩
  · rintro failure after ⟨aims, unmet, reached, past, blames⟩
    -- No region is mapped, so any will do.
    refine ⟨.mapping 0 0 0, aims, unmet, reached.trans ⟨[.version _, .heartbeat _], rfl⟩, ?_, past,
      blames⟩
    intro long
    exact absurd reached.length_le (Nat.not_le.2 long)

end Handshake

/-! ## The readings of a call -/

namespace Call

/-- How a call goes that reads the clock: the waits that it comes to, which of them is in vain, if
any, and how often the clock was read when the last of them ends. -/
structure Goes {α : Type} (call : Call α) (world : World) (result : Except Failure α)
    (after : World) (aims : List Aim) (unmet : Option Aim) (readings : Nat) : Prop where
  /-- The waits follow each other and go by one deadline. -/
  inTurn : InTurn world (call.handshake.deadlineIn world) aims unmet readings
  /-- They are the first waits of the plan, and all of them if the call succeeds. -/
  planned : ∃ mapped,
    (1 < aims.length → call.Opens world (call.handshake.deadlineIn world) mapped) ∧
    aims <+: call.plan mapped ∧ ∀ value, result = .ok value → aims = call.plan mapped
  /-- A call that succeeds had no wait in vain. -/
  succeeds : ∀ value, result = .ok value →
    unmet = none ∧ after = world.ticks (readings + call.closing)
  /-- A call that fails reads the clock no more. -/
  fails : ∀ failure, result = .error failure →
    call.handshake.Blames failure unmet ∧ after = world.ticks readings

/-- A call ends without a reading of the clock: there is no region, or it cannot carry the
layout. -/
def EndsAtOnce : {α : Type} → Call α → Except Failure α → Prop
  | _, attach _ _ _, _ => False
  | _, decide _ none, result => result = .ok false
  | _, decide handshake (some region), result =>
    ∃ failure, handshake.layout.check region = .error failure ∧ result = .error failure
  | _, follow _ handle, result => handle.view = none ∧ result = .ok false

/-- A call that ends without a reading is no timeout. -/
theorem EndsAtOnce.class?_ne {α : Type} {call : Call α} {refusal : Refusal}
    (atOnce : call.EndsAtOnce (.error (.refused refusal))) : refusal.class? ≠ some .timeout := by
  intro timeout
  cases call with
  | attach _ _ _ => exact atOnce
  | decide _ region =>
    cases region with
    | none => cases atOnce
    | some _ =>
      obtain ⟨_, unfit, ⟨⟩⟩ := atOnce
      cases (Layout.class?_of_verify unfit).symm.trans timeout
  | follow _ _ => cases atOnce.2

section Fields

variable {handshake : Handshake} {fields : ControlFields}

/-- A call that decides on control fields goes through the two waits of a decision. -/
theorem goes_of_decision (call : Call Bool) (same : call.handshake = handshake)
    (plan : ∀ mapped, call.plan mapped = [.version fields, .heartbeat fields])
    (opens : ∀ world deadline mapped, call.Opens world deadline mapped) (once : call.closing = 1)
    (fit : fields.Fit) (rounds : Nat) (environment : Environment) :
    ((handshake.isActiveOn fields rounds : Activity Bool).run environment).Ensures
      (fun value after => ∃ aims unmet readings,
        call.Goes environment.world (.ok value) after.world aims unmet readings)
      (fun failure after => ∃ aims unmet readings,
        call.Goes environment.world (.error failure) after.world aims unmet readings)
      (environment.world.tick.InTime (handshake.deadlineIn environment.world) rounds) := by
  subst same
  -- No region is mapped, so any will do.
  let mapped : Region := .mapping 0 0 0
  refine (Handshake.ensures_isActiveOn fit rounds environment).imp ?_ ?_ id
  · rintro value after ⟨readings, turn, ended⟩
    have all := plan mapped
    exact ⟨_, none, readings, turn, ⟨mapped, fun _ => opens _ _ _, all ▸ List.prefix_rfl,
      fun _ _ => all.symm⟩, fun _ _ => ⟨rfl, once ▸ ended⟩, nofun⟩
  · rintro failure after ⟨aims, unmet, reached, ⟨readings, turn, ended⟩, blames⟩
    refine ⟨aims, unmet, readings, turn, ⟨mapped, fun _ => opens _ _ _, ?_, nofun⟩, nofun, ?_⟩
    · rw [plan]
      exact reached
    · rintro _ ⟨⟩
      exact ⟨blames, ended⟩

end Fields

/-- A call ends without a reading, or goes through its waits, or is still going on and has read the
clock in time so far. -/
theorem ensures_activity {α : Type} (call : Call α) (proper : call.Proper) (rounds : Nat)
    (environment : Environment) :
    ((call.activity rounds).run environment).Ensures
      (fun value after => (after.world = environment.world ∧ call.EndsAtOnce (.ok value)) ∨
        ∃ aims unmet readings,
          call.Goes environment.world (.ok value) after.world aims unmet readings)
      (fun failure after => (after.world = environment.world ∧ call.EndsAtOnce (.error failure)) ∨
        ∃ aims unmet readings,
          call.Goes environment.world (.error failure) after.world aims unmet readings)
      (environment.world.tick.InTime (call.handshake.deadlineIn environment.world) rounds) := by
  cases call with
  | attach handshake directory filename =>
    refine (Handshake.ensures_openExisting rounds environment).imp ?_ ?_ id
    · rintro handle after ⟨mapped, opens, readings, turn, ended⟩
      exact .inr ⟨_, none, readings, turn,
        ⟨mapped, fun _ => opens, List.prefix_rfl, fun _ _ => rfl⟩,
        fun _ _ => ⟨rfl, ended⟩, nofun⟩
    · rintro failure after ⟨mapped, aims, unmet, reached, opens, ⟨readings, turn, ended⟩, blames⟩
      refine .inr ⟨aims, unmet, readings, turn, ⟨mapped, opens, reached, nofun⟩, nofun, ?_⟩
      rintro _ ⟨⟩
      exact ⟨blames, ended⟩
  | decide handshake region =>
    cases region with
    | none => exact .inl ⟨rfl, rfl⟩
    | some region =>
      apply Outcome.Ensures.bind
      rw [Handshake.requireFit, Activity.run_look]
      apply Outcome.Ensures.of_ofExcept
      · intro _ fit
        exact (goes_of_decision (.decide handshake (some region)) rfl (fun _ => rfl)
          (fun _ _ _ => trivial) rfl fit rounds environment).imp
          (fun _ _ => .inr) (fun _ _ => .inr) id
      · intro failure unfit
        exact .inl ⟨rfl, failure, unfit, rfl⟩
  | follow handshake handle =>
    obtain ⟨layout, directory, file, view, closed⟩ := handle
    cases view with
    | none => exact .inl ⟨rfl, rfl, rfl⟩
    | some view =>
      have fit : (⟨view.region, layout⟩ : ControlFields).Fit := proper view rfl
      exact (goes_of_decision (.follow handshake ⟨layout, directory, file, some view, closed⟩) rfl
        (fun _ => rfl) (fun _ _ _ => trivial) rfl fit rounds environment).imp
        (fun _ _ => .inr) (fun _ _ => .inr) id

section Readings

variable {α : Type} {call : Call α} {world after : World} {result : Except Failure α}
  {aims : List Aim} {unmet : Option Aim} {readings : Nat}

/-- A reading of a wait is past the deadline if and only if the call fails since that wait was in
vain, and it is then the last reading of the call. -/
theorem Goes.late_iff (goes : call.Goes world result after aims unmet readings) :
    (∃ i, 0 < i ∧ i < readings ∧ call.handshake.deadlineIn world < (world.ticks i).shown) ↔
      ∃ aim, unmet = some aim ∧ aim.Lacks (world.ticks (readings - 1)).storage ∧
        result = .error (.refused aim.refusal) ∧ after = world.ticks readings := by
  rw [goes.inTurn.late_iff]
  constructor
  · intro vain
    obtain ⟨aim, rfl⟩ := Option.ne_none_iff_exists'.1 vain
    cases result with
    | ok value => exact absurd (goes.succeeds value rfl).1 vain
    | error failure =>
      obtain ⟨blames, reached⟩ := goes.fails failure rfl
      exact ⟨aim, rfl, goes.inTurn.lacking, congrArg Except.error blames, reached⟩
  · rintro ⟨aim, rfl, _⟩
    exact Option.some_ne_none aim

/-- A call fails with a timeout only if a reading of a wait is past the deadline, or if the version
check names one. -/
theorem Goes.late_of_timeout {refusal : Refusal}
    (goes : call.Goes world (.error (.refused refusal)) after aims unmet readings)
    (timeout : refusal.class? = some .timeout) :
    (∃ i, 0 < i ∧ i < readings ∧ call.handshake.deadlineIn world < (world.ticks i).shown) ∨
      ∃ version, version ≠ 0 ∧ call.handshake.check version = .error refusal := by
  rw [goes.inTurn.late_iff]
  cases unmet with
  | none => exact .inr ((goes.fails _ rfl).1 refusal rfl timeout)
  | some aim => exact .inl (Option.some_ne_none aim)

theorem closing_le (call : Call α) : call.closing ≤ 1 := by
  cases call with
  | attach _ _ _ => exact Nat.zero_le 1
  | decide _ _ | follow _ _ => exact Nat.le_refl 1

/-- After its waits a call reads the clock at most once, and not at all if one of them was in
vain. -/
theorem Goes.ends (goes : call.Goes world result after aims unmet readings) :
    ∃ total, after = world.ticks total ∧ total ≤ readings + 1 ∧
      (unmet ≠ none → total = readings) := by
  cases result with
  | ok value =>
    obtain ⟨met, ended⟩ := goes.succeeds value rfl
    exact ⟨_, ended, Nat.add_le_add_left call.closing_le readings, fun vain => absurd met vain⟩
  | error failure => exact ⟨_, (goes.fails failure rfl).2, Nat.le_succ _, fun _ => rfl⟩

variable (fits : world.shown.toInt + call.handshake.timeout.toInt < Int64.maxValue.toInt)
  (rising : world.Rising call.budget)

include fits rising

/-- If the readings strictly increase, the last one within the budget is past the deadline. -/
theorem late_of_rising :
    call.handshake.deadlineIn world < (world.ticks (call.budget - 1)).shown := by
  apply Int64.not_le.1
  intro early
  have most := rising.le_of_inTime fits (Nat.sub_lt (Nat.succ_pos _) Nat.one_pos) early
  simp only [budget] at most
  omega

/-- If the readings strictly increase, the timeout bounds their number. -/
theorem Goes.le_budget (goes : call.Goes world result after aims unmet readings) :
    ∃ total, after = world.ticks total ∧ total ≤ call.budget := by
  obtain ⟨total, ended, most, vain⟩ := goes.ends
  refine ⟨total, ended, Nat.le_of_not_lt ?_⟩
  intro more
  apply Int64.not_le.2 (late_of_rising fits rising)
  have pos : 0 < call.budget - 1 := Nat.succ_pos _
  by_cases met : unmet = none
  · subst met
    exact goes.inTurn.inTime _ pos (by omega)
  · have last := vain met
    exact goes.inTurn.inTime_of_lt _ pos (by omega)

end Readings

section Runs

variable {α : Type} {call : Call α} (proper : call.Proper) {environment : Environment}
  {rounds : Nat} {result : Except Failure α} {after : Environment}

include proper

/-- A call that ends does so without a reading, or goes through its waits. -/
theorem ends_or_goes (run : (call.activity rounds).run environment = .ofExcept result after) :
    (after.world = environment.world ∧ call.EndsAtOnce result) ∨
      ∃ aims unmet readings,
        call.Goes environment.world result after.world aims unmet readings := by
  have ensures := call.ensures_activity proper rounds environment
  rw [run] at ensures
  cases result with
  | ok _ | error _ => exact ensures

variable (fits : environment.world.shown.toInt + call.handshake.timeout.toInt <
    Int64.maxValue.toInt)
  (rising : environment.world.Rising call.budget)

include fits rising

/-- If the readings strictly increase, the timeout bounds the number of those that a call makes. -/
theorem le_budget (run : (call.activity rounds).run environment = .ofExcept result after) :
    ∃ total, after.world = environment.world.ticks total ∧ total ≤ call.budget := by
  rcases ends_or_goes proper run with ⟨still, _⟩ | ⟨aims, unmet, readings, goes⟩
  · exact ⟨0, still, Nat.zero_le _⟩
  · exact goes.le_budget fits rising

/-- If the readings strictly increase, a call ends within as many rounds as it may make readings. -/
theorem not_pending (many : call.budget ≤ rounds) :
    (call.activity rounds).run environment ≠ .pending := by
  intro run
  have inTime := call.ensures_activity proper rounds environment
  rw [run] at inTime
  exact Int64.not_le.2 (late_of_rising fits rising) (inTime _ (Nat.lt_of_succ_lt many))

end Runs

/-- The waits of a call share one deadline, and the readings of a call are bounded.

A call that ends does so without a reading, and then not with a timeout, or goes through its waits.
All readings of the waits are in time, except that the last one of a call that fails since a wait
was in vain is not, and that call reads the clock no more.  A timeout has no other reason, unless
the version check itself names one.

If the readings strictly increase and the deadline lies below the greatest time, a call makes at
most two readings more than the timeout has milliseconds, and it ends within as many rounds.

That others cut the file short under a mapping is not among what can happen here.  It would end the
process amid its readings, of which all that is said here of readings and deadline is so. -/
theorem waits_share_one_deadline {α : Type} (call : Call α) (proper : call.Proper)
    (environment : Environment) :
    let world := environment.world
    let timeout := call.handshake.timeout
    let deadline := world.shown.saturatingAdd timeout
    let bounded := world.shown.toInt + timeout.toInt < Int64.maxValue.toInt
    (∀ rounds result after,
      (call.activity rounds).run environment = .ofExcept result after →
      (after.world = world ∧ call.EndsAtOnce result ∧
        ∀ refusal, result = .error (.refused refusal) → refusal.class? ≠ some .timeout) ∨
      ∃ aims unmet readings, call.Goes world result after.world aims unmet readings ∧
        (∀ i, 0 < i → i + 1 < readings → (world.ticks i).shown ≤ deadline) ∧
        ((∃ i, 0 < i ∧ i < readings ∧ deadline < (world.ticks i).shown) ↔
          ∃ aim, unmet = some aim ∧ aim.Lacks (world.ticks (readings - 1)).storage ∧
            result = .error (.refused aim.refusal) ∧ after.world = world.ticks readings) ∧
        (∀ refusal, result = .error (.refused refusal) → refusal.class? = some .timeout →
          (∃ i, 0 < i ∧ i < readings ∧ deadline < (world.ticks i).shown) ∨
            ∃ version, version ≠ 0 ∧ call.handshake.check version = .error refusal)) ∧
    (∀ rounds result after total,
      (call.activity rounds).run environment = .ofExcept result after →
      after.world = world.ticks total → bounded → world.Rising total → total ≤ call.budget) ∧
    (bounded → world.Rising call.budget → ∀ rounds, call.budget ≤ rounds →
      ∃ result after total, (call.activity rounds).run environment = .ofExcept result after ∧
        after.world = world.ticks total ∧ total ≤ call.budget) := by
  intro world timeout deadline bounded
  refine ⟨?course, ?bound, ?termination⟩
  case course =>
    intro rounds result after run
    rcases ends_or_goes proper run with ⟨still, atOnce⟩ | ⟨aims, unmet, readings, goes⟩
    · refine .inl ⟨still, atOnce, ?_⟩
      rintro refusal rfl
      exact atOnce.class?_ne
    · refine .inr ⟨aims, unmet, readings, goes, goes.inTurn.inTime_of_lt, goes.late_iff, ?_⟩
      rintro refusal rfl
      exact goes.late_of_timeout
  case bound =>
    intro rounds result after total run reached fits rising
    refine Nat.le_of_not_lt ?_
    intro more
    obtain ⟨other, reached', most⟩ :=
      le_budget proper fits (rising.mono (Nat.le_of_lt more)) run
    obtain rfl : total = other := World.ticks_injective (reached.symm.trans reached')
    exact Nat.not_lt.2 most more
  case termination =>
    intro fits rising rounds many
    cases run : (call.activity rounds).run environment with
    | returned value after =>
      have ended : _ = Outcome.ofExcept (.ok value) after := run
      obtain ⟨total, reached, most⟩ := le_budget proper fits rising ended
      exact ⟨.ok value, after, total, rfl, reached, most⟩
    | failed failure after =>
      have ended : _ = Outcome.ofExcept (.error failure) after := run
      obtain ⟨total, reached, most⟩ := le_budget proper fits rising ended
      exact ⟨.error failure, after, total, rfl, reached, most⟩
    | pending => exact absurd run (not_pending proper fits rising many)

/-- On a clock that each reading moves on by a millisecond, a decision with a timeout of a
millisecond ends after at most three readings, here on a region whose owner never comes. -/
theorem waits_share_one_deadline_brief :
    let settings : Handshake := { Handshake.ofOwned with timeout := 1 }
    let handle : Handle := ⟨settings.layout, none, none, some ⟨.mapping 1 0 16, .owned⟩, false⟩
    let call := follow settings handle
    let environment : Environment := ⟨.ticking 120 1, .owned, []⟩
    call.Proper ∧ ∃ result after total,
      (call.activity 3).run environment = .ofExcept result after ∧
        after.world = environment.world.ticks total ∧ total ≤ 3 := by
  intro settings handle call environment
  have proper : call.Proper := by
    rintro view ⟨⟩
    exact ControlFields.fit_ofFile (by decide) (by decide) (by decide) 1 (Nat.le_refl _)
  have rising : environment.world.Rising 3 := by
    intro i below
    obtain rfl | rfl : i = 0 ∨ i = 1 := by omega
    · decide
    · decide
  exact ⟨proper, (waits_share_one_deadline call proper environment).2.2 (by decide +kernel) rising 3
    (Nat.le_refl 3)⟩

end Call

end Heartbeat
