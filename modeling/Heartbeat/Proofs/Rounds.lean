import Heartbeat.Proofs.World
import Mathlib.Logic.Function.Iterate

/-!
# The rounds of a wait

A wait is written for every kind of computation that can read a clock and pause, and its probe may
be any such computation.  Here it runs in surroundings of which nothing is known
(`Surroundings`): probes, readings of the clock and pauses go from state to state, so what each of
them gives may depend on all that happened before it and change all that comes after it.  A `Waiter`
counts the probes and the readings that it makes.

The rounds of a wait follow each other (`Surroundings.before`) until a probe finds something or a
reading is past the deadline (`Surroundings.EndsIn`), and `returns_pollUntilDeadline_iff` says that
a wait returns in exactly these ways.  For a clock that moves on steadily the number of rounds is a
quotient (`endsIn_of_steady`).

The surroundings of a process are its environment (`Surroundings.ofProbe`), and there a wait runs as
an activity runs (`run_pollUntilDeadline_eq`).
-/

set_option autoImplicit false

namespace Heartbeat

variable {σ α β : Type}

/-- What a wait does to the states of its surroundings, and what it learns from them. -/
structure Surroundings (σ α : Type) where
  /-- A probe. -/
  probe : σ → Option α × σ
  /-- A reading of the clock. -/
  read : σ → Milliseconds × σ
  /-- A pause of some milliseconds. -/
  pause : Nat → σ → σ

/-- A state in the course of a wait. -/
structure Moment (σ : Type) where
  /-- The state of the surroundings. -/
  state : σ
  /-- How many probes were made. -/
  probes : Nat
  /-- How often the clock was read. -/
  readings : Nat

/-! ## Waits in any surroundings -/

/-- A computation that waits in given surroundings, and has no result if it used up its rounds. -/
def Waiter (_ : Surroundings σ α) (β : Type) : Type := StateT (Moment σ) Option β

namespace Surroundings

variable (surroundings : Surroundings σ α)

/-- The moment after a probe. -/
def probed (moment : Moment σ) : Moment σ :=
  ⟨(surroundings.probe moment.state).2, moment.probes + 1, moment.readings⟩

/-- The moment after a reading of the clock. -/
def clocked (moment : Moment σ) : Moment σ :=
  ⟨(surroundings.read moment.state).2, moment.probes, moment.readings + 1⟩

/-- The moment after a pause. -/
def paused (milliseconds : Nat) (moment : Moment σ) : Moment σ :=
  { moment with state := surroundings.pause milliseconds moment.state }

/-- Makes a probe. -/
def probing : Waiter surroundings (Option α) :=
  fun moment => some ((surroundings.probe moment.state).1, surroundings.probed moment)

end Surroundings

namespace Waiter

variable {surroundings : Surroundings σ α}

instance : Monad (Waiter surroundings) := inferInstanceAs (Monad (StateT (Moment σ) Option))

instance : Waiting (Waiter surroundings) where
  now moment := some ((surroundings.read moment.state).1, surroundings.clocked moment)
  pause milliseconds moment := some ((), surroundings.paused milliseconds moment)
  exhausted := fun _ => none

/-- Runs a waiter from some moment on. -/
def run (waiter : Waiter surroundings β) (moment : Moment σ) : Option (β × Moment σ) :=
  waiter moment

theorem run_bind {γ : Type} (waiter : Waiter surroundings β) (next : β → Waiter surroundings γ)
    (moment : Moment σ) :
    (waiter >>= next).run moment =
      (waiter.run moment).bind fun reached => (next reached.1).run reached.2 := rfl

/-- Granted enough rounds, a waiter returns a result in some moment. -/
def Returns (waiter : (rounds : Nat) → Waiter surroundings β) (start : Moment σ) (result : β)
    (after : Moment σ) : Prop :=
  ∃ rounds, (waiter rounds).run start = some (result, after)

end Waiter

namespace Surroundings

variable (surroundings : Surroundings σ α) (deadline : Milliseconds) (interval : Nat)

/-- The moment after a round that neither finds anything nor is the last one. -/
def round (moment : Moment σ) : Moment σ :=
  surroundings.paused interval (surroundings.clocked (surroundings.probed moment))

/-- The moment before a round, when none of the rounds before it was the last one. -/
def before (start : Moment σ) (rounds : Nat) : Moment σ :=
  (surroundings.round interval)^[rounds] start

/-- What the probe of a round gives, when none of the rounds before it was the last one. -/
def found (start : Moment σ) (rounds : Nat) : Option α :=
  (surroundings.probe (surroundings.before interval start rounds).state).1

/-- What the clock shows after the probe of a round, when none of the rounds before it was the last
one. -/
def shown (start : Moment σ) (rounds : Nat) : Milliseconds :=
  (surroundings.read
    (surroundings.probed (surroundings.before interval start rounds)).state).1

/-- The first rounds find nothing and are in time, so none of them is the last one. -/
def InVain (start : Moment σ) (rounds : Nat) : Prop :=
  ∀ i, i < rounds →
    surroundings.found interval start i = none ∧ surroundings.shown interval start i ≤ deadline

/-- After some rounds in vain a wait ends in the next one. -/
inductive EndsIn (start : Moment σ) (rounds : Nat) : Option α → Moment σ → Prop where
  | found {value : α} (vain : surroundings.InVain deadline interval start rounds)
      (here : surroundings.found interval start rounds = some value) :
      EndsIn start rounds (some value)
        (surroundings.probed (surroundings.before interval start rounds))
  | expired (vain : surroundings.InVain deadline interval start rounds)
      (empty : surroundings.found interval start rounds = none)
      (late : deadline < surroundings.shown interval start rounds) :
      EndsIn start rounds none
        (surroundings.clocked (surroundings.probed (surroundings.before interval start rounds)))

variable {surroundings deadline interval} {start after : Moment σ} {rounds : Nat}
  {result : Option α}

/-! ## Rounds one after the other -/

/-- Every round makes one probe and one reading. -/
theorem before_counts (rounds : Nat) :
    (surroundings.before interval start rounds).probes = start.probes + rounds ∧
      (surroundings.before interval start rounds).readings = start.readings + rounds := by
  induction rounds with
  | zero => exact ⟨rfl, rfl⟩
  | succ rounds ih =>
    rw [before, Function.iterate_succ_apply']
    exact ⟨congrArg (· + 1) ih.1, congrArg (· + 1) ih.2⟩

/-- The moment in which a wait ends that finds something. -/
theorem probed_before (rounds : Nat) :
    surroundings.probed (surroundings.before interval start rounds) =
      ⟨(surroundings.probe (surroundings.before interval start rounds).state).2,
        start.probes + (rounds + 1), start.readings + rounds⟩ := by
  obtain ⟨probes, readings⟩ := @before_counts _ _ surroundings interval start rounds
  rw [probed, probes, readings, Nat.add_assoc]

/-- The moment in which a wait ends that finds nothing. -/
theorem clocked_probed_before (rounds : Nat) :
    surroundings.clocked (surroundings.probed (surroundings.before interval start rounds)) =
      ⟨(surroundings.read (surroundings.probed
          (surroundings.before interval start rounds)).state).2,
        start.probes + (rounds + 1), start.readings + (rounds + 1)⟩ := by
  obtain ⟨probes, readings⟩ := @before_counts _ _ surroundings interval start rounds
  rw [clocked, probed, probes, readings, Nat.add_assoc, Nat.add_assoc]

theorem inVain_zero : surroundings.InVain deadline interval start 0 :=
  fun _ below => absurd below (Nat.not_lt_zero _)

/-- Rounds in vain are one round in vain and the ones after it. -/
theorem inVain_succ_iff :
    surroundings.InVain deadline interval start (rounds + 1) ↔
      (surroundings.found interval start 0 = none ∧
          surroundings.shown interval start 0 ≤ deadline) ∧
        surroundings.InVain deadline interval (surroundings.round interval start) rounds := by
  constructor
  · intro vain
    exact ⟨vain 0 (Nat.succ_pos _), fun i below => vain (i + 1) (Nat.succ_lt_succ below)⟩
  · rintro ⟨first, rest⟩ i below
    cases i with
    | zero => exact first
    | succ i => exact rest i (Nat.lt_of_succ_lt_succ below)

/-- A wait that does not end in the first round ends in a round after it. -/
theorem endsIn_succ_iff :
    surroundings.EndsIn deadline interval start (rounds + 1) result after ↔
      (surroundings.found interval start 0 = none ∧
          surroundings.shown interval start 0 ≤ deadline) ∧
        surroundings.EndsIn deadline interval (surroundings.round interval start) rounds result
          after := by
  constructor
  · intro ends
    cases ends with
    | found vain here =>
      exact ⟨(inVain_succ_iff.1 vain).1, .found (inVain_succ_iff.1 vain).2 here⟩
    | expired vain empty late =>
      exact ⟨(inVain_succ_iff.1 vain).1, .expired (inVain_succ_iff.1 vain).2 empty late⟩
  · rintro ⟨first, ends⟩
    cases ends with
    | found vain here => exact .found (inVain_succ_iff.2 ⟨first, vain⟩) here
    | expired vain empty late => exact .expired (inVain_succ_iff.2 ⟨first, vain⟩) empty late

/-- A wait ends in one round only. -/
theorem EndsIn.not_inVain (ends : surroundings.EndsIn deadline interval start rounds result after)
    {more : Nat} (later : rounds < more) : ¬ surroundings.InVain deadline interval start more := by
  intro vain
  obtain ⟨empty, early⟩ := vain rounds later
  cases ends with
  | found _ here => exact absurd (here.symm.trans empty) nofun
  | expired _ _ late => exact absurd late (Int64.not_lt.2 early)

theorem EndsIn.inVain (ends : surroundings.EndsIn deadline interval start rounds result after) :
    surroundings.InVain deadline interval start rounds := by
  cases ends with
  | found vain _ => exact vain
  | expired vain _ _ => exact vain

/-- A round after rounds in vain is in vain itself or the last one. -/
theorem endsIn_or_inVain (vain : surroundings.InVain deadline interval start rounds) :
    (∃ result after, surroundings.EndsIn deadline interval start rounds result after) ∨
      surroundings.InVain deadline interval start (rounds + 1) := by
  cases here : surroundings.found interval start rounds with
  | some value => exact .inl ⟨some value, _, .found vain here⟩
  | none =>
    by_cases late : deadline < surroundings.shown interval start rounds
    · exact .inl ⟨none, _, .expired vain here late⟩
    · refine .inr fun i below => ?_
      rcases Nat.lt_succ_iff_lt_or_eq.1 below with earlier | rfl
      · exact vain i earlier
      · exact ⟨here, Int64.not_lt.1 late⟩

/-! ## How waits end -/

/-- One round of a wait. -/
theorem run_round (rounds : Nat) (start : Moment σ) :
    (pollUntilDeadline deadline interval surroundings.probing (rounds + 1)).run start =
      match surroundings.found interval start 0 with
      | some value => some (some value, surroundings.probed start)
      | none =>
        if deadline < surroundings.shown interval start 0 then
          some (none, surroundings.clocked (surroundings.probed start))
        else
          (pollUntilDeadline deadline interval surroundings.probing rounds).run
            (surroundings.round interval start) := by
  rw [pollUntilDeadline, Waiter.run_bind]
  change (match surroundings.found interval start 0 with
    | some value => _
    | none => _ : Waiter surroundings (Option α)).run (surroundings.probed start) = _
  cases surroundings.found interval start 0 with
  | some value => rfl
  | none =>
    change (if deadline < surroundings.shown interval start 0 then _ else _ :
      Waiter surroundings (Option α)).run (surroundings.clocked (surroundings.probed start)) = _
    split <;> rfl

/-- A wait that ends in its first round is over, however many rounds it was granted. -/
theorem run_of_endsIn_zero (ends : surroundings.EndsIn deadline interval start 0 result after)
    (rounds : Nat) :
    (pollUntilDeadline deadline interval surroundings.probing (rounds + 1)).run start =
      some (result, after) := by
  rw [run_round]
  cases ends with
  | found _ here =>
    rw [here]
    rfl
  | expired _ empty late =>
    rw [empty]
    exact if_pos late

/-- A wait whose first round is in vain goes on with the rounds that are left. -/
theorem run_of_inVain_one (vain : surroundings.InVain deadline interval start 1) (rounds : Nat) :
    (pollUntilDeadline deadline interval surroundings.probing (rounds + 1)).run start =
      (pollUntilDeadline deadline interval surroundings.probing rounds).run
        (surroundings.round interval start) := by
  obtain ⟨empty, early⟩ := vain 0 Nat.one_pos
  rw [run_round, empty]
  exact if_neg (Int64.not_lt.2 early)

/-- A wait that is granted some rounds ends in one of them, if it ends. -/
theorem run_pollUntilDeadline_iff (rounds : Nat) :
    (pollUntilDeadline deadline interval surroundings.probing rounds).run start =
        some (result, after) ↔
      ∃ last, last < rounds ∧
        surroundings.EndsIn deadline interval start last result after := by
  induction rounds generalizing start with
  | zero => exact ⟨nofun, fun ⟨_, below, _⟩ => absurd below (Nat.not_lt_zero _)⟩
  | succ rounds ih =>
    constructor
    · intro run
      rcases endsIn_or_inVain inVain_zero with ⟨given, reached, ends⟩ | vain
      · rw [run_of_endsIn_zero ends, Option.some_inj, Prod.mk.injEq] at run
        obtain ⟨rfl, rfl⟩ := run
        exact ⟨0, Nat.succ_pos _, ends⟩
      · rw [run_of_inVain_one vain, ih] at run
        obtain ⟨last, below, ends⟩ := run
        exact ⟨last + 1, Nat.succ_lt_succ below,
          endsIn_succ_iff.2 ⟨vain 0 Nat.one_pos, ends⟩⟩
    · rintro ⟨last, below, ends⟩
      cases last with
      | zero => exact run_of_endsIn_zero ends rounds
      | succ last =>
        obtain ⟨first, rest⟩ := endsIn_succ_iff.1 ends
        rw [run_of_inVain_one (inVain_succ_iff.2 ⟨first, inVain_zero⟩), ih]
        exact ⟨last, Nat.lt_of_succ_lt_succ below, rest⟩

/-- A wait returns as it ends in one of its rounds. -/
theorem returns_pollUntilDeadline_iff :
    Waiter.Returns (pollUntilDeadline deadline interval surroundings.probing) start result after ↔
      ∃ last, surroundings.EndsIn deadline interval start last result after := by
  simp only [Waiter.Returns, run_pollUntilDeadline_iff]
  constructor
  · rintro ⟨_, last, _, ends⟩
    exact ⟨last, ends⟩
  · rintro ⟨last, ends⟩
    exact ⟨last + 1, last, Nat.lt_succ_self last, ends⟩

/-- A wait never returns if all its rounds are in vain, and in no other case. -/
theorem not_returns_pollUntilDeadline_iff :
    (∀ result after, ¬ Waiter.Returns
        (pollUntilDeadline deadline interval surroundings.probing) start result after) ↔
      ∀ rounds, surroundings.InVain deadline interval start rounds := by
  simp only [returns_pollUntilDeadline_iff]
  constructor
  · intro never rounds
    induction rounds with
    | zero => exact inVain_zero
    | succ rounds ih =>
      rcases endsIn_or_inVain ih with ⟨result, after, ends⟩ | vain
      · exact absurd ⟨rounds, ends⟩ (never result after)
      · exact vain
  · rintro vain result after ⟨last, ends⟩
    exact ends.not_inVain (Nat.lt_succ_self last) (vain (last + 1))

/-- A wait for some span of time reads the clock once more, to find out its deadline. -/
theorem returns_pollUntil_iff {timeout : Milliseconds} :
    Waiter.Returns (pollUntil timeout interval surroundings.probing) start result after ↔
      Waiter.Returns
        (pollUntilDeadline ((surroundings.read start.state).1.saturatingAdd timeout) interval
          surroundings.probing) (surroundings.clocked start) result after :=
  Iff.rfl

/-- A wait ends in one way only. -/
theorem EndsIn.unique {other : Option α} {reached : Moment σ} {otherRounds : Nat}
    (ends : surroundings.EndsIn deadline interval start rounds result after)
    (otherwise : surroundings.EndsIn deadline interval start otherRounds other reached) :
    other = result ∧ reached = after := by
  have same : otherRounds = rounds := by
    rcases Nat.lt_trichotomy otherRounds rounds with less | same | more
    · exact absurd ends.inVain (otherwise.not_inVain less)
    · exact same
    · exact absurd otherwise.inVain (ends.not_inVain more)
  subst same
  cases ends with
  | found _ here =>
    cases otherwise with
    | found _ there => exact ⟨there.symm.trans here, rfl⟩
    | expired _ empty _ => exact absurd (here.symm.trans empty) nofun
  | expired _ empty _ =>
    cases otherwise with
    | found _ there => exact absurd (there.symm.trans empty) nofun
    | expired _ _ _ => exact ⟨rfl, rfl⟩

/-! ## Steady clocks -/

/-- With a clock that moves on by the same amount at every reading, a wait in vain for some span of
time ends in the round whose number is the quotient of the two. -/
theorem endsIn_of_steady {timeout : Milliseconds} {first : Milliseconds} {step : Nat}
    (moves : 1 ≤ step) (ahead : 0 ≤ timeout.toInt)
    (steady : ∀ i, i ≤ timeout.toInt.toNat / step →
      surroundings.found interval start i = none ∧
        (surroundings.shown interval start i).toInt = first.toInt + step * (i + 1 : Nat)) :
    surroundings.EndsIn (first.saturatingAdd timeout) interval start
      (timeout.toInt.toNat / step) none
      (surroundings.clocked (surroundings.probed
        (surroundings.before interval start (timeout.toInt.toNat / step)))) := by
  generalize span : timeout.toInt.toNat = budget at steady ⊢
  have exact : timeout.toInt = budget := by omega
  -- The last reading is past the deadline without being clamped, so the deadline is not clamped.
  obtain ⟨lastEmpty, lastShown⟩ := steady (budget / step) (Nat.le_refl _)
  have past : (budget : Int) < step * (budget / step + 1 : Nat) := by
    exact_mod_cast Nat.lt_mul_div_succ budget moves
  have deadline : (first.saturatingAdd timeout).toInt = first.toInt + budget := by
    have low := Int64.le_toInt first
    have high := Int64.toInt_lt (surroundings.shown interval start (budget / step))
    rw [Milliseconds.toInt_saturatingAdd, exact]
    simp only [Int64.toInt_minValue, Int64.toInt_maxValue]
    omega
  refine .expired ?_ lastEmpty ?_
  · intro i below
    obtain ⟨empty, shown⟩ := steady i (Nat.le_of_lt below)
    have inTime : step * (i + 1) ≤ budget := calc
      step * (i + 1) ≤ step * (budget / step) := Nat.mul_le_mul_left step below
      _ ≤ budget := Nat.mul_div_le budget step
    refine ⟨empty, Int64.le_iff_toInt_le.2 ?_⟩
    rw [shown, deadline]
    exact Int.add_le_add_left (by exact_mod_cast inTime) _
  · rw [Int64.lt_iff_toInt_lt, lastShown, deadline]
    exact Int.add_lt_add_left past _

/-! ## The environments of processes -/

/-- The environment of a process whose probe always returns. -/
def ofProbe (probe : Environment → Option α × Environment) : Surroundings Environment α where
  probe := probe
  read environment := (environment.world.shown, environment.inside environment.world.tick)
  pause _ environment := environment

/-- How far the activity came that a waiter in the environment of a process stands for. -/
def outcome (reached : Option (β × Moment Environment)) : Outcome β :=
  reached.elim .pending fun reached => .returned reached.1 reached.2.state

/-- An activity waits as a waiter does in its environment. -/
theorem run_pollUntilDeadline_eq {activity : Activity (Option α)}
    {probe : Environment → Option α × Environment}
    (returns : ∀ environment,
      activity.run environment = .returned (probe environment).1 (probe environment).2)
    (deadline : Milliseconds) (interval rounds : Nat) (start : Moment Environment) :
    (pollUntilDeadline deadline interval activity rounds).run start.state =
      outcome ((pollUntilDeadline deadline interval (ofProbe probe).probing rounds).run start) := by
  induction rounds generalizing start with
  | zero => rfl
  | succ rounds ih =>
    have first : (ofProbe probe).found interval start 0 = (probe start.state).1 := rfl
    rw [run_round, pollUntilDeadline, Activity.run_bind_of_returned _ (returns _), ← first]
    cases (ofProbe probe).found interval start 0 with
    | some value => rfl
    | none =>
      rw [Activity.run_bind_of_returned _ (Activity.run_now _)]
      by_cases late : deadline < (ofProbe probe).shown interval start 0
      · have past : deadline < (probe start.state).2.world.shown := late
        rw [if_pos past]
        simp only [if_pos late]
        rfl
      · have intime : ¬ deadline < (probe start.state).2.world.shown := late
        rw [if_neg intime, Activity.run_bind_of_returned _ (Activity.run_pause _ interval)]
        simp only [if_neg late]
        exact ih ((ofProbe probe).round interval start)

/-- A wait for some span of time, too. -/
theorem run_pollUntil_eq {activity : Activity (Option α)}
    {probe : Environment → Option α × Environment}
    (returns : ∀ environment,
      activity.run environment = .returned (probe environment).1 (probe environment).2)
    (timeout : Milliseconds) (interval rounds : Nat) (start : Moment Environment) :
    (pollUntil timeout interval activity rounds).run start.state =
      outcome ((pollUntil timeout interval (ofProbe probe).probing rounds).run start) :=
  run_pollUntilDeadline_eq returns _ interval rounds ((ofProbe probe).clocked start)

end Surroundings

/-! ## What a wait returns, and after how many rounds -/

open Surroundings in
/-- A wait returns a value exactly if some probe finds it while all earlier probes are in vain and
all earlier readings in time, and it returns empty-handed exactly if some reading is past the
deadline while all probes up to it are in vain and all earlier readings in time; the number of its
probes and readings is then known, and otherwise it does not return.  A wait for some span of time
first reads the clock once to find out its deadline, which is the sum of the two clamped to the
range of times, and in vain with a steady clock it makes as many probes as readings fit into the
span, and one more. -/
theorem wait_is_exact (surroundings : Surroundings σ α) (interval : Nat) (start : Moment σ) :
    (∀ deadline : Milliseconds,
      let wait := pollUntilDeadline deadline interval surroundings.probing
      (∀ value after, Waiter.Returns wait start (some value) after ↔
        ∃ n, surroundings.found interval start n = some value ∧
          (∀ i, i < n → surroundings.found interval start i = none ∧
            surroundings.shown interval start i ≤ deadline) ∧
          after = ⟨(surroundings.probe (surroundings.before interval start n).state).2,
            start.probes + (n + 1), start.readings + n⟩) ∧
      (∀ after, Waiter.Returns wait start none after ↔
        ∃ n, deadline < surroundings.shown interval start n ∧
          (∀ i, i ≤ n → surroundings.found interval start i = none) ∧
          (∀ i, i < n → surroundings.shown interval start i ≤ deadline) ∧
          after = ⟨(surroundings.read
              (surroundings.probe (surroundings.before interval start n).state).2).2,
            start.probes + (n + 1), start.readings + (n + 1)⟩) ∧
      ((∀ result after, ¬ Waiter.Returns wait start result after) ↔
        ∀ i, surroundings.found interval start i = none ∧
          surroundings.shown interval start i ≤ deadline)) ∧
    ∀ timeout : Milliseconds,
      let wait := pollUntil timeout interval surroundings.probing
      let first := (surroundings.read start.state).1
      let begun := surroundings.clocked start
      (∃ deadline : Milliseconds,
        deadline.toInt = max Int64.minValue.toInt
          (min Int64.maxValue.toInt (first.toInt + timeout.toInt)) ∧
        ∀ result after, Waiter.Returns wait start result after ↔
          Waiter.Returns (pollUntilDeadline deadline interval surroundings.probing) begun result
            after) ∧
      ∀ step : Nat, 1 ≤ step → 0 ≤ timeout.toInt →
        (∀ i, i ≤ timeout.toInt.toNat / step →
          surroundings.found interval begun i = none ∧
            (surroundings.shown interval begun i).toInt = first.toInt + step * (i + 1 : Nat)) →
        ∃ state, ∀ result after, Waiter.Returns wait start result after ↔
          result = none ∧ after = ⟨state, start.probes + (timeout.toInt.toNat / step + 1),
            start.readings + (timeout.toInt.toNat / step + 2)⟩ := by
  refine ⟨fun deadline => ⟨fun value after => ?_, fun after => ?_, ?_⟩, fun timeout => ⟨?_, ?_⟩⟩
  · rw [returns_pollUntilDeadline_iff]
    constructor
    · rintro ⟨last, ends⟩
      cases ends with
      | found vain here => exact ⟨last, here, vain, probed_before last⟩
    · rintro ⟨last, here, vain, rfl⟩
      exact ⟨last, probed_before last ▸ .found vain here⟩
  · rw [returns_pollUntilDeadline_iff]
    constructor
    · rintro ⟨last, ends⟩
      cases ends with
      | expired vain empty late =>
        refine ⟨last, late, fun i upTo => ?_, fun i below => (vain i below).2,
          clocked_probed_before last⟩
        rcases Nat.lt_or_eq_of_le upTo with below | rfl
        · exact (vain i below).1
        · exact empty
    · rintro ⟨last, late, empty, early, rfl⟩
      refine ⟨last, clocked_probed_before last ▸ .expired (fun i below => ?_)
        (empty last (Nat.le_refl _)) late⟩
      exact ⟨empty i (Nat.le_of_lt below), early i below⟩
  · rw [not_returns_pollUntilDeadline_iff]
    exact ⟨fun vain i => vain (i + 1) i (Nat.lt_succ_self i), fun vain rounds i _ => vain i⟩
  · exact ⟨_, Milliseconds.toInt_saturatingAdd _ _, fun _ _ => returns_pollUntil_iff⟩
  · intro step moves ahead steady
    have ends := endsIn_of_steady moves ahead steady
    have counted : (surroundings.clocked start).readings + (timeout.toInt.toNat / step + 1) =
        start.readings + (timeout.toInt.toNat / step + 2) :=
      Nat.succ_add_eq_add_succ start.readings _
    rw [clocked_probed_before, counted] at ends
    refine ⟨(surroundings.read (surroundings.probed (surroundings.before interval
      (surroundings.clocked start) (timeout.toInt.toNat / step))).state).2, fun result after => ?_⟩
    rw [returns_pollUntil_iff, returns_pollUntilDeadline_iff]
    constructor
    · rintro ⟨last, otherwise⟩
      exact ends.unique otherwise
    · rintro ⟨rfl, rfl⟩
      exact ⟨_, ends⟩

/-- With a clock that each probe moves on by four, a process that waits ten milliseconds in vain
probes three times. -/
theorem wait_is_exact_in_vain :
    let probe : Environment → Option Int32 × Environment := fun environment =>
      (none, { environment with clock := environment.clock.advance 4 })
    let process : Activity (Option Int32) := fun environment =>
      .returned (probe environment).1 (probe environment).2
    let surroundings := Surroundings.ofProbe probe
    let start : Moment Environment := ⟨⟨.ticking 0 0, .empty, []⟩, 0, 0⟩
    (∀ i, i ≤ 2 → surroundings.found 1 (surroundings.clocked start) i = none ∧
      (surroundings.shown 1 (surroundings.clocked start) i).toInt = 0 + 4 * (i + 1 : Nat)) ∧
    ∃ rounds after, (pollUntil 10 1 process rounds).run start.state = .returned none after ∧
      Waiter.Returns (pollUntil 10 1 surroundings.probing) start none ⟨after, 3, 4⟩ := by
  intro probe process surroundings start
  have steady : ∀ i, i ≤ 2 → surroundings.found 1 (surroundings.clocked start) i = none ∧
      (surroundings.shown 1 (surroundings.clocked start) i).toInt = 0 + 4 * (i + 1 : Nat) := by
    intro i upTo
    obtain rfl | rfl | rfl : i = 0 ∨ i = 1 ∨ i = 2 := by omega
    · exact ⟨rfl, by decide +kernel⟩
    · exact ⟨rfl, by decide +kernel⟩
    · exact ⟨rfl, by decide +kernel⟩
  obtain ⟨after, exactly⟩ := ((wait_is_exact surroundings 1 start).2 10).2 4 (by decide)
    (by decide) steady
  have returns := (exactly none ⟨after, 3, 4⟩).2 ⟨rfl, rfl⟩
  obtain ⟨rounds, run⟩ := returns
  refine ⟨steady, rounds, after, ?_, rounds, run⟩
  rw [@Surroundings.run_pollUntil_eq _ process probe (fun _ => rfl) 10 1 rounds start]
  exact congrArg Surroundings.outcome run

end Heartbeat
