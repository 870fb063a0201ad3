import Heartbeat.Proofs.World

/-!
# How a wait ends

A wait looks at the storage, and while it finds nothing there it reads the clock, which lets others
act.  `Waits` tells how such a wait ends, without counting rounds: it finds a value, whatever the
time is, or a reading past the deadline ends it empty-handed.

`run_pollUntilDeadline` says that a wait that ends within its rounds ends so, and that one that
does not end within them reads the clock once in each of them, always in time (`World.InTime`).
`run_pollUntilDeadline_of_waits` says that a wait that can end so does, given enough rounds.
-/

set_option autoImplicit false

namespace Heartbeat

variable {α : Type}

namespace World

/-- The next readings of the clock are not past a deadline. -/
def InTime (world : World) (deadline : Milliseconds) (readings : Nat) : Prop :=
  ∀ i, i < readings → (world.ticks i).shown ≤ deadline

variable {world : World} {deadline : Milliseconds}

theorem InTime.zero : world.InTime deadline 0 := fun _ below => absurd below (Nat.not_lt_zero _)

theorem InTime.succ {readings : Nat} (first : world.shown ≤ deadline)
    (rest : world.tick.InTime deadline readings) : world.InTime deadline (readings + 1) := by
  intro i below
  cases i with
  | zero => exact first
  | succ i => exact rest i (Nat.lt_of_succ_lt_succ below)

theorem InTime.add {earlier later : Nat} (first : world.InTime deadline earlier)
    (second : (world.ticks earlier).InTime deadline later) :
    world.InTime deadline (earlier + later) := by
  intro i below
  rcases Nat.lt_or_ge i earlier with early | late
  · exact first i early
  · obtain ⟨i, rfl⟩ := Nat.exists_eq_add_of_le late
    rw [World.ticks_add]
    exact second i (Nat.lt_of_add_lt_add_left below)

theorem InTime.mono {fewer readings : Nat} (inTime : world.InTime deadline readings)
    (le : fewer ≤ readings) : world.InTime deadline fewer :=
  fun i below => inTime i (Nat.lt_of_lt_of_le below le)

end World

/-- How a wait for something to be seen in the storage goes from one world to another. -/
inductive Waits (seen : Storage → Option α) (deadline : Milliseconds) :
    World → Option α → World → Prop where
  | found {world : World} {value : α} (here : seen world.storage = some value) :
      Waits seen deadline world (some value) world
  | expired {world : World} (empty : seen world.storage = none) (late : deadline < world.shown) :
      Waits seen deadline world none world.tick
  | again {world after : World} {result : Option α} (empty : seen world.storage = none)
      (early : ¬ deadline < world.shown) (rest : Waits seen deadline world.tick result after) :
      Waits seen deadline world result after

namespace Waits

variable {seen : Storage → Option α} {deadline : Milliseconds} {world after : World}

/-- All that a wait does to its world is to read the clock. -/
theorem ticks {result : Option α} (waits : Waits seen deadline world result after) :
    ∃ readings, after = world.ticks readings := by
  induction waits with
  | found _ => exact ⟨0, rfl⟩
  | expired _ _ => exact ⟨1, rfl⟩
  | again _ _ _ ih =>
    obtain ⟨readings, rfl⟩ := ih
    exact ⟨readings + 1, rfl⟩

/-- A wait that goes well reads the clock in time. -/
theorem inTime {value : α} (waits : Waits seen deadline world (some value) after) :
    ∃ readings, after = world.ticks readings ∧ world.InTime deadline readings := by
  generalize result : some value = given at waits
  induction waits with
  | found _ => exact ⟨0, rfl, .zero⟩
  | expired _ _ => cases result
  | again _ early _ ih =>
    obtain ⟨readings, rfl, rest⟩ := ih result
    exact ⟨readings + 1, rfl, .succ (Int64.not_lt.1 early) rest⟩

/-- What a wait gives was in the storage where it ended. -/
theorem seen_after {value : α} (waits : Waits seen deadline world (some value) after) :
    seen after.storage = some value := by
  generalize result : some value = given at waits
  induction waits with
  | found here => exact here
  | expired _ _ => cases result
  | again _ _ _ ih => exact ih result

/-- A wait ends in one way only. -/
theorem unique {result other : Option α} {end' : World}
    (waits : Waits seen deadline world result after)
    (otherwise : Waits seen deadline world other end') : result = other ∧ after = end' := by
  induction waits with
  | found here =>
    cases otherwise with
    | found there => exact ⟨here.symm.trans there, rfl⟩
    | expired empty _ => exact absurd (here.symm.trans empty) nofun
    | again empty _ _ => exact absurd (here.symm.trans empty) nofun
  | expired empty late =>
    cases otherwise with
    | found there => exact absurd (there.symm.trans empty) nofun
    | expired _ _ => exact ⟨rfl, rfl⟩
    | again _ early _ => exact absurd late early
  | again empty early _ ih =>
    cases otherwise with
    | found there => exact absurd (there.symm.trans empty) nofun
    | expired _ late => exact absurd late early
    | again _ _ rest => exact ih rest

end Waits

/-- What is done with the result of a wait that is refused if it ends empty-handed. -/
theorem run_finish {β : Type} {finish : Option α → Activity β} {give : α → β} {refusal : Refusal}
    (gives : ∀ value, finish (some value) = pure (give value))
    (refuses : finish none = Observer.fail (.refused refusal)) (result : Option α)
    (environment : Environment) :
    (finish result).run environment =
      .ofExcept (result.elim (.error (.refused refusal)) fun value => .ok (give value))
        environment := by
  cases result with
  | none => rw [refuses]; rfl
  | some value => rw [gives]; rfl

section Polling

variable {probe : Activity (Option α)} {seen : Storage → Option α}
  (looks : ∀ environment : Environment,
    probe.run environment = .returned (seen environment.storage) environment)
  (deadline : Milliseconds) (interval : Nat)

include looks

/-- One round of a wait. -/
theorem run_pollUntilDeadline_succ (rounds : Nat) (environment : Environment) :
    (pollUntilDeadline deadline interval probe (rounds + 1)).run environment =
      match seen environment.storage with
      | some value => .returned (some value) environment
      | none =>
        if deadline < environment.world.shown then
          .returned none (environment.inside environment.world.tick)
        else
          (pollUntilDeadline deadline interval probe rounds).run
            (environment.inside environment.world.tick) := by
  rw [pollUntilDeadline, Activity.run_bind_of_returned _ (looks environment)]
  cases seen environment.storage with
  | some value => rfl
  | none =>
    simp only
    rw [Activity.run_bind_of_returned _ (Activity.run_now environment)]
    split
    · rfl
    · rw [Activity.run_bind_of_returned _ (Activity.run_pause _ interval)]

/-- A wait is still going on after its rounds, in time, or has ended as waits end. -/
theorem run_pollUntilDeadline (rounds : Nat) (environment : Environment) :
    ((pollUntilDeadline deadline interval probe rounds).run environment = .pending ∧
        environment.world.InTime deadline rounds) ∨
      ∃ result after, Waits seen deadline environment.world result after ∧
        (pollUntilDeadline deadline interval probe rounds).run environment =
          .returned result (environment.inside after) := by
  induction rounds generalizing environment with
  | zero => exact .inl ⟨rfl, .zero⟩
  | succ rounds ih =>
    rw [run_pollUntilDeadline_succ looks]
    cases here : seen environment.storage with
    | some value => exact .inr ⟨some value, environment.world, .found here, rfl⟩
    | none =>
      simp only
      split
      · next late => exact .inr ⟨none, environment.world.tick, .expired here late, rfl⟩
      · next early =>
        rcases ih (environment.inside environment.world.tick) with
          ⟨pending, rest⟩ | ⟨result, after, rest, run⟩
        · exact .inl ⟨pending, .succ (Int64.not_lt.1 early) rest⟩
        · exact .inr ⟨result, after, .again here early rest, run⟩

/-- A wait that can end does so within some number of rounds, and within any greater one. -/
theorem run_pollUntilDeadline_of_waits (environment : Environment) {result : Option α}
    {after : World} (waits : Waits seen deadline environment.world result after) :
    ∃ enough, ∀ rounds, enough ≤ rounds →
      (pollUntilDeadline deadline interval probe rounds).run environment =
        .returned result (environment.inside after) := by
  -- Along the course of the wait, which says how many rounds it takes.
  generalize start : environment.world = world at waits
  induction waits generalizing environment with
  | @found world value here =>
    refine ⟨1, ?_⟩
    intro rounds many
    obtain ⟨rounds, rfl⟩ := Nat.exists_eq_add_of_le' many
    subst start
    rw [run_pollUntilDeadline_succ looks, show seen environment.storage = some value from here]
    rfl
  | @expired world empty late =>
    refine ⟨1, ?_⟩
    intro rounds many
    obtain ⟨rounds, rfl⟩ := Nat.exists_eq_add_of_le' many
    subst start
    rw [run_pollUntilDeadline_succ looks, show seen environment.storage = none from empty]
    exact if_pos late
  | @again world after result empty early _ ih =>
    subst start
    obtain ⟨enough, ends⟩ := ih (environment.inside environment.world.tick) rfl
    refine ⟨enough + 1, ?_⟩
    intro rounds many
    obtain ⟨rounds, rfl⟩ := Nat.exists_eq_add_of_le' (Nat.le_of_add_left_le many : 1 ≤ rounds)
    rw [run_pollUntilDeadline_succ looks, show seen environment.storage = none from empty]
    simp only [if_neg early]
    exact ends rounds (Nat.le_of_succ_le_succ many)

/-- A wait for what is there already is over at once. -/
theorem run_pollUntilDeadline_of_seen {rounds : Nat} (granted : rounds ≠ 0)
    (environment : Environment) {value : α} (here : seen environment.storage = some value) :
    (pollUntilDeadline deadline interval probe rounds).run environment =
      .returned (some value) environment := by
  obtain ⟨rounds, rfl⟩ := Nat.exists_eq_succ_of_ne_zero granted
  rw [run_pollUntilDeadline_succ looks, here]

section Refusing

variable {β : Type} {finish : Option α → Activity β} (give : α → β) {refusal : Refusal}
  (gives : ∀ value, finish (some value) = pure (give value))
  (refuses : finish none = Observer.fail (.refused refusal))

include gives refuses

/-- A wait that is refused when it ends empty-handed. -/
theorem run_pollUntilDeadline_refusing (rounds : Nat) (environment : Environment) :
    ((pollUntilDeadline deadline interval probe rounds >>= finish).run environment = .pending ∧
        environment.world.InTime deadline rounds) ∨
      ∃ result after, Waits seen deadline environment.world result after ∧
        (pollUntilDeadline deadline interval probe rounds >>= finish).run environment =
          .ofExcept (result.elim (.error (.refused refusal)) fun value => .ok (give value))
            (environment.inside after) := by
  rcases run_pollUntilDeadline looks deadline interval rounds environment with
    ⟨pending, inTime⟩ | ⟨result, after, waits, run⟩
  · exact .inl ⟨Activity.run_bind_of_pending _ pending, inTime⟩
  · refine .inr ⟨result, after, waits, ?_⟩
    rw [Activity.run_bind_of_returned _ run, run_finish gives refuses]

/-- Such a wait that can end does so within some number of rounds, and within any greater one. -/
theorem run_pollUntilDeadline_refusing_of_waits (environment : Environment)
    {result : Option α} {after : World}
    (waits : Waits seen deadline environment.world result after) :
    ∃ enough, ∀ rounds, enough ≤ rounds →
      (pollUntilDeadline deadline interval probe rounds >>= finish).run environment =
        .ofExcept (result.elim (.error (.refused refusal)) fun value => .ok (give value))
          (environment.inside after) := by
  obtain ⟨enough, ends⟩ := run_pollUntilDeadline_of_waits looks deadline interval environment waits
  refine ⟨enough, ?_⟩
  intro rounds many
  rw [Activity.run_bind_of_returned _ (ends rounds many), run_finish gives refuses]

/-- Such a wait for what is there already is over at once. -/
theorem run_pollUntilDeadline_refusing_of_seen {rounds : Nat} (granted : rounds ≠ 0)
    (environment : Environment) {value : α} (here : seen environment.storage = some value) :
    (pollUntilDeadline deadline interval probe rounds >>= finish).run environment =
      .returned (give value) environment := by
  rw [Activity.run_bind_of_returned _
    (run_pollUntilDeadline_of_seen looks deadline interval granted environment here),
    run_finish gives refuses]
  rfl

end Refusing

end Polling

end Heartbeat
