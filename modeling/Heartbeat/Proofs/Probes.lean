import Heartbeat.Proofs.Waiting

/-!
# Waits by the number of their probes

A wait probes, and after a probe that finds nothing it reads the clock, so it is known from the
number of its probes where it ends.  After some probes in vain, each with a reading in time
(`World.InVain`), there comes a probe that finds something (`World.Finds`), or one more in vain with
a reading past the deadline (`World.Expires`).

`Waits` tells the same step by step (`waits_some_iff`, `waits_none_iff`).
-/

set_option autoImplicit false

namespace Heartbeat

variable {α : Type}

namespace World

/-- The first probes from a world on find nothing, and the readings of the clock after them are in
time. -/
def InVain (world : World) (lacks : Storage → Prop) (deadline : Milliseconds) (probes : Nat) :
    Prop :=
  ∀ i, i < probes → lacks (world.ticks i).storage ∧ (world.ticks i).shown ≤ deadline

/-- The probe after some probes in vain finds something. -/
structure Finds (world : World) (seen : Storage → Option α) (deadline : Milliseconds)
    (probes : Nat) (value : α) : Prop where
  /-- The probes before it are in vain, and the readings after them in time. -/
  vain : world.InVain (fun storage => seen storage = none) deadline probes
  /-- What it finds. -/
  found : seen (world.ticks probes).storage = some value

/-- The probe after some probes in vain finds nothing either, and the reading of the clock after it
is past the deadline. -/
structure Expires (world : World) (lacks : Storage → Prop) (deadline : Milliseconds)
    (probes : Nat) : Prop where
  /-- The probes before it are in vain, and the readings after them in time. -/
  vain : world.InVain lacks deadline probes
  /-- It finds nothing. -/
  lacking : lacks (world.ticks probes).storage
  /-- The reading after it is past the deadline. -/
  late : deadline < (world.ticks probes).shown

variable {world : World} {lacks : Storage → Prop} {seen : Storage → Option α}
  {deadline : Milliseconds} {probes : Nat}

theorem inVain_zero : world.InVain lacks deadline 0 :=
  fun _ below => absurd below (Nat.not_lt_zero _)

/-- Probes in vain are one probe in vain and the ones after it. -/
theorem inVain_succ_iff :
    world.InVain lacks deadline (probes + 1) ↔
      (lacks world.storage ∧ world.shown ≤ deadline) ∧ world.tick.InVain lacks deadline probes := by
  constructor
  · intro vain
    exact ⟨vain 0 (Nat.succ_pos _), fun i below => vain (i + 1) (Nat.succ_lt_succ below)⟩
  · rintro ⟨first, rest⟩ i below
    cases i with
    | zero => exact first
    | succ i => exact rest i (Nat.lt_of_succ_lt_succ below)

theorem Finds.succ {value : α} (empty : seen world.storage = none) (early : world.shown ≤ deadline)
    (finds : world.tick.Finds seen deadline probes value) :
    world.Finds seen deadline (probes + 1) value :=
  ⟨inVain_succ_iff.2 ⟨⟨empty, early⟩, finds.vain⟩, finds.found⟩

theorem Expires.succ (empty : lacks world.storage) (early : world.shown ≤ deadline)
    (expires : world.tick.Expires lacks deadline probes) :
    world.Expires lacks deadline (probes + 1) :=
  ⟨inVain_succ_iff.2 ⟨⟨empty, early⟩, expires.vain⟩, expires.lacking, expires.late⟩

end World

section Counting

variable {seen : Storage → Option α} {deadline : Milliseconds} {world after : World}

/-- A wait that goes well ends where the first probe finds something. -/
theorem waits_some_iff {value : α} :
    Waits seen deadline world (some value) after ↔
      ∃ probes, world.Finds seen deadline probes value ∧ after = world.ticks probes := by
  constructor
  · intro waits
    generalize result : some value = given at waits
    induction waits with
    | found here =>
      cases result
      exact ⟨0, ⟨World.inVain_zero, here⟩, rfl⟩
    | expired _ _ => cases result
    | again empty early _ ih =>
      obtain ⟨probes, finds, rfl⟩ := ih result
      exact ⟨probes + 1, finds.succ empty (Int64.not_lt.1 early), rfl⟩
  · rintro ⟨probes, finds, rfl⟩
    induction probes generalizing world with
    | zero => exact .found finds.found
    | succ probes ih =>
      obtain ⟨⟨empty, early⟩, rest⟩ := World.inVain_succ_iff.1 finds.vain
      exact .again empty (Int64.not_lt.2 early) (ih ⟨rest, finds.found⟩)

/-- A wait in vain ends with the first reading past the deadline. -/
theorem waits_none_iff :
    Waits seen deadline world none after ↔
      ∃ probes, world.Expires (fun storage => seen storage = none) deadline probes ∧
        after = world.ticks (probes + 1) := by
  constructor
  · intro waits
    generalize result : (none : Option α) = given at waits
    induction waits with
    | found _ => cases result
    | expired empty late => exact ⟨0, ⟨World.inVain_zero, empty, late⟩, rfl⟩
    | again empty early _ ih =>
      cases result
      obtain ⟨probes, expires, rfl⟩ := ih rfl
      exact ⟨probes + 1, expires.succ empty (Int64.not_lt.1 early), rfl⟩
  · rintro ⟨probes, expires, rfl⟩
    induction probes generalizing world with
    | zero => exact .expired expires.lacking expires.late
    | succ probes ih =>
      obtain ⟨⟨empty, early⟩, rest⟩ := World.inVain_succ_iff.1 expires.vain
      exact .again empty (Int64.not_lt.2 early) (ih ⟨rest, expires.lacking, expires.late⟩)

end Counting

end Heartbeat
