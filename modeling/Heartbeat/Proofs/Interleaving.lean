import Heartbeat.Handshake

/-!
# Two processes, step by step

An activity meets others only when it reads its clock.  To say what two processes can do to each
other when any of their steps can come between any others, both are run in finer detail here, from
the same text.

An owner leaves a chronicle: the storage after each piece of its work, in order.  A watcher meets a
sequence of moments, a new one with each look at the storage and each reading of its clock.  Since a
watcher changes nothing, an interleaving of the two is nothing more than an assignment of the
watcher's moments to places in the owner's chronicle that does not go back.

Both are courses through states of their own, and `Course.Ensures` is what is said about a course:
what holds where it returns, and what holds where it fails or is still waiting.
-/

set_option autoImplicit false

namespace Heartbeat

/-- A computation that goes through states.  In the end it returns a value, or fails, or is still
waiting, and in each case there is a state in which it ends. -/
def Course (σ α : Type) : Type := σ → Option (Except Failure α) × σ

namespace Course

variable {σ α β : Type}

/-- Goes on with the value that a course returned. -/
def andThen (course : Course σ α) (next : α → Course σ β) : Course σ β := fun start =>
  match course start with
  | (some (.ok value), after) => next value after
  | (some (.error failure), after) => (some (.error failure), after)
  | (none, after) => (none, after)

instance : Monad (Course σ) where
  pure value := fun start => (some (.ok value), start)
  bind := andThen

instance : LawfulMonad (Course σ) := by
  refine .mk' _ ?_ (fun _ _ => rfl) ?_
  · intro _ course
    funext start
    change course.andThen (fun value => pure value) start = course start
    unfold Course.andThen
    rcases course start with ⟨_ | failure | value, after⟩ <;> rfl
  · intro _ _ _ course next last
    funext start
    change (course.andThen next).andThen last start =
      course.andThen (fun value => (next value).andThen last) start
    unfold Course.andThen
    rcases course start with ⟨_ | failure | value, after⟩ <;> rfl

/-- Goes on with the result of a course, also if that is a failure. -/
def attempt (course : Course σ α) : Course σ (Except Failure α) := fun start =>
  match course start with
  | (some result, after) => (some (.ok result), after)
  | (none, after) => (none, after)

/-- What is known about the end of a course: something about the value and the state if it returns,
and something about the failure, if there is one, and the state if it does not. -/
def Ensures (course : Course σ α) (start : σ) (returned : α → σ → Prop)
    (ended : Option Failure → σ → Prop) : Prop :=
  match course start with
  | (some (.ok value), after) => returned value after
  | (some (.error failure), after) => ended (some failure) after
  | (none, after) => ended none after

variable {start : σ} {returned : α → σ → Prop} {ended : Option Failure → σ → Prop}

theorem Ensures.pure {value : α} (holds : returned value start) :
    (Pure.pure value : Course σ α).Ensures start returned ended := holds

theorem Ensures.of_returned {course : Course σ α} {value : α} {after : σ}
    (outcome : course start = (some (.ok value), after)) (holds : returned value after) :
    course.Ensures start returned ended := by
  unfold Ensures
  rw [outcome]
  exact holds

theorem Ensures.of_failed {course : Course σ α} {failure : Failure} {after : σ}
    (outcome : course start = (some (.error failure), after)) (holds : ended (some failure) after) :
    course.Ensures start returned ended := by
  unfold Ensures
  rw [outcome]
  exact holds

theorem Ensures.bind {course : Course σ α} {next : α → Course σ β} {further : β → σ → Prop}
    (first : course.Ensures start (fun value after => (next value).Ensures after further ended)
      ended) : (course >>= next).Ensures start further ended := by
  have whole : (course >>= next) start = course.andThen next start := rfl
  unfold Ensures at first ⊢
  rw [whole, andThen]
  rcases outcome : course start with ⟨_ | failure | value, after⟩
  all_goals
    simp only [outcome] at first
    exact first

theorem Ensures.imp {course : Course σ α} {further : α → σ → Prop}
    {finished : Option Failure → σ → Prop} (first : course.Ensures start returned ended)
    (returns : ∀ value after, returned value after → further value after)
    (ends : ∀ failure after, ended failure after → finished failure after) :
    course.Ensures start further finished := by
  unfold Ensures at first ⊢
  rcases outcome : course start with ⟨_ | failure | value, after⟩
  all_goals simp only [outcome] at first
  · exact ends _ _ first
  · exact ends _ _ first
  · exact returns _ _ first

/-- Whether a course returns. -/
def returns (course : Course σ α) (start : σ) : Bool :=
  match course start with
  | (some (.ok _), _) => true
  | _ => false

theorem Ensures.of_returns {course : Course σ α} (ensures : course.Ensures start returned ended)
    (returns : course.returns start = true) :
    ∃ value after, course start = (some (.ok value), after) ∧ returned value after := by
  unfold Ensures at ensures
  unfold Course.returns at returns
  rcases outcome : course start with ⟨_ | failure | value, after⟩
  all_goals simp only [outcome, Bool.false_eq_true] at ensures returns
  exact ⟨value, after, rfl, ensures⟩

/-- What holds at every end holds at the end. -/
theorem Ensures.at_end {course : Course σ α} {holds : σ → Prop}
    (ensures : course.Ensures start (fun _ => holds) fun _ => holds) : holds (course start).2 := by
  unfold Ensures at ensures
  rcases outcome : course start with ⟨_ | failure | value, after⟩
  all_goals
    simp only [outcome] at ensures
    exact ensures

end Course

/-! ## The chronicle of an owner -/

/-- The storages that a process has left behind, and its clock. -/
structure Chronicle where
  /-- The storage after so many pieces of work, which is the last one after more than there were. -/
  history : Nat → Storage
  /-- The number of the pieces of work. -/
  works : Nat
  /-- What the readings of the clock show. -/
  times : Nat → Milliseconds
  /-- The number of the readings. -/
  reads : Nat

namespace Chronicle

/-- The chronicle of a process that has done nothing. -/
def start (storage : Storage) (times : Nat → Milliseconds) : Chronicle :=
  ⟨fun _ => storage, 0, times, 0⟩

/-- The storage as it is now. -/
def storage (chronicle : Chronicle) : Storage := chronicle.history chronicle.works

/-- A further piece of work, with the storage that it leaves. -/
def leave (chronicle : Chronicle) (storage : Storage) : Chronicle :=
  { chronicle with
    history := fun i => if i ≤ chronicle.works then chronicle.history i else storage
    works := chronicle.works + 1 }

/-- A further reading of the clock. -/
def read (chronicle : Chronicle) : Chronicle := { chronicle with reads := chronicle.reads + 1 }

theorem history_leave (chronicle : Chronicle) (storage : Storage) (i : Nat) :
    (chronicle.leave storage).history i =
      if i ≤ chronicle.works then chronicle.history i else storage := rfl

@[simp] theorem storage_leave (chronicle : Chronicle) (storage : Storage) :
    (chronicle.leave storage).storage = storage :=
  if_neg (Nat.not_succ_le_self _)

@[simp] theorem storage_read (chronicle : Chronicle) :
    chronicle.read.storage = chronicle.storage := rfl

end Chronicle

/-- The course of a process that is alone with its storage.  Its reports are left out. -/
abbrev Recording (α : Type) : Type := Course Chronicle α

instance : Worker Recording where
  now := fun chronicle => (some (.ok (chronicle.times chronicle.reads)), chronicle.read)
  pause _ := pure ()
  exhausted := fun chronicle => (none, chronicle)
  look view := fun chronicle => (some (view chronicle.storage), chronicle)
  fail failure := fun chronicle => (some (.error failure), chronicle)
  attempt := Course.attempt
  report _ := pure ()
  work step := fun chronicle =>
    (some (step chronicle.storage).1, chronicle.leave (step chronicle.storage).2)

/-! ## The moments of a watcher -/

/-- What a process meets that only observes. -/
structure Vigil where
  /-- The storage and the time at every moment. -/
  moments : Nat → Storage × Milliseconds
  /-- The next moment. -/
  next : Nat
  /-- What was reported so far. -/
  journal : List Report

namespace Vigil

/-- The storage at the next moment. -/
def storage (vigil : Vigil) : Storage := (vigil.moments vigil.next).1

/-- One moment later. -/
def proceed (vigil : Vigil) : Vigil := { vigil with next := vigil.next + 1 }

/-- The same moment, with further reports in the journal. -/
def reporting (vigil : Vigil) (reports : List Report) : Vigil :=
  { vigil with journal := vigil.journal ++ reports }

/-- Whoever meets the storages of a chronicle may skip some and meet others more than once, but does
not go back. -/
def Meets (vigil : Vigil) (chronicle : Chronicle) : Prop :=
  ∃ schedule : Nat → Nat, (∀ i j, i ≤ j → schedule i ≤ schedule j) ∧
    ∀ moment, (vigil.moments moment).1 = chronicle.history (schedule moment)

end Vigil

/-- The course of a process that observes.  Each look at the storage and each reading of the clock
takes a moment. -/
abbrev Watching (α : Type) : Type := Course Vigil α

instance : Observer Watching where
  now := fun vigil => (some (.ok (vigil.moments vigil.next).2), vigil.proceed)
  pause _ := pure ()
  exhausted := fun vigil => (none, vigil)
  look view := fun vigil => (some (view vigil.storage), vigil.proceed)
  fail failure := fun vigil => (some (.error failure), vigil)
  attempt := Course.attempt
  report report := fun vigil => (some (.ok ()), vigil.reporting [report])

end Heartbeat
