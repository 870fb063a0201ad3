import Heartbeat.Discovery
import Heartbeat.Proofs.Decision
import Heartbeat.Proofs.Interleaving
import Heartbeat.Proofs.Resolution

/-!
# What a watcher comes to see

A watcher attaches to a region in steps, and between any two of them its owner may have gone on.
What the watcher can rely on is that the owner does not go back: a file that has its length keeps
it, and where a version is published, everything else is in place.  `Unfolds` states this of the
storages that the watcher meets, and `ensures_openExisting` what follows for a watcher that
attaches.

The waits are treated once (`ensures_pollUntilDeadline`): whatever a wait ends with was there to see
at one of its moments.
-/

set_option autoImplicit false

namespace Heartbeat

/-! ## Steps of a watcher -/

/-- A vigil goes on to a later moment without a report. -/
structure Vigil.Precedes (earlier later : Vigil) : Prop where
  /-- The moments are the same. -/
  moments : later.moments = earlier.moments
  /-- Nothing is reported. -/
  journal : later.journal = earlier.journal
  /-- Time goes on. -/
  next : earlier.next ≤ later.next

namespace Vigil.Precedes

theorem refl (vigil : Vigil) : vigil.Precedes vigil := ⟨rfl, rfl, Nat.le_refl _⟩

theorem proceed (vigil : Vigil) : vigil.Precedes vigil.proceed := ⟨rfl, rfl, Nat.le_succ _⟩

theorem trans {first second third : Vigil} (early : first.Precedes second)
    (late : second.Precedes third) : first.Precedes third :=
  ⟨late.moments.trans early.moments, late.journal.trans early.journal,
    Nat.le_trans early.next late.next⟩

end Vigil.Precedes

namespace Watching

variable {α β : Type} {vigil : Vigil} {returned : α → Vigil → Prop}
  {ended : Option Failure → Vigil → Prop}

theorem ensures_look {view : Storage → Except Failure α}
    (sees : ∀ value, view vigil.storage = .ok value → returned value vigil.proceed)
    (fails : ∀ failure, view vigil.storage = .error failure → ended (some failure) vigil.proceed) :
    (Observer.look view : Watching α).Ensures vigil returned ended := by
  have step : (Observer.look view : Watching α) vigil =
      (some (view vigil.storage), vigil.proceed) := rfl
  cases seen : view vigil.storage with
  | ok value => exact .of_returned (by rw [step, seen]) (sees value seen)
  | error failure => exact .of_failed (by rw [step, seen]) (fails failure seen)

/-- A look whose result is worked on takes one moment. -/
theorem look_and_work {view : Storage → Except Failure α} (value : α) (work : α → β)
    (seen : view vigil.storage = .ok value) :
    (do
      let value ← Observer.look view
      pure (work value) : Watching β) vigil = (some (.ok (work value)), vigil.proceed) := by
  have step : (Observer.look view : Watching α) vigil = (some (.ok value), vigil.proceed) :=
    congrArg (some · , vigil.proceed) seen
  change Course.andThen (Observer.look view : Watching α) (fun value => pure (work value)) vigil = _
  simp only [Course.andThen, step]
  rfl

theorem ensures_log {handshake : Handshake} {message : String}
    {returned : Unit → Vigil → Prop} (logged : ∀ reports, returned () (vigil.reporting reports)) :
    (handshake.log message : Watching Unit).Ensures vigil returned ended := by
  unfold Handshake.log
  cases handshake.logger with
  | some logger => exact logged [logger message]
  | none =>
    have silent : vigil.reporting [] = vigil := by
      simp [Vigil.reporting]
    exact silent ▸ logged []

theorem ensures_consult {handshake : Handshake} {version : Int32}
    {returned : Unit → Vigil → Prop}
    (accepts : handshake.check version = .ok () →
      returned () (vigil.reporting [.consulted version]))
    (rejects : ∀ refusal, handshake.check version = .error refusal →
      ended (some (.refused refusal)) (vigil.reporting [.consulted version])) :
    (handshake.consult version : Watching Unit).Ensures vigil returned ended := by
  unfold Handshake.consult
  refine .bind (.of_returned rfl ?_)
  cases checked : handshake.check version with
  | ok => exact accepts checked
  | error refusal => exact rejects refusal checked

section Polling

variable {probe : Watching (Option β)} (seen : Storage → Option β)
  (looks : ∀ vigil : Vigil, probe vigil = (some (.ok (seen vigil.storage)), vigil.proceed))

include looks

/-- What a wait ends with was to be seen at one of its moments. -/
theorem ensures_pollUntilDeadline (deadline : Milliseconds) (interval rounds : Nat) :
    (pollUntilDeadline deadline interval probe rounds).Ensures vigil
      (fun result after => vigil.Precedes after ∧ ∃ moment, vigil.next ≤ moment ∧
        moment < after.next ∧ seen (vigil.moments moment).1 = result)
      (fun failure _ => failure = none) := by
  induction rounds generalizing vigil with
  | zero => exact rfl
  | succ rounds ih =>
    -- A round takes the moment of its look and, if it finds nothing, that of a clock reading.
    unfold pollUntilDeadline
    refine .bind (.of_returned (looks vigil) ?_)
    cases here : seen vigil.storage with
    | some value =>
      exact ⟨.proceed vigil, vigil.next, Nat.le_refl _, Nat.lt_succ_self _, here⟩
    | none =>
      refine .bind (.of_returned rfl ?_)
      split
      · refine ⟨.trans (.proceed _) (.proceed _), vigil.next, Nat.le_refl _, ?_, here⟩
        exact Nat.lt_succ_of_lt (Nat.lt_succ_self _)
      · refine .bind (.of_returned rfl (ih.imp ?_ fun _ _ pending => pending))
        rintro result after ⟨later, moment, early, late, there⟩
        refine ⟨.trans (.proceed _) (.trans (.proceed _) later), moment, ?_, late, there⟩
        exact Nat.le_of_succ_le (Nat.le_of_succ_le early)

/-- What a wait gives was to be seen at one of its moments, and if it is refused, there was a moment
without. -/
theorem ensures_pollUntilDeadline_refusing {finish : Option β → Watching β} {refusal : Refusal}
    (gives : ∀ value, finish (some value) = pure value)
    (refuses : finish none = Observer.fail (.refused refusal))
    (deadline : Milliseconds) (interval rounds : Nat) :
    (pollUntilDeadline deadline interval probe rounds >>= finish).Ensures vigil
      (fun value after => vigil.Precedes after ∧ ∃ moment, vigil.next ≤ moment ∧
        moment < after.next ∧ seen (vigil.moments moment).1 = some value)
      (fun failure _ => failure = none ∨ failure = some (.refused refusal) ∧
        ∃ moment, vigil.next ≤ moment ∧ seen (vigil.moments moment).1 = none) := by
  refine .bind ((ensures_pollUntilDeadline seen looks deadline interval rounds).imp ?_
    fun _ _ pending => .inl pending)
  rintro result after ⟨later, moment, early, late, there⟩
  cases result with
  | some value =>
    rw [gives]
    exact ⟨later, moment, early, late, there⟩
  | none =>
    rw [refuses]
    exact .inr ⟨rfl, moment, early, there⟩

end Polling

section Fields

variable {fields : ControlFields} (fit : fields.Fit) (deadline : Milliseconds) (rounds : Nat)
include fit

/-- A wait for a version. -/
theorem ensures_awaitVersion :
    (fields.awaitVersion deadline rounds : Watching Int32).Ensures vigil
      (fun version after => vigil.Precedes after ∧ ∃ moment, vigil.next ≤ moment ∧
        moment < after.next ∧ fields.published? (vigil.moments moment).1 = some version)
      (fun failure _ => failure = none ∨ failure = some (.refused .notInitialized) ∧
        ∃ moment, vigil.next ≤ moment ∧ fields.published? (vigil.moments moment).1 = none) := by
  refine ensures_pollUntilDeadline_refusing fields.published? ?_ (fun _ => rfl) rfl
    deadline fieldPollInterval rounds
  intro vigil
  apply look_and_work (fields.versionIn vigil.storage) nonzero?
  rw [fit.version_eq]
  rfl

/-- A wait for a heartbeat. -/
theorem ensures_awaitHeartbeat :
    (fields.awaitHeartbeat deadline rounds : Watching Milliseconds).Ensures vigil
      (fun timestamp after => vigil.Precedes after ∧ ∃ moment, vigil.next ≤ moment ∧
        moment < after.next ∧ fields.heartbeat? (vigil.moments moment).1 = some timestamp)
      (fun failure _ => failure = none ∨ failure = some (.refused .noHeartbeat) ∧
        ∃ moment, vigil.next ≤ moment ∧ fields.heartbeat? (vigil.moments moment).1 = none) := by
  refine ensures_pollUntilDeadline_refusing fields.heartbeat? ?_ (fun _ => rfl) rfl
    deadline fieldPollInterval rounds
  intro vigil
  apply look_and_work (fields.timestampIn vigil.storage) nonzero?
  rw [fit.timestamp_eq]
  rfl

end Fields

/-- A wait for a file of some length. -/
theorem ensures_awaitFile (path : String) (required : Nat) (deadline : Milliseconds)
    (rounds : Nat) :
    (Handshake.awaitFile path required deadline rounds : Watching Unit).Ensures vigil
      (fun _ after => vigil.Precedes after ∧ ∃ moment size, vigil.next ≤ moment ∧
        moment < after.next ∧ (vigil.moments moment).1.sizeOf? path = some size ∧ required ≤ size)
      (fun failure _ => failure = none ∨ failure = some (.refused (.fileNotFound path))) := by
  let seen : Storage → Option Nat := fun storage =>
    (storage.sizeOf? path).filter fun size => required ≤ size
  have looks (vigil : Vigil) : (do
      let size ← Observer.look fun storage => .ok (storage.sizeOf? path)
      pure (size.filter fun size => required ≤ size) : Watching (Option Nat)) vigil =
        (some (.ok (seen vigil.storage)), vigil.proceed) := look_and_work _ _ rfl
  refine .bind ((ensures_pollUntilDeadline seen looks deadline filePollInterval rounds).imp ?_
    fun _ _ pending => .inl pending)
  rintro result after ⟨later, moment, early, late, there⟩
  cases result with
  | some size =>
    obtain ⟨found, enough⟩ := Option.filter_eq_some_iff.1 there
    exact ⟨later, moment, size, early, late, found, of_decide_eq_true enough⟩
  | none => exact .inr rfl

end Watching

/-! ## A region in the making -/

/-- What a watcher can rely on who meets one storage after the other while an owner makes a region:
names stay, a file with room for the control fields keeps its length, and once a version is
published, it stays, and so does all that was written before. -/
structure Unfolds (path : String) (fields : ControlFields) (version : Int32)
    (beaten : Milliseconds → Prop) (told : Storage → Prop) (history : Nat → Storage) : Prop where
  /-- What has a name keeps it. -/
  kept : ∀ {i j : Nat}, i ≤ j → Storage.NamesKept (history i) (history j)
  /-- A file with room for the control fields is the region as it remains. -/
  sized : ∀ {i j : Nat} {object : ObjectId}, i ≤ j → (history i).openFile path = .ok object →
    fields.layout.timestampOffset + timestampSize ≤ ((history i).content object).size →
    fields.region = .mapping object 0 ((history j).content object).size
  /-- Behind a version there is the right version, a heartbeat and the payload. -/
  published : ∀ {i j : Nat}, i ≤ j → fields.versionIn (history i) ≠ 0 →
    fields.versionIn (history j) = version ∧ beaten (fields.timestampIn (history j)) ∧
      told (history j)
  /-- No heartbeat is zero. -/
  alive : ∀ time, beaten time → time ≠ 0

/-- Meeting the storages now and then, but never going back, is as good. -/
theorem Unfolds.comp {path : String} {fields : ControlFields} {version : Int32}
    {beaten : Milliseconds → Prop} {told : Storage → Prop} {history : Nat → Storage}
    (unfolds : Unfolds path fields version beaten told history) {schedule : Nat → Nat}
    (forward : ∀ i j, i ≤ j → schedule i ≤ schedule j) :
    Unfolds path fields version beaten told fun moment => history (schedule moment) where
  kept later := unfolds.kept (forward _ _ later)
  sized later := unfolds.sized (forward _ _ later)
  published later := unfolds.published (forward _ _ later)
  alive := unfolds.alive

/-- What a mapping of a whole file asks for. -/
theorem mapWhole_eq_ok {storage : Storage} {path task : String} {region : Region}
    (mapped : Handshake.filesResult task path (storage.mapWhole path) = .ok region) :
    ∃ object, storage.openFile path = .ok object ∧
      region = .mapping object 0 (storage.content object).size := by
  unfold Storage.mapWhole at mapped
  cases opened : storage.openFile path with
  | error _ => simp only [opened, Handshake.filesResult, reduceCtorEq] at mapped
  | ok object =>
    simp only [opened, Handshake.filesResult, Except.ok.injEq] at mapped
    exact ⟨object, rfl, mapped.symm⟩

namespace Watching

variable {handshake : Handshake} {path : String} {fields : ControlFields} {version : Int32}
  {beaten : Milliseconds → Prop} {told : Storage → Prop} {vigil : Vigil}
  (layout : handshake.layout = fields.layout)
  (unfolds : Unfolds path fields version beaten told fun moment => (vigil.moments moment).1)

include unfolds

/-- What is mapped after a file with room for the control fields was seen is the region. -/
theorem region_of_sizeOf {i j size : Nat} {object : ObjectId} (later : i ≤ j)
    (found : (vigil.moments i).1.sizeOf? path = some size)
    (room : fields.layout.timestampOffset + timestampSize ≤ size)
    (opened : (vigil.moments j).1.openFile path = .ok object) :
    fields.region = .mapping object 0 ((vigil.moments j).1.content object).size ∧
      fields.layout.timestampOffset + timestampSize ≤ fields.region.capacity := by
  have kept := unfolds.kept later
  unfold Storage.sizeOf? at found
  cases located : (vigil.moments i).1.locate path with
  | error _ => simp only [located, reduceCtorEq] at found
  | ok place =>
    have still := Storage.locate_of_namesKept kept located
    obtain ⟨location, entry⟩ := place
    cases entry with
    | directory => simp only [Storage.openFile, still, reduceCtorEq] at opened
    | file other =>
      simp only [Storage.openFile, still, Except.ok.injEq] at opened
      simp only [located, Option.some.injEq] at found
      subst opened found
      have before : (vigil.moments i).1.openFile path = .ok other := by
        simp only [Storage.openFile, located]
      refine ⟨unfolds.sized later before room, ?_⟩
      rw [unfolds.sized (Nat.le_refl i) before room]
      exact room

include layout

/-- A watcher maps nothing but the region, and not before it has room for the control fields. -/
theorem ensures_mapWhenPresent (deadline : Milliseconds) (rounds : Nat) :
    (handshake.mapWhenPresent path deadline rounds : Watching Region).Ensures vigil
      (fun region after => region = fields.region ∧
        fields.layout.timestampOffset + timestampSize ≤ region.capacity ∧
        after.moments = vigil.moments ∧ vigil.next ≤ after.next)
      (fun failure _ => failure ≠ some (.refused .noHeartbeat)) := by
  refine .bind (ensures_look ?_ ?_)
  · intro required needed
    have least : required = fields.layout.timestampOffset + timestampSize := by
      unfold Layout.requiredLength checkedSum at needed
      rw [layout] at needed
      split at needed
      · exact (Except.ok.inj needed).symm
      · cases needed
    refine .bind ((ensures_awaitFile path required deadline rounds).imp ?_ ?_)
    · rintro _ waited ⟨later, moment, size, early, late, found, enough⟩
      refine .bind (ensures_log ?_)
      intro reports
      have moments : waited.moments = vigil.moments := later.moments
      have here : (waited.reporting reports).storage = (vigil.moments waited.next).1 := by
        rw [← moments]
        rfl
      apply ensures_look
      · intro region mapped
        rw [here] at mapped
        obtain ⟨object, opened, rfl⟩ := mapWhole_eq_ok mapped
        obtain ⟨same, room⟩ := region_of_sizeOf unfolds (Nat.le_of_lt late) found
          (least ▸ enough) opened
        exact ⟨same.symm, same ▸ room, moments,
          Nat.le_trans (Nat.le_succ _) (Nat.le_succ_of_le later.next)⟩
      · intro failure unmapped
        unfold Handshake.filesResult at unmapped
        split at unmapped
        · cases unmapped
        · cases unmapped
          exact nofun
    · rintro failure _ (pending | refused) same
      · cases pending.symm.trans same
      · cases refused.symm.trans same
  · intro failure faulty
    unfold Failure.ofFault at faulty
    split at faulty
    · cases faulty
    · cases faulty
      exact nofun

/-- A watcher that attaches has checked the version of the owner and seen a heartbeat of the owner,
and finds all that was told in place from then on.  It never waits in vain for a heartbeat. -/
theorem ensures_openExisting (directory filename : String)
    (place : path = Path.join directory filename) (rounds : Nat) :
    (handshake.openExisting directory filename rounds : Watching Handle).Ensures vigil
      (fun handle after => handshake.check version = .ok () ∧
        handle = ⟨fields.layout, some directory, some path, some ⟨fields.region, .owned⟩, false⟩ ∧
        fields.layout.timestampOffset + timestampSize ≤ fields.region.capacity ∧
        (∃ (earlier : List Report) (timestamp : Milliseconds), beaten timestamp ∧
          after.journal = earlier ++ [.consulted version, .event .debug "attached to cnc file"
            [("path", .text path), ("version", .number version.toInt),
              ("timestamp", .number timestamp.toInt)]]) ∧
        after.moments = vigil.moments ∧
        ∀ moment, after.next ≤ moment → told (vigil.moments moment).1)
      (fun failure _ => failure = some (.refused .noHeartbeat) →
        handshake.check version = .error .noHeartbeat) := by
  subst place
  unfold Handshake.openExisting
  refine .bind (.of_returned rfl ?_)
  have later : Unfolds (Path.join directory filename) fields version beaten told
      fun moment => (vigil.proceed.moments moment).1 := unfolds
  refine .bind ((ensures_mapWhenPresent layout later _ rounds).imp ?_
    fun _ _ failed same => absurd same failed)
  rintro _ mapped ⟨rfl, room, moments, _⟩
  refine .bind (ensures_look ?_ ?_)
  · intro _ fits
    have same : (⟨fields.region, handshake.layout⟩ : ControlFields) = fields := by rw [layout]
    have fit : fields.Fit := by
      rw [layout] at fits
      exact fits
    rw [same]
    refine .bind ((ensures_awaitVersion fit _ rounds).imp ?_ ?_)
    · rintro found sighted ⟨later, moment, _, late, there⟩
      have known : sighted.moments = vigil.moments := later.moments.trans moments
      rw [show mapped.proceed.moments = vigil.moments from moments] at there
      obtain ⟨shown, published⟩ := nonzero?_eq_some.1 there
      have behind {j : Nat} (next : moment ≤ j) := unfolds.published next (shown ▸ published)
      obtain rfl : found = version := shown.symm.trans (behind (Nat.le_refl _)).1
      refine .bind (ensures_consult ?_ ?_)
      · intro accepts
        refine .bind ((ensures_awaitHeartbeat fit _ rounds).imp ?_ ?_)
        · rintro timestamp beating ⟨still, beat, from', until', alive⟩
          have moments' : beating.moments = vigil.moments := still.moments.trans known
          rw [show (sighted.reporting [.consulted found]).moments = vigil.moments from known]
            at alive
          obtain ⟨written, _⟩ := nonzero?_eq_some.1 alive
          have after : moment ≤ beat := Nat.le_trans (Nat.le_of_lt late) from'
          refine .bind (.of_returned rfl (ensures_look ?_ ?_))
          · intro handle opened
            unfold Handle.ofView at opened
            rw [fits] at opened
            cases opened
            refine ⟨accepts, by rw [layout], room, ⟨sighted.journal, timestamp, ?_, ?_⟩, moments',
              ?_⟩
            · exact written ▸ (behind after).2.1
            · change beating.journal ++ _ = _
              rw [still.journal]
              exact List.append_assoc _ _ _
            · intro j next
              have later' : beat ≤ j :=
                Nat.le_trans (Nat.le_of_lt until') (Nat.le_of_succ_le next)
              exact (behind (Nat.le_trans after later')).2.2
          · intro failure unfit
            unfold Handle.ofView at unfit
            rw [fits] at unfit
            cases unfit
        · rintro failure _ (pending | ⟨_, beat, from', silent⟩) same
          · cases pending.symm.trans same
          · -- Behind a version there is always a heartbeat, so this wait cannot be in vain.
            rw [show (sighted.reporting [.consulted found]).moments = vigil.moments from known]
              at silent
            have after : moment ≤ beat := Nat.le_trans (Nat.le_of_lt late) from'
            exact absurd (nonzero?_eq_none.1 silent) (unfolds.alive _ (behind after).2.1)
      · intro refusal rejects same
        cases same
        exact rejects
    · rintro failure _ (pending | ⟨refused, _⟩) same
      · cases pending.symm.trans same
      · cases refused.symm.trans same
  · intro failure unfit same
    cases same
    cases Layout.class?_of_verify unfit

end Watching

end Heartbeat
