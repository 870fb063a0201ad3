import Heartbeat.Proofs.Ending

/-!
# How far an owner has to come for a watcher to attach

An attachment makes one deadline and then takes the steps that an owner takes: it waits for the
file, maps it, waits for the version, asks the version check, and waits for the heartbeat.  Each of
these is a stage that ends the attachment or leads to the next one (`ends_mapWhenPresent_iff`,
`ends_meet_iff`, `ends_hear_iff`), and `Appears`, `Maps` and `Meets` tell how far it came.

So its failure says how far the owner had come (`openExisting_ends_iff`).  No file with room for the
control fields: none of the probes before the deadline saw one, however short the files were that
they saw.  No version, or no heartbeat: the file was there, and the wait probed nothing but zeros.
A refused version ends the attachment where it was found, without another look at the clock.  And
if a heartbeat is found, it makes no difference how old it is.
-/

set_option autoImplicit false

namespace Heartbeat.Handshake

variable {handshake : Handshake} {directory filename path : String} {world : World}
  {environment ended : Environment}

/-! ## The stages of an attachment -/

/-- How the wait for a file with room for the control fields goes. -/
def Appears (handshake : Handshake) (path : String) (world : World) (found : Option Nat)
    (after : World) : Prop :=
  Waits (·.sizeFrom? path (handshake.layout.timestampOffset + timestampSize))
    (handshake.deadlineIn world) world.tick found after

/-- A file was found and mapped, and its region can carry the control fields. -/
structure Maps (handshake : Handshake) (path : String) (world : World) (region : Region)
    (mapped : World) : Prop where
  appears : ∃ size, handshake.Appears path world (some size) mapped
  whole : mapped.storage.mapWhole path = .ok region
  fit : (⟨region, handshake.layout⟩ : ControlFields).Fit

/-- A version was found in the region of such a file. -/
structure Meets (handshake : Handshake) (path : String) (world : World) (region : Region)
    (version : Int32) (met : World) : Prop where
  waited : ∃ mapped, handshake.Maps path world region mapped ∧
    Waits (ControlFields.published? ⟨region, handshake.layout⟩) (handshake.deadlineIn world) mapped
      (some version) met

/-- What an attachment reports when it has found a file. -/
def sighting (handshake : Handshake) (path : String) : List Report :=
  handshake.messages s!"cnc file exists: {path}"

/-- What an attachment reports when it has found an acceptable version and a heartbeat. -/
def arrival (path : String) (version : Int32) (timestamp : Milliseconds) : List Report :=
  [.consulted version, .event .debug "attached to cnc file"
    [("path", .text path), ("version", .number version.toInt),
      ("timestamp", .number timestamp.toInt)]]

/-- The handle that an attachment gives. -/
def attachment (handshake : Handshake) (directory filename : String) (region : Region) : Handle :=
  ⟨handshake.layout, some directory, some (Path.join directory filename), some ⟨region, .owned⟩, false⟩

/-! ## The ends of an attachment -/

/-- What an attachment does when it has found a version. -/
def hear (handshake : Handshake) (directory filename : String) (deadline : Milliseconds)
    (region : Region) (version : Int32) (rounds : Nat) : Activity Handle := do
  handshake.consult version
  let timestamp ← ControlFields.awaitHeartbeat ⟨region, handshake.layout⟩ deadline rounds
  Observer.report (.event .debug "attached to cnc file"
    [("path", .text (Path.join directory filename)), ("version", .number version.toInt),
      ("timestamp", .number timestamp.toInt)])
  Observer.look fun _ => Handle.ofView ⟨region, .owned⟩ handshake.layout (some directory)
    (some (Path.join directory filename))

/-- What an attachment does when it has mapped a file. -/
def meet (handshake : Handshake) (directory filename : String) (deadline : Milliseconds)
    (region : Region) (rounds : Nat) : Activity Handle := do
  requireFit handshake.layout region
  let version ← ControlFields.awaitVersion ⟨region, handshake.layout⟩ deadline rounds
  handshake.hear directory filename deadline region version rounds

theorem openExisting_eq :
    (handshake.openExisting directory filename : Nat → Activity Handle) = (fun rounds => do
      let deadline ← deadlineAfter handshake.timeout
      let region ← handshake.mapWhenPresent (Path.join directory filename) deadline rounds
      handshake.meet directory filename deadline region rounds) := rfl

section Ends

variable (deadline : Milliseconds)

/-- Mapping a file that was waited for ends with the wait, or with the mapping. -/
theorem ends_mapWhenPresent_iff (representable : handshake.layout.Representable)
    {result : Except Failure Region} :
    Ends (handshake.mapWhenPresent path deadline) environment result ended ↔
      (∃ after, Waits (·.sizeFrom? path (handshake.layout.timestampOffset + timestampSize))
          deadline environment.world none after ∧
        result = .error (.refused (.fileNotFound path)) ∧ ended = environment.inside after) ∨
      ∃ size after, Waits (·.sizeFrom? path (handshake.layout.timestampOffset + timestampSize))
          deadline environment.world (some size) after ∧
        result = filesResult "map cnc file" path (after.storage.mapWhole path) ∧
        ended = (environment.inside after).reporting (handshake.sighting path) := by
  have required : (Observer.look fun _ => Failure.ofFault handshake.layout.requiredLength :
      Activity Nat).run environment =
        .returned (handshake.layout.timestampOffset + timestampSize) environment := by
    rw [Activity.run_look, Layout.requiredLength_eq_ok representable]
    rfl
  have mapping (found : Environment) : (do
        handshake.log s!"cnc file exists: {path}"
        Observer.look fun storage => filesResult "map cnc file" path (storage.mapWhole path) :
          Activity Region).run found = .ofExcept result ended ↔
      result = filesResult "map cnc file" path (found.storage.mapWhole path) ∧
        ended = found.reporting (handshake.sighting path) := by
    rw [Activity.run_bind_of_returned _ (Activity.run_log_eq _ _ _), Activity.run_look, eq_comm,
      Outcome.ofExcept_inj]
    rfl
  unfold mapWhenPresent
  rw [ends_bind_of_returned required, ends_bind_activity_iff (patient_awaitFile deadline path _)]
  simp only [ends_awaitFile_iff, mapping]
  constructor
  · rintro (⟨_, ⟨found, after, waits, missing, rfl⟩, rfl⟩ |
      ⟨_, _, ⟨found, after, waits, there, rfl⟩, same, rfl⟩)
    · cases found with
      | none =>
        obtain rfl := Except.error.inj missing
        exact .inl ⟨after, waits, rfl, rfl⟩
      | some _ => cases missing
    · cases found with
      | none => cases there
      | some size => exact .inr ⟨size, after, waits, same, rfl⟩
  · rintro (⟨after, waits, rfl, rfl⟩ | ⟨size, after, waits, same, rfl⟩)
    · exact .inl ⟨_, ⟨none, after, waits, rfl, rfl⟩, rfl⟩
    · exact .inr ⟨(), _, ⟨some size, after, waits, rfl, rfl⟩, same, rfl⟩

theorem patient_mapWhenPresent :
    Patient (handshake.mapWhenPresent path deadline : Nat → Activity Region) :=
  .bind (.const _) fun _ => .bind (patient_awaitFile deadline path _) fun _ => .const _

variable {region : Region}

theorem patient_hear (version : Int32) :
    Patient (handshake.hear directory filename deadline region version) :=
  .bind (.const _) fun _ => .bind (patient_awaitHeartbeat deadline) fun _ => .const _

theorem patient_meet : Patient (handshake.meet directory filename deadline region) :=
  .bind (.const _) fun _ => .bind (patient_awaitVersion deadline) (patient_hear deadline)

/-- A region that cannot carry the control fields ends an attachment. -/
theorem ends_meet_of_unfit {failure : Failure}
    (unfit : handshake.layout.check region = .error failure) {result : Except Failure Handle} :
    Ends (handshake.meet directory filename deadline region) environment result ended ↔
      result = .error failure ∧ ended = environment := by
  refine ends_bind_of_failed ?_
  rw [requireFit, Activity.run_look, unfit]
  rfl

section Fit

variable (fit : (⟨region, handshake.layout⟩ : ControlFields).Fit)
include fit

/-- What is left of an attachment that has found a version ends with the version check, or with the
wait for a heartbeat. -/
theorem ends_hear_iff (version : Int32) {result : Except Failure Handle} :
    Ends (handshake.hear directory filename deadline region version) environment result ended ↔
      (∃ refusal, handshake.check version = .error refusal ∧
        result = .error (.refused refusal) ∧ ended = environment.reporting [.consulted version]) ∨
      handshake.check version = .ok () ∧
        ((∃ after, Waits (ControlFields.heartbeat? ⟨region, handshake.layout⟩) deadline
            environment.world none after ∧
          result = .error (.refused .noHeartbeat) ∧
          ended = (environment.inside after).reporting [.consulted version]) ∨
        ∃ timestamp after, Waits (ControlFields.heartbeat? ⟨region, handshake.layout⟩) deadline
            environment.world (some timestamp) after ∧
          result = .ok (handshake.attachment directory filename region) ∧
          ended = (environment.inside after).reporting
            (arrival (Path.join directory filename) version timestamp)) := by
  have given (timestamp : Milliseconds) (beaten : Environment) : (do
        Observer.report (.event .debug "attached to cnc file"
          [("path", .text (Path.join directory filename)), ("version", .number version.toInt),
            ("timestamp", .number timestamp.toInt)])
        Observer.look fun _ => Handle.ofView ⟨region, .owned⟩ handshake.layout (some directory)
          (some (Path.join directory filename)) : Activity Handle).run
        (beaten.reporting [.consulted version]) = .ofExcept result ended ↔
      result = .ok (handshake.attachment directory filename region) ∧
        ended = beaten.reporting (arrival (Path.join directory filename) version timestamp) := by
    have fits : handshake.layout.check region = .ok () := fit
    rw [Activity.run_bind_of_returned _ (Activity.run_report _ _), Activity.run_look,
      Handle.ofView_eq, fits, eq_comm, Outcome.ofExcept_inj, Environment.reporting_reporting]
    rfl
  have consulted := Activity.run_consult environment handshake version
  unfold hear
  cases checked : handshake.check version with
  | error refusal =>
    rw [checked] at consulted
    rw [ends_bind_of_failed consulted]
    simp
  | ok =>
    rw [checked] at consulted
    rw [ends_bind_of_returned consulted, ends_bind_activity_iff (patient_awaitHeartbeat deadline)]
    simp only [ends_awaitHeartbeat_iff deadline fit, Environment.world_reporting,
      Environment.reporting_inside, reduceCtorEq, false_and, exists_false, false_or, true_and]
    constructor
    · rintro (⟨_, ⟨found, after, waits, missing, rfl⟩, rfl⟩ |
        ⟨timestamp, _, ⟨found, after, waits, there, rfl⟩, ends⟩)
      · cases found with
        | none =>
          obtain rfl := Except.error.inj missing
          exact .inl ⟨after, waits, rfl, rfl⟩
        | some _ => cases missing
      · cases found with
        | none => cases there
        | some beat =>
          cases there
          obtain ⟨rfl, rfl⟩ := (given _ _).1 ends
          exact .inr ⟨_, after, waits, rfl, rfl⟩
    · rintro (⟨after, waits, rfl, rfl⟩ | ⟨timestamp, after, waits, rfl, rfl⟩)
      · exact .inl ⟨_, ⟨none, after, waits, rfl, rfl⟩, rfl⟩
      · exact .inr ⟨timestamp, _, ⟨some timestamp, after, waits, rfl, rfl⟩,
          (given _ _).2 ⟨rfl, rfl⟩⟩

/-- What is left of an attachment that has mapped a region that can carry the control fields ends
with the wait for a version, or after it. -/
theorem ends_meet_iff {result : Except Failure Handle} :
    Ends (handshake.meet directory filename deadline region) environment result ended ↔
      (∃ after, Waits (ControlFields.published? ⟨region, handshake.layout⟩) deadline
          environment.world none after ∧
        result = .error (.refused .notInitialized) ∧ ended = environment.inside after) ∨
      ∃ version met, Waits (ControlFields.published? ⟨region, handshake.layout⟩) deadline
          environment.world (some version) met ∧
        Ends (handshake.hear directory filename deadline region version) (environment.inside met)
          result ended := by
  have fits : (requireFit handshake.layout region : Activity Unit).run environment =
      .returned () environment := by
    rw [requireFit, Activity.run_look, show handshake.layout.check region = .ok () from fit]
    rfl
  unfold meet
  rw [ends_bind_of_returned fits,
    ends_bind_iff (patient_awaitVersion deadline) fun version => patient_hear deadline version]
  simp only [ends_awaitVersion_iff deadline fit]
  constructor
  · rintro (⟨_, ⟨found, after, waits, missing, rfl⟩, rfl⟩ |
      ⟨version, _, ⟨found, met, waits, there, rfl⟩, ends⟩)
    · cases found with
      | none =>
        obtain rfl := Except.error.inj missing
        exact .inl ⟨after, waits, rfl, rfl⟩
      | some _ => cases missing
    · cases found with
      | none => cases there
      | some other =>
        cases there
        exact .inr ⟨_, met, waits, ends⟩
  · rintro (⟨after, waits, rfl, rfl⟩ | ⟨version, met, waits, ends⟩)
    · exact .inl ⟨_, ⟨none, after, waits, rfl, rfl⟩, rfl⟩
    · exact .inr ⟨version, _, ⟨some version, met, waits, rfl, rfl⟩, ends⟩

end Fit

variable (representable : handshake.layout.Representable)
include representable

/-- An attachment ends with the wait for a file, with the mapping, or after it. -/
theorem ends_openExisting_iff_ends_meet {result : Except Failure Handle} :
    Ends (handshake.openExisting directory filename) environment result ended ↔
      (∃ after, handshake.Appears (Path.join directory filename) environment.world none after ∧
        result = .error (.refused (.fileNotFound (Path.join directory filename))) ∧
        ended = environment.inside after) ∨
      ∃ size mapped,
        handshake.Appears (Path.join directory filename) environment.world (some size) mapped ∧
        ((∃ cause, mapped.storage.mapWhole (Path.join directory filename) = .error cause ∧
          result =
            .error (.refused (.files "map cnc file" (Path.join directory filename) cause)) ∧
          ended = (environment.inside mapped).reporting
            (handshake.sighting (Path.join directory filename))) ∨
        ∃ region, mapped.storage.mapWhole (Path.join directory filename) = .ok region ∧
          Ends (handshake.meet directory filename (handshake.deadlineIn environment.world) region)
            ((environment.inside mapped).reporting
              (handshake.sighting (Path.join directory filename))) result ended) := by
  rw [openExisting_eq, ends_bind_of_returned (run_deadline handshake environment),
    ends_bind_iff (patient_mapWhenPresent _) fun region => patient_meet _]
  simp only [ends_mapWhenPresent_iff _ representable]
  constructor
  · rintro (⟨failure, ⟨after, absent, missing, rfl⟩ | ⟨size, mapped, appears, refused, rfl⟩, rfl⟩ |
      ⟨region, _, ⟨_, _, missing, _⟩ | ⟨size, mapped, appears, found, rfl⟩, ends⟩)
    · obtain rfl := Except.error.inj missing
      exact .inl ⟨after, absent, rfl, rfl⟩
    · cases whole : mapped.storage.mapWhole (Path.join directory filename) with
      | ok region =>
        rw [whole] at refused
        cases refused
      | error cause =>
        rw [whole] at refused
        obtain rfl := Except.error.inj refused
        exact .inr ⟨size, mapped, appears, .inl ⟨cause, whole, rfl, rfl⟩⟩
    · cases missing
    · exact .inr ⟨size, mapped, appears, .inr ⟨region, filesResult_eq_ok_iff.1 found.symm, ends⟩⟩
  · rintro (⟨after, absent, rfl, rfl⟩ |
      ⟨size, mapped, appears, ⟨cause, whole, rfl, rfl⟩ | ⟨region, whole, ends⟩⟩)
    · exact .inl ⟨_, .inl ⟨after, absent, rfl, rfl⟩, rfl⟩
    · exact .inl ⟨_, .inr ⟨size, mapped, appears, by rw [whole]; rfl, rfl⟩, rfl⟩
    · exact .inr ⟨region, _, .inr ⟨size, mapped, appears, by rw [whole]; rfl, rfl⟩, ends⟩

/-- An attachment to a file that cannot be mapped ends there. -/
theorem ends_openExisting_of_unmapped {size : Nat} {mapped : World} {cause : FileError}
    (appears : handshake.Appears (Path.join directory filename) environment.world (some size) mapped)
    (refuses : mapped.storage.mapWhole (Path.join directory filename) = .error cause)
    {result : Except Failure Handle} :
    Ends (handshake.openExisting directory filename) environment result ended ↔
      result = .error (.refused (.files "map cnc file" (Path.join directory filename) cause)) ∧
        ended = (environment.inside mapped).reporting
          (handshake.sighting (Path.join directory filename)) := by
  rw [ends_openExisting_iff_ends_meet representable]
  constructor
  · rintro (⟨after, absent, _, _⟩ |
      ⟨_, _, again, ⟨other, whole, rfl, rfl⟩ | ⟨region, whole, _⟩⟩)
    · cases (absent.unique appears).1
    · obtain ⟨_, rfl⟩ := again.unique appears
      obtain rfl := Except.error.inj (whole.symm.trans refuses)
      exact ⟨rfl, rfl⟩
    · obtain ⟨_, rfl⟩ := again.unique appears
      cases whole.symm.trans refuses
  · rintro ⟨rfl, rfl⟩
    exact .inr ⟨size, mapped, appears, .inl ⟨cause, refuses, rfl, rfl⟩⟩

/-- An attachment that has mapped a file ends as what is left of it does. -/
theorem ends_openExisting_of_mapped {size : Nat} {mapped : World} {region : Region}
    (appears : handshake.Appears (Path.join directory filename) environment.world (some size) mapped)
    (whole : mapped.storage.mapWhole (Path.join directory filename) = .ok region)
    {result : Except Failure Handle} :
    Ends (handshake.openExisting directory filename) environment result ended ↔
      Ends (handshake.meet directory filename (handshake.deadlineIn environment.world) region)
        ((environment.inside mapped).reporting
          (handshake.sighting (Path.join directory filename))) result ended := by
  rw [ends_openExisting_iff_ends_meet representable]
  constructor
  · rintro (⟨after, absent, _, _⟩ |
      ⟨_, _, again, ⟨cause, refuses, _, _⟩ | ⟨other, whole', ends⟩⟩)
    · cases (absent.unique appears).1
    · obtain ⟨_, rfl⟩ := again.unique appears
      cases whole.symm.trans refuses
    · obtain ⟨_, rfl⟩ := again.unique appears
      obtain rfl := Except.ok.inj (whole'.symm.trans whole)
      exact ends
  · exact fun ends => .inr ⟨size, mapped, appears, .inr ⟨region, whole, ends⟩⟩

/-- An attachment that has found a version ends as what is left of it does. -/
theorem ends_openExisting_of_meets {region : Region} {version : Int32} {met : World}
    (meets : handshake.Meets (Path.join directory filename) environment.world region version met)
    {result : Except Failure Handle} :
    Ends (handshake.openExisting directory filename) environment result ended ↔
      Ends (handshake.hear directory filename (handshake.deadlineIn environment.world) region
        version) ((environment.inside met).reporting
          (handshake.sighting (Path.join directory filename))) result ended := by
  obtain ⟨mapped, maps, waits⟩ := meets.waited
  obtain ⟨size, appears⟩ := maps.appears
  rw [ends_openExisting_of_mapped representable appears maps.whole, ends_meet_iff _ maps.fit]
  constructor
  · rintro (⟨after, silent, _, _⟩ | ⟨other, again, waits', ends⟩)
    · cases (silent.unique waits).1
    · obtain ⟨same, rfl⟩ := waits'.unique waits
      obtain rfl := Option.some.inj same
      exact ends
  · exact fun ends => .inr ⟨version, met, waits, ends⟩

end Ends

/-! ## The ends of an attachment, probe by probe -/

section Stages

variable {result : Except Failure Handle}

/-- What is left of an attachment that has mapped a file ends because the region cannot carry the
control fields, because there is no version, or after a consultation of the version check. -/
theorem journal_of_ends_meet {deadline : Milliseconds} {region : Region}
    (ends : Ends (handshake.meet directory filename deadline region) environment result ended) :
    (∃ failure, handshake.layout.check region = .error failure ∧ result = .error failure) ∨
      result = .error (.refused .notInitialized) ∧ ended.journal = environment.journal ∨
        ∃ version more, ended.journal = environment.journal ++ .consulted version :: more := by
  cases fits : handshake.layout.check region with
  | error failure => exact .inl ⟨failure, rfl, ((ends_meet_of_unfit _ fits).1 ends).1⟩
  | ok =>
    rcases (ends_meet_iff _ fits).1 ends with ⟨after, _, rfl, rfl⟩ | ⟨version, met, _, ends⟩
    · exact .inr (.inl ⟨rfl, rfl⟩)
    · rcases (ends_hear_iff _ fits version).1 ends with
        ⟨_, _, _, rfl⟩ | ⟨_, ⟨_, _, _, rfl⟩ | ⟨_, _, _, _, rfl⟩⟩
      · exact .inr (.inr ⟨version, [], rfl⟩)
      · exact .inr (.inr ⟨version, [], rfl⟩)
      · exact .inr (.inr ⟨version, _, rfl⟩)

variable (representable : handshake.layout.Representable)
include representable

/-- An attachment misses the file, without a report, if the wait for it probes nothing but files
that are too short, or none. -/
theorem ends_fileNotFound_iff :
    Ends (handshake.openExisting directory filename) environment
        (.error (.refused (.fileNotFound (Path.join directory filename)))) ended ∧
        ended.journal = environment.journal ↔
      ∃ probes, environment.world.tick.Expires (Aim.file (Path.join directory filename)
          (handshake.layout.timestampOffset + timestampSize)).Lacks
          (handshake.deadlineIn environment.world) probes ∧
        ended = environment.inside (environment.world.tick.ticks (probes + 1)) := by
  have lacks : (Aim.file (Path.join directory filename)
      (handshake.layout.timestampOffset + timestampSize)).Lacks = fun storage =>
        storage.sizeFrom? (Path.join directory filename)
          (handshake.layout.timestampOffset + timestampSize) = none :=
    funext fun _ => propext Aim.lacks_file_iff.symm
  rw [lacks]
  constructor
  · rintro ⟨ends, silent⟩
    rcases (ends_openExisting_iff_ends_meet representable).1 ends with ⟨after, absent, _, rfl⟩ |
      ⟨size, mapped, _, ⟨_, _, other, _⟩ | ⟨region, _, ends⟩⟩
    · obtain ⟨probes, expires, rfl⟩ := waits_none_iff.1 absent
      exact ⟨probes, expires, rfl⟩
    · cases other
    · rcases journal_of_ends_meet ends with
        ⟨failure, unfit, same⟩ | ⟨other, _⟩ | ⟨version, more, told⟩
      · obtain rfl := Except.error.inj same
        cases Layout.class?_of_verify unfit
      · cases other
      · have longer : environment.journal ++ [] = environment.journal ++
            (handshake.sighting (Path.join directory filename) ++ .consulted version :: more) := by
          rw [List.append_nil, ← List.append_assoc]
          exact silent.symm.trans told
        cases (List.append_eq_nil_iff.1 (List.append_cancel_left longer).symm).2
  · rintro ⟨probes, expires, rfl⟩
    exact ⟨(ends_openExisting_iff_ends_meet representable).2
      (.inl ⟨_, waits_none_iff.2 ⟨probes, expires, rfl⟩, rfl, rfl⟩), rfl⟩

/-- An attachment that does not miss the file finds one. -/
theorem finds_of_ends
    (ends : Ends (handshake.openExisting directory filename) environment result ended) :
    result = .error (.refused (.fileNotFound (Path.join directory filename))) ∧
        ended.journal = environment.journal ∨
      ∃ probes size, environment.world.tick.Finds
        (·.sizeFrom? (Path.join directory filename)
          (handshake.layout.timestampOffset + timestampSize))
        (handshake.deadlineIn environment.world) probes size := by
  rcases (ends_openExisting_iff_ends_meet representable).1 ends with ⟨after, _, rfl, rfl⟩ |
    ⟨size, mapped, appears, _⟩
  · exact .inl ⟨rfl, rfl⟩
  · obtain ⟨probes, finds, _⟩ := waits_some_iff.1 appears
    exact .inr ⟨probes, size, finds⟩

section Mapped

variable {region : Region} {mapped : World}
  (maps : handshake.Maps (Path.join directory filename) environment.world region mapped)
include maps

/-- An attachment that has mapped a file misses the version, without a further report, if the wait
for it probes nothing but zeros. -/
theorem ends_notInitialized_iff :
    Ends (handshake.openExisting directory filename) environment
        (.error (.refused .notInitialized)) ended ∧
        ended.journal =
          environment.journal ++ handshake.sighting (Path.join directory filename) ↔
      ∃ probes, mapped.Expires
          (fun storage => ControlFields.versionIn ⟨region, handshake.layout⟩ storage = 0)
          (handshake.deadlineIn environment.world) probes ∧
        ended = (environment.inside (mapped.ticks (probes + 1))).reporting
          (handshake.sighting (Path.join directory filename)) := by
  obtain ⟨size, appears⟩ := maps.appears
  rw [ends_openExisting_of_mapped representable appears maps.whole,
    ← ControlFields.published?_eq_none]
  constructor
  · rintro ⟨ends, silent⟩
    rcases (ends_meet_iff _ maps.fit).1 ends with ⟨after, waits, _, rfl⟩ | ⟨version, met, _, ends⟩
    · obtain ⟨probes, expires, rfl⟩ := waits_none_iff.1 waits
      exact ⟨probes, expires, by simp⟩
    · have told : ∃ more, ended.journal = (environment.journal ++
          handshake.sighting (Path.join directory filename)) ++ .consulted version :: more := by
        rcases (ends_hear_iff _ maps.fit version).1 ends with
          ⟨_, _, _, rfl⟩ | ⟨_, ⟨_, _, other, _⟩ | ⟨_, _, _, other, _⟩⟩
        · exact ⟨[], rfl⟩
        · cases other
        · cases other
      obtain ⟨more, told⟩ := told
      have longer := (List.append_nil _).trans (silent.symm.trans told)
      cases List.append_cancel_left longer
  · rintro ⟨probes, expires, rfl⟩
    exact ⟨(ends_meet_iff _ maps.fit).2
      (.inl ⟨_, waits_none_iff.2 ⟨probes, expires, rfl⟩, rfl, by simp⟩), rfl⟩

/-- An attachment that has mapped a file and does not miss the version finds one. -/
theorem meets_of_ends
    (ends : Ends (handshake.openExisting directory filename) environment result ended) :
    result = .error (.refused .notInitialized) ∧ ended.journal =
        environment.journal ++ handshake.sighting (Path.join directory filename) ∨
      ∃ version probes, mapped.Finds (ControlFields.published? ⟨region, handshake.layout⟩)
        (handshake.deadlineIn environment.world) probes version := by
  obtain ⟨size, appears⟩ := maps.appears
  rw [ends_openExisting_of_mapped representable appears maps.whole] at ends
  rcases (ends_meet_iff _ maps.fit).1 ends with ⟨after, _, rfl, rfl⟩ | ⟨version, met, waits, _⟩
  · exact .inl ⟨rfl, rfl⟩
  · obtain ⟨probes, finds, _⟩ := waits_some_iff.1 waits
    exact .inr ⟨version, probes, finds⟩

end Mapped

section Met

variable {region : Region} {version : Int32} {met : World}
  (meets : handshake.Meets (Path.join directory filename) environment.world region version met)
include meets

/-- An attachment that has found a version which the check refuses ends there. -/
theorem ends_openExisting_of_rejected {refusal : Refusal}
    (rejects : handshake.check version = .error refusal) :
    Ends (handshake.openExisting directory filename) environment result ended ↔
      result = .error (.refused refusal) ∧ ended = (environment.inside met).reporting
        (handshake.sighting (Path.join directory filename) ++ [.consulted version]) := by
  obtain ⟨mapped, maps, _⟩ := meets.waited
  rw [ends_openExisting_of_meets representable meets, ends_hear_iff _ maps.fit]
  simp [rejects]

variable (accepts : handshake.check version = .ok ())
include accepts

/-- An attachment that has found an acceptable version misses the heartbeat, or gives a handle. -/
theorem ends_openExisting_of_accepted :
    Ends (handshake.openExisting directory filename) environment result ended ↔
      (∃ probes, met.Expires
          (fun storage => ControlFields.timestampIn ⟨region, handshake.layout⟩ storage = 0)
          (handshake.deadlineIn environment.world) probes ∧
        result = .error (.refused .noHeartbeat) ∧
        ended = (environment.inside (met.ticks (probes + 1))).reporting
          (handshake.sighting (Path.join directory filename) ++ [.consulted version])) ∨
      ∃ timestamp probes, met.Finds (ControlFields.heartbeat? ⟨region, handshake.layout⟩)
          (handshake.deadlineIn environment.world) probes timestamp ∧
        result = .ok (handshake.attachment directory filename region) ∧
        ended = (environment.inside (met.ticks probes)).reporting
          (handshake.sighting (Path.join directory filename) ++
            arrival (Path.join directory filename) version timestamp) := by
  obtain ⟨mapped, maps, _⟩ := meets.waited
  rw [ends_openExisting_of_meets representable meets, ends_hear_iff _ maps.fit,
    ← ControlFields.heartbeat?_eq_none]
  simp only [accepts, reduceCtorEq, false_and, exists_false, false_or, true_and]
  constructor
  · rintro (⟨after, silent, rfl, rfl⟩ | ⟨timestamp, after, beats, rfl, rfl⟩)
    · obtain ⟨probes, expires, rfl⟩ := waits_none_iff.1 silent
      exact .inl ⟨probes, expires, rfl, by simp⟩
    · obtain ⟨probes, finds, rfl⟩ := waits_some_iff.1 beats
      exact .inr ⟨timestamp, probes, finds, rfl, by simp⟩
  · rintro (⟨probes, expires, rfl, rfl⟩ | ⟨timestamp, probes, finds, rfl, rfl⟩)
    · exact .inl ⟨_, waits_none_iff.2 ⟨probes, expires, rfl⟩, rfl, by simp⟩
    · exact .inr ⟨timestamp, _, waits_some_iff.2 ⟨probes, finds, rfl⟩, rfl, by simp⟩

end Met

omit representable in
/-- A regular file that a probe found has room for the control fields and is mapped whole. -/
theorem mapWhole_of_sizeFrom? {storage : Storage} {required size : Nat} {object : ObjectId}
    (found : storage.sizeFrom? path required = some size)
    (opened : storage.openFile path = .ok object) :
    required ≤ size ∧ (storage.content object).size = size ∧
      storage.mapWhole path = .ok (.mapping object 0 size) := by
  rw [Storage.sizeFrom?, Storage.sizeOf?_of_openFile opened, Option.filter_eq_some_iff] at found
  obtain ⟨same, enough⟩ := found
  obtain rfl := Option.some.inj same
  exact ⟨of_decide_eq_true enough, rfl, by simp only [Storage.mapWhole, opened]⟩

/-- An attachment fails at the stage that the owner had reached.

It misses the file if no probe before a reading past the deadline saw one with room for the control
fields, and otherwise a probe found one.  What was found is mapped there and then, and if it cannot
be mapped, or its region cannot carry the control fields, the attachment ends with that.  In the
mapping of a regular file it misses the version if the wait probes nothing but zeros, and otherwise
a probe found one.  If the check refuses this version, the attachment ends with that, where the
version was found.  Otherwise it misses the heartbeat if the wait probes nothing but zeros, and if
it does not, it gives a handle on the whole file, however old the heartbeat is.

The journal tells a wait that expired from a version check whose refusal has the same wording. -/
theorem openExisting_ends_iff (directory filename : String) (environment ended : Environment) :
    let layout := handshake.layout
    let path := Path.join directory filename
    let required := layout.timestampOffset + timestampSize
    let deadline := handshake.deadlineIn environment.world
    let waiting := environment.world.tick
    let told := handshake.sighting path
    let attaching := Ends (handshake.openExisting directory filename) environment
    (attaching (.error (.refused (.fileNotFound path))) ended ∧
        ended.journal = environment.journal ↔
      ∃ probes, waiting.Expires (Aim.file path required).Lacks deadline probes ∧
        ended = environment.inside (waiting.ticks (probes + 1))) ∧
    (∀ result, attaching result ended →
      result = .error (.refused (.fileNotFound path)) ∧ ended.journal = environment.journal ∨
        ∃ probes size, waiting.Finds (·.sizeFrom? path required) deadline probes size) ∧
    ∀ probes size, waiting.Finds (·.sizeFrom? path required) deadline probes size →
      let found := waiting.ticks probes
      (∀ cause, found.storage.mapWhole path = .error cause → ∀ result, attaching result ended ↔
        result = .error (.refused (.files "map cnc file" path cause)) ∧
          ended = (environment.inside found).reporting told) ∧
      ∀ object, found.storage.openFile path = .ok object →
        let fields := ControlFields.ofFile layout object size
        required ≤ size ∧ (found.storage.content object).size = size ∧
        (∀ failure, layout.check fields.region = .error failure →
          ∀ result, attaching result ended ↔
            result = .error failure ∧ ended = (environment.inside found).reporting told) ∧
        (layout.versionOffset % versionSize = 0 → layout.timestampOffset % timestampSize = 0 →
          (attaching (.error (.refused .notInitialized)) ended ∧
              ended.journal = environment.journal ++ told ↔
            ∃ later, found.Expires (fun storage => fields.versionIn storage = 0) deadline later ∧
              ended = (environment.inside (found.ticks (later + 1))).reporting told) ∧
          (∀ result, attaching result ended →
            result = .error (.refused .notInitialized) ∧
                ended.journal = environment.journal ++ told ∨
              ∃ version later, found.Finds fields.published? deadline later version) ∧
          ∀ version later, found.Finds fields.published? deadline later version →
            let met := found.ticks later
            (∀ refusal, handshake.check version = .error refusal →
              ∀ result, attaching result ended ↔
                result = .error (.refused refusal) ∧
                  ended = (environment.inside met).reporting (told ++ [.consulted version])) ∧
            (handshake.check version = .ok () →
              (attaching (.error (.refused .noHeartbeat)) ended ↔
                ∃ further, met.Expires (fun storage => fields.timestampIn storage = 0) deadline
                    further ∧
                  ended = (environment.inside (met.ticks (further + 1))).reporting
                    (told ++ [.consulted version])) ∧
              (∀ handle, attaching (.ok handle) ended ↔
                ∃ timestamp further, met.Finds fields.heartbeat? deadline further timestamp ∧
                  handle = ⟨layout, some directory, some path,
                    some ⟨.mapping object 0 size, .owned⟩, false⟩ ∧
                  ended = (environment.inside (met.ticks further)).reporting
                    (told ++ arrival path version timestamp)) ∧
              ∀ result, attaching result ended →
                result = .error (.refused .noHeartbeat) ∨ ∃ handle, result = .ok handle)) := by
  intro layout path required deadline waiting told attaching
  refine ⟨ends_fileNotFound_iff representable, fun result => finds_of_ends representable, ?_⟩
  intro probes size finds found
  have appears : handshake.Appears path environment.world (some size) found :=
    waits_some_iff.2 ⟨probes, finds, rfl⟩
  refine ⟨fun cause refuses result => ends_openExisting_of_unmapped representable appears refuses,
    ?_⟩
  intro object opened fields
  obtain ⟨room, whole, mapped⟩ := mapWhole_of_sizeFrom? finds.found opened
  refine ⟨room, whole, ?unfit, ?fit⟩
  case unfit =>
    intro failure unfit result
    exact (ends_openExisting_of_mapped representable appears mapped).trans
      (ends_meet_of_unfit deadline unfit)
  case fit =>
    intro versionAligned timestampAligned
    have maps : handshake.Maps path environment.world fields.region found :=
      ⟨⟨size, appears⟩, mapped, ControlFields.fit_ofFile representable versionAligned
        timestampAligned object room⟩
    refine ⟨ends_notInitialized_iff representable maps,
      fun result => meets_of_ends representable maps, ?_⟩
    intro version later published met
    have meets : handshake.Meets path environment.world fields.region version met :=
      ⟨found, maps, waits_some_iff.2 ⟨later, published, rfl⟩⟩
    refine ⟨fun refusal rejects result => ends_openExisting_of_rejected representable meets rejects,
      fun accepts => ⟨?noHeartbeat, ?attached, ?complete⟩⟩
    case noHeartbeat =>
      apply (ends_openExisting_of_accepted representable meets accepts).trans
      simp only [true_and, reduceCtorEq, false_and, and_false, exists_false, or_false]
      rfl
    case attached =>
      intro handle
      apply (ends_openExisting_of_accepted representable meets accepts).trans
      simp only [reduceCtorEq, false_and, and_false, exists_false, false_or, Except.ok.injEq]
      rfl
    case complete =>
      intro result ends
      rcases (ends_openExisting_of_accepted representable meets accepts).1 ends with
        ⟨_, _, same, _⟩ | ⟨_, _, _, same, _⟩
      · exact .inl same
      · exact .inr ⟨_, same⟩

omit representable in
/-- A watcher attaches to a file of 16 bytes that shows version 1 and the heartbeat 100, and misses
the file next to it when the clock has gone on by 60 ms, which is more than its timeout. -/
theorem openExisting_ends_iff_owned :
    let environment : Environment := ⟨.ticking 120 60, .owned, []⟩
    ofOwned.layout.Representable ∧
      (∃ ended, Ends (ofOwned.openExisting "/run" "cnc") environment
        (.ok ⟨ofOwned.layout, some "/run", some (Path.join "/run" "cnc"),
          some ⟨.mapping 0 0 16, .owned⟩, false⟩) ended) ∧
      ∃ ended, Ends (ofOwned.openExisting "/run" "other") environment
        (.error (.refused (.fileNotFound (Path.join "/run" "other")))) ended := by
  intro environment
  have representable : ofOwned.layout.Representable := by decide
  refine ⟨representable, ?attached, ?missed⟩
  case attached =>
    let deadline := ofOwned.deadlineIn environment.world
    let fields := ControlFields.ofFile ofOwned.layout 0 16
    have file : environment.world.tick.Finds (·.sizeFrom? (Path.join "/run" "cnc") 16) deadline 0
        16 := ⟨World.inVain_zero, rfl⟩
    have version : environment.world.tick.Finds fields.published? deadline 0 1 :=
      ⟨World.inVain_zero, by decide⟩
    have heartbeat : environment.world.tick.Finds fields.heartbeat? deadline 0 100 :=
      ⟨World.inVain_zero, by decide⟩
    have mapped (ended : Environment) := ((openExisting_ends_iff representable "/run" "cnc"
      environment ended).2.2 0 16 file).2 0 rfl
    have attached (ended : Environment) :=
      (((mapped ended).2.2.2 (by decide) (by decide)).2.2 1 0 version).2 rfl
    exact ⟨_, ((attached _).2.1 _).2 ⟨100, 0, heartbeat, rfl, rfl⟩⟩
  case missed =>
    have expires : environment.world.tick.Expires (Aim.file (Path.join "/run" "other") 16).Lacks
        (ofOwned.deadlineIn environment.world) 0 := ⟨World.inVain_zero, nofun, by decide⟩
    exact ⟨_, ((openExisting_ends_iff representable "/run" "other" environment _).1.2
      ⟨0, expires, rfl⟩).1⟩

end Stages

end Heartbeat.Handshake
