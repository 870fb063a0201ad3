import Heartbeat.Program.Owner
import Heartbeat.Proofs.Creation

/-!
# What an owner publishes is complete

The version is the last thing that an owner writes before its heartbeats, and every word goes to a
place of its own.  So nothing that an owner does after it has mapped its region takes back what it
did before, and the chronicle of its whole life is one of a region in the making (`Life.makes`).

A watcher meets the storages of that chronicle in any order that does not go back
(`Life.watcher_finds_all_in_place`).  It maps no file without room for the control fields, it waits
for no heartbeat in vain, and if it attaches, then to the published version, after a heartbeat of
the owner, and with the payload in view.

The life of an owner is what the owner program does from its start on (`Owner.end_of_start`).
-/

set_option autoImplicit false

namespace Heartbeat

/-! ## What a word leaves alone -/

/-- The payload names the owner's process and the time of its start, if there is room for both. -/
def ControlFields.Introduced (fields : ControlFields) (process : Int64) (started : Milliseconds)
    (storage : Storage) : Prop :=
  fields.layout.payloadOffset + 16 ≤ fields.region.capacity →
    fields.region.word Int64 storage fields.layout.payloadOffset = process ∧
      fields.region.word Milliseconds storage (fields.layout.payloadOffset + 8) = started

theorem Layout.timestamp_le_payloadOffset (layout : Layout) :
    layout.timestampOffset + timestampSize ≤ layout.payloadOffset := by
  unfold payloadOffset
  omega

namespace ControlFields

section Put

variable {fields : ControlFields} {storage : Storage}
  (made : fields.region.object < storage.objects.size)
include made

theorem versionIn_put_version (version : Int32) :
    fields.versionIn (fields.region.put storage fields.layout.versionOffset version) = version :=
  Region.word_put made _ version

theorem timestampIn_put_version (version : Int32) :
    fields.timestampIn (fields.region.put storage fields.layout.versionOffset version) =
      fields.timestampIn storage :=
  @Region.word_put_of_apart Int32 Int64 _ _ _ _ made _ version _ (.inr fields.layout.ordered)

theorem versionIn_put_timestamp (time : Milliseconds) :
    fields.versionIn (fields.region.put storage fields.layout.timestampOffset time) =
      fields.versionIn storage :=
  @Region.word_put_of_apart Int64 Int32 _ _ _ _ made _ time _ (.inl fields.layout.ordered)

theorem timestampIn_put_timestamp (time : Milliseconds) :
    fields.timestampIn (fields.region.put storage fields.layout.timestampOffset time) = time :=
  Region.word_put made _ time

theorem versionIn_put_payload {offset : Nat} (payload : fields.layout.payloadOffset ≤ offset)
    (word : Int64) :
    fields.versionIn (fields.region.put storage offset word) = fields.versionIn storage := by
  refine @Region.word_put_of_apart Int64 Int32 _ _ _ _ made _ word _ (.inl ?_)
  have ordered := fields.layout.ordered
  have apart := fields.layout.timestamp_le_payloadOffset
  change fields.layout.versionOffset + versionSize ≤ offset
  omega

/-- What is put into a control field is not in the payload. -/
theorem Introduced.put {process : Int64} {started : Milliseconds} {α : Type} [StoredWord α]
    (introduced : fields.Introduced process started storage) {offset : Nat} (value : α)
    (control : offset + StoredWord.width α ≤ fields.layout.timestampOffset + timestampSize) :
    fields.Introduced process started (fields.region.put storage offset value) := by
  have apart := fields.layout.timestamp_le_payloadOffset
  intro room
  obtain ⟨owner, start⟩ := introduced room
  refine ⟨?_, ?_⟩
  · rw [Region.word_put_of_apart made _ _ (.inr (by omega)), owner]
  · rw [Region.word_put_of_apart made _ _ (.inr (by omega)), start]

end Put

/-- The two words of the payload can be accessed in a mapping that has room for them. -/
theorem payload_access {fields : ControlFields}
    (whole : fields.region = .mapping fields.region.object 0 fields.region.capacity)
    (room : fields.layout.payloadOffset + 16 ≤ fields.region.capacity) :
    fields.region.checkAccess fields.layout.payloadOffset 8 8 = .ok () ∧
      fields.region.checkAccess (fields.layout.payloadOffset + 8) 8 8 = .ok () := by
  have aligned (offset : Nat) (multiple : offset % 8 = 0) :
      fields.region.alignedAt offset 8 = true := by
    rw [whole, Region.alignedAt_mapping 8 ⟨512, rfl⟩, Nat.zero_add]
    exact decide_eq_true multiple
  have multiple : fields.layout.payloadOffset % 8 = 0 := Nat.mul_mod_left _ _
  refine ⟨Region.checkAccess_eq_ok_iff.2 ⟨?_, aligned _ multiple⟩,
    Region.checkAccess_eq_ok_iff.2 ⟨?_, aligned _ ?_⟩⟩
  · exact Nat.le_trans (by omega) room
  · exact room
  · rw [Nat.add_mod_right, multiple]

end ControlFields

namespace Handle

variable {handle : Handle} {fields : ControlFields} (on : handle.fields = .ok fields)
include on

theorem of_fields : handle.region = .ok fields.region ∧ handle.layout = fields.layout := by
  unfold Handle.fields at on
  cases view : handle.region with
  | error _ => simp only [view, reduceCtorEq] at on
  | ok region =>
    simp only [view, Except.ok.injEq] at on
    exact ⟨on ▸ rfl, on ▸ rfl⟩

theorem version_eq (fit : fields.Fit) (storage : Storage) :
    handle.version storage = .ok (fields.versionIn storage) := by
  rw [version, on]
  exact congrArg Failure.ofFault (fit.version_eq storage)

theorem timestamp_eq (fit : fields.Fit) (storage : Storage) :
    handle.timestamp storage = .ok (fields.timestampIn storage) := by
  rw [timestamp, on]
  exact congrArg Failure.ofFault (fit.timestamp_eq storage)

theorem beat_eq_ok (fit : fields.Fit) (storage : Storage) (time : Milliseconds) :
    handle.beat storage time =
      .ok (fields.region.put storage fields.layout.timestampOffset time) := by
  rw [beat, on]
  exact congrArg Failure.ofFault (Region.store_eq_ok fit.timestamp_access storage time)

theorem signalReady_eq_ok (fit : fields.Fit) (storage : Storage) (version : Int32) :
    handle.signalReady storage version =
      .ok (fields.region.put storage fields.layout.versionOffset version) := by
  rw [signalReady, on]
  exact congrArg Failure.ofFault (Region.store_eq_ok fit.version_access storage version)

end Handle

/-- A word in the payload does not publish anything. -/
theorem Chronicle.Holds.put_payload {path : String} {fields : ControlFields} {version : Int32}
    {beaten : Milliseconds → Prop} {told : Storage → Prop} {chronicle : Chronicle}
    (holds : chronicle.Holds path fields version beaten told)
    (unpublished : fields.versionIn chronicle.storage = 0) {offset : Nat}
    (payload : fields.layout.payloadOffset ≤ offset) (word : Int64) :
    (chronicle.leave (fields.region.put chronicle.storage offset word)).Holds path fields version
        beaten told ∧
      fields.versionIn (fields.region.put chronicle.storage offset word) = 0 := by
  have still := ControlFields.versionIn_put_payload holds.made payload word
  rw [unpublished] at still
  exact ⟨holds.put offset word (fun shown => absurd unpublished shown)
    fun shown => absurd still shown, still⟩

/-! ## The owner at work -/

namespace Owner

variable {m : Type → Type} [Worker m]

/-- Writes some heartbeats. -/
def beats (handle : Handle) : (count : Nat) → m Unit
  | 0 => pure ()
  | count + 1 => do
    beat handle
    beats handle count

end Owner

/-- The number of times that an owner reads the clock to introduce itself. -/
def Layout.introductionReads (layout : Layout) (length : Nat) : Nat :=
  if layout.payloadOffset + 16 ≤ length then 1 else 0

namespace Owner

variable {path : String} {fields : ControlFields} {version : Int32}
  {beaten : Milliseconds → Prop} {process : Int64} {started : Milliseconds}
  {handle : Handle} (on : handle.fields = .ok fields) (fit : fields.Fit)
  {chronicle : Chronicle}
  (holds : chronicle.Holds path fields version beaten (fields.Introduced process started))

include on fit holds

/-- A heartbeat leaves everything else in the region as it is. -/
theorem ensures_beat (beats : beaten (chronicle.times chronicle.reads))
    {ended : Option Failure → Chronicle → Prop} :
    (beat handle : Recording Unit).Ensures chronicle
      (fun _ after =>
        after.Holds path fields version beaten (fields.Introduced process started) ∧
        fields.versionIn after.storage = fields.versionIn chronicle.storage ∧
        fields.timestampIn after.storage = chronicle.times chronicle.reads ∧
        (fields.Introduced process started chronicle.storage →
          fields.Introduced process started after.storage) ∧
        after.times = chronicle.times ∧ after.reads = chronicle.reads + 1) ended := by
  have made := holds.made
  have version := ControlFields.versionIn_put_timestamp made (chronicle.times chronicle.reads)
  have timestamp := ControlFields.timestampIn_put_timestamp made
    (chronicle.times chronicle.reads)
  have introduced (before : fields.Introduced process started chronicle.storage) :=
    before.put made (chronicle.times chronicle.reads) (Nat.le_refl _)
  refine .bind (.of_returned rfl ?_)
  apply Recording.ensures_change (Handle.beat_eq_ok on fit chronicle.storage _)
  refine ⟨holds.read.put fields.layout.timestampOffset (chronicle.times chronicle.reads) ?_ ?_,
    ?_, ?_, ?_, rfl, rfl⟩
  · rw [Chronicle.storage_read, version]
    exact id
  · rw [Chronicle.storage_read, version, timestamp]
    -- If a version is there already, everything was in place before this heartbeat and still is.
    intro shown
    obtain ⟨right, _, told⟩ := (holds.makes.inMaking chronicle.works).published shown
    exact ⟨right, beats, introduced told⟩
  all_goals rw [Chronicle.storage_leave]
  · exact version
  · exact timestamp
  · exact introduced

/-- The version is published when everything else is in place. -/
theorem ensures_publish (alive : beaten (fields.timestampIn chronicle.storage))
    (told : fields.Introduced process started chronicle.storage)
    (unpublished : fields.versionIn chronicle.storage = 0)
    {ended : Option Failure → Chronicle → Prop} :
    (Worker.change fun storage => handle.signalReady storage version : Recording Unit).Ensures
      chronicle
      (fun _ after =>
        after.Holds path fields version beaten (fields.Introduced process started) ∧
        after.times = chronicle.times ∧ after.reads = chronicle.reads) ended := by
  have made := holds.made
  have control : fields.layout.versionOffset + StoredWord.width Int32 ≤
      fields.layout.timestampOffset + timestampSize :=
    Nat.le_trans fields.layout.ordered (Nat.le_add_right _ _)
  apply Recording.ensures_change (Handle.signalReady_eq_ok on fit chronicle.storage version)
  refine ⟨holds.put fields.layout.versionOffset version ?_ fun _ => ⟨?_, ?_, ?_⟩, rfl, rfl⟩
  · exact fun shown => absurd unpublished shown
  · exact ControlFields.versionIn_put_version made version
  · rw [ControlFields.timestampIn_put_version made]
    exact alive
  · exact told.put made version control

omit fit in
/-- An owner introduces itself before it publishes anything. -/
theorem ensures_introduce
    (whole : fields.region = .mapping fields.region.object 0 fields.region.capacity)
    (unpublished : fields.versionIn chronicle.storage = 0)
    {ended : Option Failure → Chronicle → Prop} :
    (handle.introduce process : Recording Unit).Ensures chronicle
      (fun _ after =>
        after.Holds path fields version beaten (fields.Introduced process started) ∧
        fields.versionIn after.storage = 0 ∧
        fields.Introduced process (chronicle.times chronicle.reads) after.storage ∧
        after.times = chronicle.times ∧
        after.reads =
          chronicle.reads + fields.layout.introductionReads fields.region.capacity) ended := by
  obtain ⟨region, layout⟩ := Handle.of_fields on
  unfold Handle.introduce Layout.introductionReads
  rw [region, layout]
  refine .bind (.of_returned rfl ?_)
  by_cases room : fields.layout.payloadOffset + 16 ≤ fields.region.capacity
  · rw [if_pos room, if_pos room]
    obtain ⟨owner, start⟩ := ControlFields.payload_access whole room
    have first := holds.put_payload unpublished (Nat.le_refl _) process
    have between := first.1.read
    have second := between.put_payload
      (by rw [Chronicle.storage_read, Chronicle.storage_leave, first.2]) (Nat.le_add_right _ 8)
      (chronicle.times chronicle.reads)
    refine .bind (Recording.ensures_change
      (congrArg Failure.ofFault (Region.store_eq_ok owner chronicle.storage process)) ?_)
    refine .bind (.of_returned rfl ?_)
    refine Recording.ensures_change (congrArg Failure.ofFault (Region.store_eq_ok start
      _ (chronicle.times chronicle.reads))) ⟨second.1, ?_, fun _ => ⟨?_, ?_⟩, rfl, rfl⟩
    · rw [Chronicle.storage_leave]
      exact second.2
    · -- The second word does not reach the first one.
      rw [Chronicle.storage_leave]
      refine (@Region.word_put_of_apart Int64 Int64 _ _ _ _ between.made _
        (chronicle.times chronicle.reads) _ (.inl (Nat.le_refl _))).trans ?_
      rw [Chronicle.storage_read, Chronicle.storage_leave]
      exact Region.word_put holds.made _ process
    · rw [Chronicle.storage_leave]
      exact Region.word_put between.made _ (chronicle.times chronicle.reads)
  · rw [if_neg room, if_neg room]
    exact .of_returned rfl ⟨holds, unpublished, fun spacious => absurd spacious room, rfl, rfl⟩

/-- All heartbeats after the publication. -/
theorem ensures_beats {count : Nat}
    (alive : ∀ i, i < count → beaten (chronicle.times (chronicle.reads + i)))
    {ended : Option Failure → Chronicle → Prop} :
    (beats handle count : Recording Unit).Ensures chronicle
      (fun _ after =>
        after.Holds path fields version beaten (fields.Introduced process started)) ended := by
  induction count generalizing chronicle with
  | zero => exact .pure holds
  | succ count ih =>
    refine .bind ((ensures_beat on fit holds (alive 0 (Nat.succ_pos _))).imp ?_
      fun _ _ ends => ends)
    rintro _ after ⟨held, _, _, _, times, reads⟩
    apply ih held
    intro i before
    rw [times, reads, Nat.add_assoc, Nat.add_comm 1]
    exact alive (i + 1) (Nat.succ_lt_succ before)

/-- From the mapping of the region to the publication. -/
theorem ensures_announce
    (whole : fields.region = .mapping fields.region.object 0 fields.region.capacity)
    (unpublished : fields.versionIn chronicle.storage = 0)
    (now : chronicle.times chronicle.reads = started)
    (alive : beaten (chronicle.times
      (chronicle.reads + fields.layout.introductionReads fields.region.capacity)))
    {ended : Option Failure → Chronicle → Prop} :
    (announce handle process version : Recording Unit).Ensures chronicle
      (fun _ after =>
        after.Holds path fields version beaten (fields.Introduced process started) ∧
        after.times = chronicle.times ∧
        after.reads = chronicle.reads +
          fields.layout.introductionReads fields.region.capacity + 1) ended := by
  refine .bind ((ensures_introduce on holds whole unpublished).imp ?_ fun _ _ ends => ends)
  rintro _ introduced ⟨held, still, told, times, reads⟩
  rw [← times, ← reads] at alive
  refine .bind ((ensures_beat on fit held alive).imp ?_ fun _ _ ends => ends)
  rintro _ beating ⟨held', version', timestamp, told', times', reads'⟩
  rw [← timestamp] at alive
  refine (ensures_publish on fit held' alive (told' (now ▸ told)) (version' ▸ still)).imp ?_
    fun _ _ ends => ends
  rintro _ after ⟨held'', times'', reads''⟩
  exact ⟨held'', times''.trans (times'.trans times), by rw [reads'', reads', reads]⟩

end Owner

/-! ## The life of an owner -/

/-- What an owner sets out with. -/
structure Life where
  /-- The settings. -/
  handshake : Handshake
  /-- The directory that is made. -/
  directory : String
  /-- The name of the file in it. -/
  filename : String
  /-- The length of the file. -/
  length : Nat
  /-- Whether a directory that is there is replaced untested. -/
  force : Bool
  /-- The rounds granted for waiting. -/
  rounds : Nat
  /-- The number of the owner's process. -/
  process : Int64
  /-- The version that is published. -/
  version : Int32
  /-- The number of heartbeats after the publication. -/
  beats : Nat

namespace Life

/-- Makes a region, publishes it and keeps it alive. -/
def live {m : Type → Type} [Worker m] (life : Life) : m Unit := do
  let handle ← life.handshake.createInDirectory life.directory life.filename life.length
    life.force life.rounds
  Owner.announce handle life.process life.version
  Owner.beats handle life.beats

variable (life : Life)

/-- The path of the file. -/
def path : String := Path.join life.directory life.filename

/-- The end of the payload. -/
def payloadEnd : Nat := life.handshake.layout.payloadOffset + 16

/-- The times that are written as heartbeats. -/
def heartbeats (times : Nat → Milliseconds) : List Milliseconds :=
  (List.range (life.beats + 1)).map fun i =>
    times (life.handshake.layout.introductionReads life.length + i)

/-- What a life that starts from a storage leaves behind. -/
def chronicle (start : Storage) (times : Nat → Milliseconds) : Chronicle :=
  ((life.live : Recording Unit) (.start start times)).2

/-- The control fields of the file. -/
def fields (start : Storage) : ControlFields :=
  .ofFile life.handshake.layout start.fresh life.length

variable {life} {start : Storage}

theorem mem_heartbeats {times : Nat → Milliseconds} {i : Nat} (before : i ≤ life.beats) :
    times (life.handshake.layout.introductionReads life.length + i) ∈ life.heartbeats times :=
  List.mem_map.2 ⟨i, List.mem_range.2 (Nat.lt_succ_of_le before), rfl⟩

/-- An owner makes its region and does nothing else. -/
theorem makes (vacant : start.Vacant life.directory life.filename)
    (times : Nat → Milliseconds) :
    (life.chronicle start times).Makes life.path (life.fields start) life.version
      (· ∈ life.heartbeats times)
      ((life.fields start).Introduced life.process (times 0)) := by
  refine Course.Ensures.at_end (.bind ((Handshake.ensures_createInDirectory vacant rfl rfl
    life.force life.rounds times).imp ?_ fun _ _ makes => makes))
  rintro handle created ⟨on, fit, holds, unpublished, same, none⟩
  -- The readings of the clock are counted, so that each heartbeat is known by its number.
  have first : created.times (created.reads + (life.fields start).layout.introductionReads
      (life.fields start).region.capacity) ∈ life.heartbeats times := by
    rw [same, none, Nat.zero_add]
    exact mem_heartbeats (Nat.zero_le _)
  refine .bind ((Owner.ensures_announce on fit holds rfl unpublished (by rw [same, none])
    first).imp ?_ fun _ _ makes => makes)
  rintro _ published ⟨holds, times', reads⟩
  refine (Owner.ensures_beats on fit holds ?_).imp (fun _ _ holds => holds.makes)
    fun _ _ makes => makes
  intro i before
  rw [times', reads, same, none, Nat.zero_add, Nat.add_assoc, Nat.add_comm 1]
  exact mem_heartbeats before

/-- What a watcher meets unfolds. -/
theorem unfolds (vacant : start.Vacant life.directory life.filename)
    {times : Nat → Milliseconds} (alive : ∀ time ∈ life.heartbeats times, time ≠ 0)
    {vigil : Vigil} (meets : vigil.Meets (life.chronicle start times)) :
    Unfolds life.path (life.fields start) life.version (· ∈ life.heartbeats times)
      ((life.fields start).Introduced life.process (times 0))
      fun moment => (vigil.moments moment).1 := by
  obtain ⟨schedule, forward, met⟩ := meets
  rw [show (fun moment => (vigil.moments moment).1) =
    fun moment => (life.chronicle start times).history (schedule moment) from funext met]
  exact ((life.makes vacant times).unfolds rfl alive).comp forward

/-- What holds for a watcher that attached to the region of an owner: it has checked the version of
the owner and seen a heartbeat of the owner, and from then on its handle shows the payload. -/
structure Attached (life : Life) (times : Nat → Milliseconds) (watcher : Handshake)
    (handle : Handle) (vigil : Vigil) : Prop where
  /-- The check has let the version through. -/
  accepted : watcher.check life.version = .ok ()
  /-- The journal ends with the version that was checked and the heartbeat that was seen. -/
  journal : ∃ earlier, ∃ timestamp ∈ life.heartbeats times, vigil.journal = earlier ++
    [.consulted life.version, .event .debug "attached to cnc file"
      [("path", .text life.path), ("version", .number life.version.toInt),
        ("timestamp", .number timestamp.toInt)]]
  /-- The number of the process is there. -/
  process : life.payloadEnd ≤ life.length → ∀ moment, vigil.next ≤ moment →
    handle.ownerProcess (vigil.moments moment).1 = .ok (some life.process)
  /-- The time of the start is there. -/
  started : life.payloadEnd ≤ life.length → ∀ moment, vigil.next ≤ moment →
    ∃ region, handle.region = .ok region ∧
      region.load (vigil.moments moment).1 (life.handshake.layout.payloadOffset + 8) =
        .ok (times 0)

/-- A handle on the region shows the payload. -/
theorem payload_of_introduced {times : Nat → Milliseconds} (room : life.payloadEnd ≤ life.length)
    {storage : Storage} (told : (life.fields start).Introduced life.process (times 0) storage) :
    (life.fields start).region.load storage life.handshake.layout.payloadOffset =
        .ok life.process ∧
      (life.fields start).region.load storage (life.handshake.layout.payloadOffset + 8) =
        .ok (times 0) := by
  obtain ⟨owner, begun⟩ := @ControlFields.payload_access (life.fields start) rfl room
  obtain ⟨named, dated⟩ := told room
  exact ⟨(Region.load_eq_ok (α := Int64) owner storage).trans (congrArg Except.ok named),
    (Region.load_eq_ok (α := Milliseconds) begun storage).trans (congrArg Except.ok dated)⟩

/-- Whatever a watcher meets while an owner makes a region where nothing was, it never maps a file
that is too short, never waits in vain for a heartbeat, and if it attaches, it finds everything in
place. -/
theorem watcher_finds_all_in_place (vacant : start.Vacant life.directory life.filename)
    {times : Nat → Milliseconds} (alive : ∀ time ∈ life.heartbeats times, time ≠ 0)
    {vigil : Vigil} (meets : vigil.Meets (life.chronicle start times)) {watcher : Handshake}
    (layout : watcher.layout = life.handshake.layout) (rounds : Nat) :
    (∀ deadline, (watcher.mapWhenPresent life.path deadline rounds : Watching Region).Ensures
      vigil
      (fun region _ => watcher.layout.timestampOffset + timestampSize ≤ region.capacity)
      fun _ _ => True) ∧
    (watcher.openExisting life.directory life.filename rounds : Watching Handle).Ensures vigil
      (fun handle after => life.Attached times watcher handle after)
      fun failure _ => failure = some (.refused .noHeartbeat) →
        watcher.check life.version = .error .noHeartbeat := by
  have unfolds := life.unfolds vacant alive meets
  refine ⟨?_, ?_⟩
  · intro deadline
    refine (Watching.ensures_mapWhenPresent layout unfolds deadline rounds).imp ?_
      fun _ _ _ => trivial
    rintro region _ ⟨_, room, _⟩
    exact layout ▸ room
  · refine (Watching.ensures_openExisting layout unfolds life.directory life.filename rfl
      rounds).imp ?_ fun _ _ refused => refused
    rintro _ after ⟨accepted, rfl, _, ⟨earlier, timestamp, beaten, journal⟩, moments, told⟩
    refine ⟨accepted, ⟨earlier, timestamp, beaten, journal⟩, ?_,
      fun room moment later => ⟨_, rfl, ?_⟩⟩
    · intro room moment later
      rw [moments]
      have shown := (payload_of_introduced room (told moment later)).1
      have fits : life.handshake.layout.payloadOffset + 8 ≤ life.length :=
        Nat.le_trans (Nat.add_le_add_left (by decide) _) room
      exact (if_pos fits).trans (congrArg (fun word => (Failure.ofFault word).map some) shown)
    · rw [moments]
      exact (payload_of_introduced room (told moment later)).2

/-- An owner of a file of 64 bytes. -/
def brief : Life where
  handshake := .ofOwned
  directory := "/run"
  filename := "cnc"
  length := 64
  force := false
  rounds := 0
  process := 7
  version := 3
  beats := 1

/-- A vigil over each storage that this owner leaves, while no time passes. -/
def vigilOfBrief : Vigil :=
  ⟨fun moment => ((brief.chronicle .empty fun _ => 100).history moment, 0), 0, []⟩

theorem watcher_finds_all_in_place_brief :
    ∃ handle after, (Handshake.ofOwned.openExisting "/run" "cnc" 10 : Watching Handle)
      vigilOfBrief = (some (.ok handle), after) ∧
        brief.Attached (fun _ => 100) .ofOwned handle after := by
  have vacant : Storage.empty.Vacant "/run" "cnc" := .of_not_pathExists rfl rfl (by decide)
  have meets : vigilOfBrief.Meets (brief.chronicle .empty fun _ => 100) :=
    ⟨id, fun _ _ later => later, fun _ => rfl⟩
  have alive : ∀ time ∈ brief.heartbeats fun _ => 100, time ≠ 0 := by
    intro time listed
    obtain ⟨_, _, rfl⟩ := List.mem_map.1 listed
    exact (by decide : (100 : Milliseconds) ≠ 0)
  have found := (@watcher_finds_all_in_place brief _ vacant (fun _ => 100) alive _ meets
    .ofOwned rfl 10).2
  exact found.of_returns (by decide +kernel)

end Life

/-! ## The owner program -/

namespace Program

variable {α β γ : Type} {process : Recording α} {program : Program Recording α}
  {next : α → Program Recording β} {goes : α → Recording γ} {chronicle : Chronicle}

/-- The steps of a program leave what they leave outside of one, whatever the program complains of.
-/
theorem end_of_complaining (complain : Failure → Complaint)
    (attempts : program.run = process.attempt.andThen fun
      | .ok value => pure (.ok value)
      | .error failure => pure (.error (complain failure)))
    (same : ∀ value after, ((next value).run after).2 = (goes value after).2) :
    ((program >>= next).run chronicle).2 = ((process >>= goes) chronicle).2 := by
  have alone : (process >>= goes) chronicle = process.andThen goes chronicle := rfl
  have within : (program >>= next).run chronicle =
      Course.andThen program.run (ExceptT.bindCont next) chronicle := rfl
  rw [alone, within, attempts]
  unfold Course.andThen Course.attempt
  rcases process chronicle with ⟨_ | failure | value, after⟩
  · rfl
  · rfl
  · exact same value after

/-- A program goes on with the configuration that it reads. -/
theorem run_configuration_bind (chronicle : Chronicle) {path : Option String}
    {configuration : Configuration}
    (loaded : match path with
      | none => configuration = .default
      | some path => Configuration.load chronicle.storage path = .ok configuration)
    (next : Configuration → Program Recording β) :
    (Program.configuration path >>= next).run chronicle = (next configuration).run chronicle := by
  cases path with
  | none =>
    subst loaded
    rfl
  | some path =>
    have read : (Program.configuration (some path) :
        Program Recording Configuration).run chronicle =
        (ofExcept .ofConfigurationError (Configuration.load chronicle.storage path) :
          Program Recording Configuration).run chronicle := rfl
    have within : (Program.configuration (some path) >>= next).run chronicle =
      Course.andThen (Program.configuration (some path) : Program Recording Configuration).run
        (ExceptT.bindCont next) chronicle := rfl
    rw [within, Course.andThen, read, loaded]
    rfl

end Program

namespace Owner

theorem end_of_keepBeating (owner : Owner) (count : Nat) (chronicle : Chronicle) :
    ((owner.keepBeating count : Program Recording Unit).run chronicle).2 =
      ((beats owner.handle count : Recording Unit) chronicle).2 := by
  induction count generalizing chronicle with
  | zero => rfl
  | succ count ih =>
    refine Program.end_of_complaining .ofFailure rfl ?_
    intro _ after
    have paused : (beats owner.handle count : Recording Unit) after =
      ((Waiting.pause owner.configuration.heartbeatInterval : Recording Unit) >>= fun _ =>
        beats owner.handle count) after := rfl
    rw [paused]
    exact Program.end_of_complaining .ofFailure rfl fun _ after => ih after

/-- What the owner program does from its start on is a life. -/
theorem end_of_start {path : Option String} {configuration : Configuration}
    {version : SemanticVersion} {handshake : Handshake} {start : Storage}
    (loaded : match path with
      | none => configuration = .default
      | some path => Configuration.load start path = .ok configuration)
    (terms : configuration.terms = .ok (version, handshake)) (process : Int64)
    (rounds count : Nat) (times : Nat → Milliseconds) :
    ((Owner.start path process rounds >>= fun owner => owner.keepBeating count :
        Program Recording Unit).run (.start start times)).2 =
      Life.chronicle ⟨handshake, configuration.directory, configuration.filename,
        configuration.fileLength, configuration.replacesDirectory, rounds, process, version.pack,
        count⟩ start times := by
  unfold Owner.start
  simp only [bind_assoc]
  refine (congrArg Prod.snd (Program.run_configuration_bind (.start start times) loaded _)).trans ?_
  rw [terms]
  simp only [Program.ofExcept, pure_bind]
  refine Program.end_of_complaining
    (fun failure => (Complaint.ofFailure failure).under "failed to create cnc file") rfl ?_
  intro handle created
  refine Program.end_of_complaining .ofFailure rfl ?_
  intro _ announced
  -- The program also reports that it publishes, which leaves nothing in a chronicle.
  rw [← pure_bind () fun _ => (beats handle count : Recording Unit)]
  exact Program.end_of_complaining .ofFailure rfl fun _ after =>
    end_of_keepBeating ⟨configuration, handle⟩ count after
end Owner

end Heartbeat
