import Heartbeat.Proofs.Attachment
import Heartbeat.Proofs.Beating
import Heartbeat.Proofs.Observing
import Heartbeat.Proofs.OwnerActs
import Heartbeat.Proofs.Renewal

/-!
# What an owner and its watchers make of the slot

An owner that has created its file fills the slot if the file has room for both of its words, and
leaves it alone otherwise (`Handle.Introduces`).  It never fails at that, and it reaches neither
control field.  From then on nobody writes there: publications and heartbeats stay below the slot.

A watcher reads the first word as soon as the file has room for this one word
(`Handshake.SlotShows`).  So owner and watchers agree on the slot but for a file with room for the
first word and not for the second.  There the owner has written nothing, and a watcher reads the
zero that the file was made with (`Owner.slot_after_creation`, `Owner.slot_unwritten_is_read`).
-/

set_option autoImplicit false

namespace Heartbeat

/-! ## The place of the slot -/

namespace Layout

variable (layout : Layout)

theorem payloadOffset_mod : layout.payloadOffset % 8 = 0 := Nat.mul_mod_left _ _

/-- The slot begins at the first multiple of eight after the control fields. -/
theorem payloadOffset_least {offset : Nat} (multiple : offset % 8 = 0)
    (behind : layout.timestampOffset + timestampSize ≤ offset) : layout.payloadOffset ≤ offset := by
  unfold payloadOffset
  omega

/-- A file that can be made is short enough for the end of the slot to be a machine number. -/
theorem payload_representable {length : Nat} (possible : length ≤ longestFile)
    (room : layout.timestampOffset + timestampSize ≤ length) :
    layout.payloadOffset + 16 < addressSpace := by
  have least : layout.payloadOffset < layout.timestampOffset + timestampSize + 8 := by
    unfold payloadOffset
    omega
  have short : longestFile + 24 < addressSpace := by decide
  omega

/-- Both words of the slot can be stored into a mapping of a whole file exactly if it has room for
them. -/
theorem payload_stores_iff (object : ObjectId) (length : Nat) :
    (Region.mapping object 0 length).checkAccess layout.payloadOffset 8 8 = .ok () ∧
        (Region.mapping object 0 length).checkAccess (layout.payloadOffset + 8) 8 8 = .ok () ↔
      layout.payloadOffset + 16 ≤ length := by
  constructor
  · exact fun stores => (Region.checkAccess_eq_ok_iff.1 stores.2).1
  · exact fun room => @ControlFields.payload_access (.ofFile layout object length) rfl room

end Layout

/-! ## A file that was just created -/

namespace Handshake

variable {handshake : Handshake} {directory filename : String} {length : Nat}
  {before after : Storage} {object : ObjectId} {handle : Handle}

/-- A file that was created holds nothing but zeros, whatever was there before. -/
theorem Creates.zero
    (creates : handshake.Creates directory filename length before object handle after) (i : Nat) :
    (after.content object).byte i = 0 := by
  obtain ⟨emptied, opened, mapped⟩ := creates.file
  have leads := (Storage.openFile_of_openEmptied opened).1
  have nothing : (emptied.content object).size = 0 := by
    obtain ⟨_, made, rfl⟩ := Storage.openEmptied_eq_ok opened
    rw [Storage.content_modify _ _ _ _
      (Storage.made_of_openFile (Storage.openFile_of_openOrCreateFile made).1), if_pos rfl,
      Content.size_resize]
  obtain ⟨-, -, rfl⟩ := Storage.mapResized_eq_ok mapped
  rw [Storage.content_modify _ _ _ _ (Storage.made_of_openFile leads), if_pos rfl,
    Content.byte_resize, nothing, Nat.zero_min, if_neg (Nat.not_lt_zero i)]

/-- No file is created that could not be so long. -/
theorem Creates.possible
    (creates : handshake.Creates directory filename length before object handle after) :
    length ≤ longestFile := by
  obtain ⟨_, _, mapped⟩ := creates.file
  unfold Storage.mapResized at mapped
  split at mapped
  · cases mapped
  · next possible => exact Nat.not_lt.1 possible

end Handshake

/-! ## The owner at work -/

/-- What is put into the slot or behind it does not reach the timestamp. -/
theorem ControlFields.timestampIn_put_payload {fields : ControlFields} {storage : Storage}
    (made : fields.region.object < storage.objects.size) {offset : Nat}
    (payload : fields.layout.payloadOffset ≤ offset) (word : Int64) :
    fields.timestampIn (fields.region.put storage offset word) = fields.timestampIn storage :=
  @Region.word_put_of_apart Int64 Int64 _ _ _ _ made _ word _
    (.inl (Nat.le_trans fields.layout.timestamp_le_payloadOffset payload))

/-- What the first word of the slot holds when an owner has introduced itself. -/
def ControlFields.slotWord (fields : ControlFields) (process : Int64) : Int64 :=
  if fields.layout.payloadOffset + 16 ≤ fields.region.capacity then process else 0

/-- An owner stores both words of the slot if there is room for both, and nothing otherwise. -/
structure Handle.Introduces (handle : Handle) (process : Int64) (before after : Environment) :
    Prop where
  /-- With room for both words, both are stored. -/
  stores : ∀ region, handle.region = .ok region →
    handle.layout.payloadOffset + 16 ≤ region.capacity →
    ∃ named, region.store before.storage handle.layout.payloadOffset process = .ok named ∧
      region.store named (handle.layout.payloadOffset + 8) before.world.shown = .ok after.storage
  /-- Without it, nothing is done, and not even the clock is read. -/
  leaves : ∀ region, handle.region = .ok region →
    ¬ handle.layout.payloadOffset + 16 ≤ region.capacity → after = before

/-- The file of an owner is in place, nobody interferes with the owner, and the first word of the
slot is known. -/
structure Handshake.Slotted (handshake : Handshake) (directory filename : String) (length : Nat)
    (handle : Handle) (fields : ControlFields) (word : Int64) (environment : Environment) :
    Prop where
  /-- The file is in place. -/
  places : handshake.Places directory filename length handle fields environment.storage
  /-- Nothing happens when the owner reads its clock. -/
  clock : environment.clock.Undisturbed
  /-- The slot begins with the word. -/
  word : fields.region.word Int64 environment.storage fields.layout.payloadOffset = word

namespace Handshake.Slotted

variable {handshake : Handshake} {directory filename : String} {length : Nat} {handle : Handle}
  {fields : ControlFields} {word : Int64} {environment : Environment}
  (slotted : handshake.Slotted directory filename length handle fields word environment)
include slotted

theorem storage_tick : environment.world.tick.storage = environment.storage :=
  @World.storage_ticks_of_undisturbed environment.world slotted.clock 1

/-- A reading of the clock changes nothing. -/
theorem tick : handshake.Slotted directory filename length handle fields word
    (environment.inside environment.world.tick) where
  places := by
    rw [Environment.storage_inside, slotted.storage_tick]
    exact slotted.places
  clock := slotted.clock
  word := (congrArg (fun storage => fields.region.word Int64 storage _)
    slotted.storage_tick).trans slotted.word

/-- What is put into a control field does not reach the slot. -/
theorem put {α : Type} [StoredWord α] {offset : Nat} (value : α)
    (control : offset + StoredWord.width α ≤ fields.layout.timestampOffset + timestampSize) :
    handshake.Slotted directory filename length handle fields word
      (environment.inside ⟨environment.clock,
        fields.region.put environment.storage offset value⟩) where
  places := slotted.places.put offset value
  clock := slotted.clock
  word := by
    have apart := fields.layout.timestamp_le_payloadOffset
    refine Eq.trans ?_ slotted.word
    exact Region.word_put_of_apart slotted.places.made _ _ (.inr (by omega))

/-- A heartbeat succeeds and leaves the slot alone. -/
theorem ensures_beat : ((Owner.beat handle : Activity Unit).run environment).Ensures
    (fun _ after => handshake.Slotted directory filename length handle fields word after)
    (fun _ _ => False) False := by
  have read := slotted.tick
  refine .bind ?_
  rw [Activity.run_now]
  change Outcome.Ensures ((Worker.change _ : Activity Unit).run _) _ _ _
  rw [Activity.run_change, Handle.beat_eq_ok read.places.fields read.places.fit]
  exact read.put environment.world.shown (Nat.le_refl _)

/-- A publication succeeds and leaves the slot alone. -/
theorem ensures_publish (version : Int32) :
    ((Worker.change fun storage => handle.signalReady storage version : Activity Unit).run
      environment).Ensures
    (fun _ after => handshake.Slotted directory filename length handle fields word after)
    (fun _ _ => False) False := by
  rw [Activity.run_change, Handle.signalReady_eq_ok slotted.places.fields slotted.places.fit]
  exact slotted.put version (Nat.le_trans fields.layout.ordered (Nat.le_add_right _ _))

/-- Any number of heartbeats succeeds and leaves the slot alone. -/
theorem ensures_beats (count : Nat) :
    ((Owner.beats handle count : Activity Unit).run environment).Ensures
      (fun _ after => handshake.Slotted directory filename length handle fields word after)
      (fun _ _ => False) False := by
  induction count generalizing environment with
  | zero => exact slotted
  | succ count ih => exact .bind (slotted.ensures_beat.imp (fun _ _ => ih) (fun _ _ => id) id)

end Handshake.Slotted

namespace Handshake.Slotted

variable {handshake : Handshake} {directory filename : String} {length : Nat} {handle : Handle}
  {fields : ControlFields} {environment : Environment}
  (slotted : handshake.Slotted directory filename length handle fields 0 environment)
include slotted

/-- An introduction over zeros succeeds, stores both words or none, and leaves the control fields as
they are. -/
theorem ensures_introduce (process : Int64) :
    ((handle.introduce process : Activity Unit).run environment).Ensures
      (fun _ after => handle.Introduces process environment after ∧
        fields.versionIn after.storage = fields.versionIn environment.storage ∧
        fields.timestampIn after.storage = fields.timestampIn environment.storage ∧
        handshake.Slotted directory filename length handle fields (fields.slotWord process) after)
      (fun _ _ => False) False := by
  obtain ⟨region, layout⟩ := Handle.of_fields slotted.places.fields
  have whole : fields.region = .mapping fields.region.object 0 fields.region.capacity := by
    obtain ⟨object, rfl⟩ := slotted.places.file
    rfl
  have given : (Observer.ofExcept handle.region : Activity Region).run environment =
      .returned fields.region environment := by
    rw [Activity.run_ofExcept, region]
    rfl
  unfold Handle.introduce
  rw [Activity.run_bind_of_returned _ given, layout]
  by_cases room : fields.layout.payloadOffset + 16 ≤ fields.region.capacity
  · simp only [if_pos room]
    obtain ⟨first, second⟩ := ControlFields.payload_access whole room
    let named := fields.region.put environment.storage fields.layout.payloadOffset process
    let between := environment.inside ⟨environment.clock, named⟩
    have quiet : between.world.tick.storage = named :=
      @World.storage_ticks_of_undisturbed between.world slotted.clock 1
    have shown : between.world.shown = environment.world.shown :=
      World.shown_eq environment.clock named environment.storage
    have placed := slotted.places.put fields.layout.payloadOffset process
    have stored : fields.region.store environment.storage fields.layout.payloadOffset process =
        .ok named := Region.store_eq_ok first environment.storage process
    have dated : fields.region.store between.world.tick.storage (fields.layout.payloadOffset + 8)
        between.world.shown = .ok (fields.region.put named (fields.layout.payloadOffset + 8)
          between.world.shown) := by
      rw [quiet]
      exact Region.store_eq_ok second named between.world.shown
    refine .bind ?_
    rw [Activity.run_change, stored]
    refine .bind ?_
    rw [Activity.run_now]
    change Outcome.Ensures ((Worker.change _ : Activity Unit).run _) _ _ _
    rw [Activity.run_change, Environment.storage_inside, dated]
    refine ⟨⟨?_, ?_⟩, ?_, ?_, ⟨placed.put _ _, slotted.clock, ?_⟩⟩
    · rintro _ same _
      cases region.symm.trans same
      rw [layout]
      refine ⟨named, stored, ?_⟩
      rw [← shown]
      exact Region.store_eq_ok second named between.world.shown
    · rintro _ same crowded
      cases region.symm.trans same
      exact absurd room (layout ▸ crowded)
    · exact (ControlFields.versionIn_put_payload placed.made (Nat.le_add_right _ 8) _).trans
        (ControlFields.versionIn_put_payload slotted.places.made (Nat.le_refl _) _)
    · exact (ControlFields.timestampIn_put_payload placed.made (Nat.le_add_right _ 8) _).trans
        (ControlFields.timestampIn_put_payload slotted.places.made (Nat.le_refl _) _)
    · rw [ControlFields.slotWord, if_pos room]
      -- The second word does not reach the first one.
      exact (@Region.word_put_of_apart Int64 Int64 _ _ _ _ placed.made _ _ _
        (.inl (Nat.le_refl _))).trans (Region.word_put slotted.places.made _ process)
  · simp only [if_neg room]
    refine ⟨⟨?_, fun _ _ _ => rfl⟩, rfl, rfl, ?_⟩
    · rintro _ same spacious
      cases region.symm.trans same
      exact absurd (layout ▸ spacious) room
    · rw [ControlFields.slotWord, if_neg room]
      exact slotted

/-- An announcement over zeros succeeds and leaves the word of the slot. -/
theorem ensures_announce (process : Int64) (version : Int32) :
    ((Owner.announce handle process version : Activity Unit).run environment).Ensures
      (fun _ after =>
        handshake.Slotted directory filename length handle fields (fields.slotWord process) after)
      (fun _ _ => False) False := by
  refine .bind ((slotted.ensures_introduce process).imp ?_ (fun _ _ => id) id)
  rintro _ introduced ⟨-, -, -, slotted⟩
  refine .bind (slotted.ensures_beat.imp ?_ (fun _ _ => id) id)
  exact fun _ beaten slotted => slotted.ensures_publish version

end Handshake.Slotted

/-! ## Watchers -/

/-- Words behind the control fields outlast everything that an owner does to its file. -/
theorem word_afterActs {path : String} {layout : Layout} {object : ObjectId} {storage : Storage}
    (has : storage.HasFields path layout object) {acts : List Act}
    (owner : ∀ act ∈ acts, OwnerAct path layout act) (offset : Nat)
    (behind : layout.timestampOffset + timestampSize ≤ offset)
    (inside : offset + 8 ≤ (storage.content object).size) :
    ((storage.afterActs acts).content object).word Int64 offset =
      (storage.content object).word Int64 offset := by
  induction acts generalizing storage with
  | nil => rfl
  | cons act acts ih =>
    have rest : ∀ other ∈ acts, OwnerAct path layout other :=
      fun other listed => owner other (List.mem_cons_of_mem _ listed)
    rw [Storage.afterActs_cons]
    rcases (owner act (List.mem_cons_self ..)).overwrites with
      ⟨time, rfl⟩ | ⟨start, bytes, control, rfl⟩
    · exact ih has rest inside
    · have within : start + bytes.length ≤ (storage.content object).size :=
        Nat.le_trans control has.2
      have content := Storage.content_modify storage object object (·.overwrite start bytes)
        (Storage.made_of_openFile has.1)
      rw [if_pos rfl] at content
      rw [Storage.afterActs_overwrite has.1]
      have still := ((SharesFile.refl has).overwrite control).hasFields
      rw [ih still rest (by rwa [content, Content.size_overwrite within]), content]
      refine congrArg StoredWord.ofBytes (List.map_congr_left fun i listed => ?_)
      have bound : i < 8 := List.mem_range.1 listed
      rw [Content.byte_overwrite within (by omega), if_neg (by omega)]

/-- Later worlds of a clock with acts of one kind are left by acts of that kind. -/
theorem World.Later.acts {world after : World} (later : world.Later after) {allowed : Act → Prop}
    (kind : ∀ reading, ∀ act ∈ world.clock.script reading, allowed act) :
    ∃ acts, (∀ act ∈ acts, allowed act) ∧ after.storage = world.storage.afterActs acts := by
  obtain ⟨readings, rfl⟩ := later
  refine ⟨_, fun act listed => ?_, world.storage_ticks readings⟩
  obtain ⟨reading, _, scripted⟩ := List.mem_flatMap.1 listed
  exact kind reading act scripted

theorem Activity.Observes.gives_later {α : Type} {activity : Activity α}
    (observes : activity.Observes) (environment : Environment) :
    (activity.run environment).Gives fun _ after => environment.world.Later after.world :=
  Outcome.Ensures.gives (observes environment)

/-- An attachment that succeeds has mapped the whole of the file that it found at some reading of
the clock, and has done nothing but to read the clock. -/
theorem Handshake.gives_attachment (handshake : Handshake) (directory filename : String)
    (rounds : Nat) (environment : Environment) :
    ((handshake.openExisting directory filename rounds : Activity Handle).run environment).Gives
      fun handle after => environment.world.Later after.world ∧
        ∃ (mapped : World) (region : Region), environment.world.Later mapped ∧
          mapped.storage.mapWhole (Path.join directory filename) = .ok region ∧
          handle = handshake.attachment directory filename region := by
  refine ((Activity.Observes.deadlineAfter _).gives_later _).bind fun deadline begun first => ?_
  have maps : ((handshake.mapWhenPresent (Path.join directory filename) deadline rounds :
      Activity Region).run begun).Gives fun region after =>
        begun.world.Later after.world ∧
          after.storage.mapWhole (Path.join directory filename) = .ok region := by
    refine ((Activity.Observes.look _).gives_later _).bind fun required found first => ?_
    refine ((observes_awaitFile rounds _ required deadline).gives_later _).bind
      fun _ waited second => ?_
    refine ((Activity.Observes.log handshake _).gives_later _).bind fun _ told third => ?_
    rw [Activity.run_look]
    exact .of_ofExcept fun region mapped =>
      ⟨(first.trans second).trans third, filesResult_eq_ok_iff.1 mapped⟩
  refine maps.bind ?_
  rintro region mapped ⟨second, whole⟩
  have found := first.trans second
  refine ((Activity.Observes.look _).gives_later _).bind fun _ _ fitting => ?_
  refine ((ControlFields.observes_awaitVersion _ deadline rounds).gives_later _).bind
    fun version _ published => ?_
  refine ((Activity.Observes.consult handshake version).gives_later _).bind fun _ _ accepted => ?_
  refine ((ControlFields.observes_awaitHeartbeat _ deadline rounds).gives_later _).bind
    fun _ _ beaten => ?_
  refine ((Activity.Observes.report _).gives_later _).bind fun _ _ told => ?_
  rw [Activity.run_look]
  refine .of_ofExcept fun handle given =>
    ⟨found.trans (fitting.trans (published.trans (accepted.trans (beaten.trans told)))),
      mapped.world, region, found, whole, ?_⟩
  rw [Handle.ofView_eq] at given
  cases fits : handshake.layout.check region with
  | error _ => cases (fits ▸ given)
  | ok => exact (Except.ok.inj (fits ▸ given)).symm

/-- What everyone finds in the slot of a file that an owner has left in a storage, while the owner
goes on with its file. -/
structure Handshake.SlotShows (handshake : Handshake) (directory filename : String) (region : Region)
    (storage : Storage) (shown : Option Int64) : Prop where
  /-- Each handle on the region shows it, whatever the owner has done to its file meanwhile. -/
  handles : ∀ acts, (∀ act ∈ acts, OwnerAct (Path.join directory filename) handshake.layout act) →
    ∀ attached : Handle, attached.layout = handshake.layout → attached.region = .ok region →
      attached.ownerProcess (storage.afterActs acts) = .ok shown
  /-- A watcher that attaches to the file, with the same layout and whatever else it asks for, reads
  it. -/
  watchers : ∀ (watcher : Handshake) (rounds : Nat) (environment seen : Environment)
    (attached : Handle), watcher.layout = handshake.layout → environment.storage = storage →
    (∀ reading, ∀ act ∈ environment.clock.script reading,
      OwnerAct (Path.join directory filename) handshake.layout act) →
    (watcher.openExisting directory filename rounds : Activity Handle).run environment =
      .returned attached seen →
    attached.ownerProcess seen.storage = .ok shown

namespace Handshake.Slotted

variable {handshake : Handshake} {directory filename : String} {length : Nat} {handle : Handle}
  {fields : ControlFields} {word : Int64} {environment : Environment}
  (slotted : handshake.Slotted directory filename length handle fields word environment)
include slotted

/-- The first word of the slot is shown if there is room for it, to those who attached before and to
those who attach now. -/
theorem shows : handshake.SlotShows directory filename fields.region environment.storage
    (if handshake.layout.payloadOffset + 8 ≤ length then some word else none) := by
  obtain ⟨object, file⟩ := slotted.places.file
  have opened := slotted.places.inPlace.opened
  have size := slotted.places.inPlace.size
  have room := (Layout.verify_eq_ok_iff.1 slotted.places.fit).2.1
  have first := slotted.word
  subst file
  have has : environment.storage.HasFields (Path.join directory filename) handshake.layout object :=
    ⟨opened, size.symm ▸ room⟩
  have handles (acts : List Act)
      (owner : ∀ act ∈ acts, OwnerAct (Path.join directory filename) handshake.layout act)
      (attached : Handle) (layout : attached.layout = handshake.layout)
      (region : attached.region = .ok (.mapping object 0 length)) :
      attached.ownerProcess (environment.storage.afterActs acts) =
        .ok (if handshake.layout.payloadOffset + 8 ≤ length then some word else none) := by
    unfold Handle.ownerProcess
    rw [region, layout]
    by_cases fits : handshake.layout.payloadOffset + 8 ≤ length
    · have access : (Region.mapping object 0 length).checkAccess handshake.layout.payloadOffset 8 8 =
          .ok () := by
        refine Region.checkAccess_eq_ok_iff.2 ⟨fits, ?_⟩
        rw [Region.alignedAt_mapping 8 ⟨512, rfl⟩, Nat.zero_add]
        exact decide_eq_true handshake.layout.payloadOffset_mod
      have kept := word_afterActs has owner (0 + handshake.layout.payloadOffset)
        (by rw [Nat.zero_add]; exact handshake.layout.timestamp_le_payloadOffset)
        (by rw [Nat.zero_add]; exact size.symm ▸ fits)
      rw [if_pos fits]
      refine (if_pos fits).trans ?_
      rw [Region.load_eq_ok (α := Int64) access]
      exact congrArg (fun word => Except.ok (some word)) (kept.trans first)
    · rw [if_neg fits]
      exact if_neg fits
  refine ⟨handles, ?_⟩
  intro watcher rounds begun seen attached layout same owner attaches
  obtain ⟨later, mapped, region, earlier, whole, rfl⟩ :=
    (watcher.gives_attachment directory filename rounds begun).of_eq attaches
  obtain ⟨acts, owned, storage⟩ := later.acts owner
  obtain ⟨before, ownedBefore, storageBefore⟩ := earlier.acts owner
  have found : region = .mapping object 0 length := by
    obtain ⟨kept, unresized⟩ := afterActs_sameBut has ownedBefore
    have leads := Storage.openFile_of_namesKept kept.namesKept opened
    rw [storageBefore, show begun.world.storage = environment.storage from same] at whole
    unfold Storage.mapWhole at whole
    rw [leads] at whole
    cases whole
    exact congrArg (Region.mapping object 0) (unresized.trans size)
  rw [show seen.storage = _ from storage, show begun.world.storage = environment.storage from same]
  exact handles acts owned _ layout (congrArg Except.ok found)

end Handshake.Slotted

namespace Owner

/-- What comes of the slot of a file that was created, whatever the layout and the length are and
whatever was there before.

It lies at the first multiple of eight after the control fields, and its end is a machine number.
Both of its words are in bounds exactly if there is room for both, and then both are stored, and
otherwise neither of them is.  The introduction does not fail and leaves the control fields as they
are, and neither do the announcement and the heartbeats fail that follow.  A watcher reads the
number of the owner's process if there is room for both words, the zero of a new file if there is
room for the first word only, and nothing if there is no room for either. -/
theorem slot_after_creation {handshake : Handshake} {directory filename : String} {length : Nat}
    {force : Bool} {rounds : Nat} {start created : Environment} {handle : Handle}
    (creation : (handshake.createInDirectory directory filename length force rounds :
      Activity Handle).run start = .returned handle created)
    (undisturbed : created.clock.Undisturbed) (process : Int64) (version : Int32) (beats : Nat) :
    (handshake.layout.payloadOffset % 8 = 0 ∧
      handshake.layout.timestampOffset + timestampSize ≤ handshake.layout.payloadOffset ∧
      (∀ offset, offset % 8 = 0 → handshake.layout.timestampOffset + timestampSize ≤ offset →
        handshake.layout.payloadOffset ≤ offset) ∧
      handshake.layout.payloadOffset + 16 < addressSpace) ∧
    ∃ (region : Region) (introduced running : Environment),
      handle.region = .ok region ∧ region.capacity = length ∧
      (region.checkAccess handshake.layout.payloadOffset 8 8 = .ok () ∧
          region.checkAccess (handshake.layout.payloadOffset + 8) 8 8 = .ok () ↔
        handshake.layout.payloadOffset + 16 ≤ length) ∧
      (handle.introduce process : Activity Unit).run created = .returned () introduced ∧
      handle.Introduces process created introduced ∧
      handle.version introduced.storage = handle.version created.storage ∧
      handle.timestamp introduced.storage = handle.timestamp created.storage ∧
      (announce handle process version >>= fun _ => Owner.beats handle beats :
        Activity Unit).run created = .returned () running ∧
      handshake.SlotShows directory filename region running.storage
        (if handshake.layout.payloadOffset + 16 ≤ length then some process
          else if handshake.layout.payloadOffset + 8 ≤ length then some 0 else none) := by
  obtain ⟨prepared, object, prepares, creates, -⟩ := Handshake.inversion_of_created creation
  have places := creates.places prepares
  let fields : ControlFields := .ofFile handshake.layout object length
  have on : handle.fields = .ok fields := places.fields
  have room := (Layout.verify_eq_ok_iff.1 places.fit).2.1
  have slotted : handshake.Slotted directory filename length handle fields 0 created := by
    refine ⟨places, undisturbed, ?_⟩
    change StoredWord.ofBytes (Content.read (created.storage.content object) _ _) = (0 : Int64)
    rw [Content.read_of_zero creates.zero]
    decide
  obtain ⟨_, introduced, introduces, stores, version_eq, timestamp_eq, -⟩ :=
    (slotted.ensures_introduce process).of_returned
  have lives : ((announce handle process version >>= fun _ => Owner.beats handle beats :
      Activity Unit).run created).Ensures
        (fun _ after => handshake.Slotted directory filename length handle fields
          (fields.slotWord process) after) (fun _ _ => False) False :=
    .bind ((slotted.ensures_announce process version).imp
      (fun _ _ announced => announced.ensures_beats beats) (fun _ _ => id) id)
  obtain ⟨_, running, lived, keeps⟩ := lives.of_returned
  refine ⟨⟨handshake.layout.payloadOffset_mod, handshake.layout.timestamp_le_payloadOffset,
    fun offset => handshake.layout.payloadOffset_least,
    handshake.layout.payload_representable creates.possible room⟩,
    fields.region, introduced, running, (Handle.of_fields on).1, rfl,
    handshake.layout.payload_stores_iff object length, introduces, stores, ?_, ?_, lived, ?_⟩
  · rw [Handle.version_eq on places.fit, Handle.version_eq on places.fit, version_eq]
  · rw [Handle.timestamp_eq on places.fit, Handle.timestamp_eq on places.fit, timestamp_eq]
  · -- With room for the first word alone, what is shown of it is what was never written.
    have shown : (if handshake.layout.payloadOffset + 8 ≤ length then
        some (if handshake.layout.payloadOffset + 16 ≤ length then process else 0) else none) =
        if handshake.layout.payloadOffset + 16 ≤ length then some process
          else if handshake.layout.payloadOffset + 8 ≤ length then some 0 else none := by
      by_cases both : handshake.layout.payloadOffset + 16 ≤ length
      · have first : handshake.layout.payloadOffset + 8 ≤ length := by omega
        simp only [if_pos both, if_pos first]
      · simp only [if_neg both]
    rw [← shown]
    exact keeps.shows

/-- In a file with room for exactly both words, watchers find the process of the owner. -/
theorem slot_after_creation_full :
    ∃ (handle : Handle) (created running : Environment) (region : Region),
      (Handshake.ofOwned.createInDirectory "/run" "cnc" 32 false 1 : Activity Handle).run
        ⟨.ticking 100 0, .empty, []⟩ = .returned handle created ∧
      created.clock.Undisturbed ∧
      (announce handle 7 3 >>= fun _ => Owner.beats handle 2 : Activity Unit).run created =
        .returned () running ∧
      Handshake.ofOwned.SlotShows "/run" "cnc" region running.storage (some 7) := by
  have creates : ((Handshake.ofOwned.createInDirectory "/run" "cnc" 32 false 1 :
      Activity Handle).run ⟨.ticking 100 0, .empty, []⟩).Ensures (fun _ _ => True)
        (fun _ _ => False) False := by decide +kernel
  obtain ⟨handle, created, creation, -⟩ := creates.of_returned
  obtain ⟨-, readings, clock⟩ := (Handshake.gives_createInDirectory _ _ _).of_eq creation
  have undisturbed : created.clock.Undisturbed := by
    rw [clock]
    exact ((Clock.positive_standing (by decide)).ticks readings).undisturbed
  obtain ⟨-, region, _, running, -, -, -, -, -, -, -, lived, shows⟩ :=
    slot_after_creation creation undisturbed 7 3 2
  exact ⟨handle, created, running, region, creation, undisturbed, lived, shows⟩

/-- In a file with room for the first word and not for the second, a watcher reads the zero of a new
file as the number of a process, which is not the owner's. -/
theorem slot_unwritten_is_read :
    ∃ (handle attached : Handle) (created published seen : Environment),
      (Handshake.ofOwned.createInDirectory "/run" "cnc" 24 false 1 : Activity Handle).run
        ⟨.ticking 100 0, .empty, []⟩ = .returned handle created ∧
      (announce handle 7 3 : Activity Unit).run created = .returned () published ∧
      (Handshake.ofOwned.openExisting "/run" "cnc" 1 : Activity Handle).run published =
        .returned attached seen ∧
      ∃ read, attached.ownerProcess seen.storage = .ok (some read) ∧ read = 0 ∧ read ≠ 7 := by
  have ran : ((Handshake.ofOwned.createInDirectory "/run" "cnc" 24 false 1 : Activity Handle).run
      ⟨.ticking 100 0, .empty, []⟩).Ensures (fun handle created =>
        ((announce handle 7 3 : Activity Unit).run created).Ensures (fun _ published =>
          ((Handshake.ofOwned.openExisting "/run" "cnc" 1 : Activity Handle).run published).Ensures
            (fun attached seen => (attached.ownerProcess seen.storage).toOption = some (some 0))
            (fun _ _ => False) False) (fun _ _ => False) False) (fun _ _ => False) False := by
    decide +kernel
  obtain ⟨handle, created, creation, ran⟩ := ran.of_returned
  obtain ⟨_, published, announced, ran⟩ := ran.of_returned
  obtain ⟨attached, seen, attachment, ran⟩ := ran.of_returned
  refine ⟨handle, attached, created, published, seen, creation, announced, attachment, 0, ?_, rfl,
    by decide⟩
  cases read : attached.ownerProcess seen.storage with
  | error _ => rw [read] at ran; cases ran
  | ok shown =>
    rw [read] at ran
    exact congrArg Except.ok (Option.some.inj ran)

end Owner

end Heartbeat
