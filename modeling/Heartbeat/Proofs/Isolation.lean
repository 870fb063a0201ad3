import Heartbeat.Payload
import Heartbeat.Proofs.Opening
import Heartbeat.Proofs.Renewal

/-!
# A replaced owner is isolated

An owner that was replaced does not know of it, and goes on to write into its region.  This module
shows that nobody else notices.  What was opened before reaches objects that had been made
(`Access.Opened.made`), and a creation makes a new one (`Handshake.Creates.fresh`), so the new region
and those from before have no object in common.

Every write changes the bytes of one object, in a way that does not depend on the storage, or changes
nothing (`Write.leaves`).  So of any sequence of writes, those through other objects can be left out
without a difference for what is read through this one (`Storage.agreeOn_afterWrites`), and
`Handshake.createInDirectory_isolates` puts both together.
-/

set_option autoImplicit false

namespace Heartbeat

/-! ## Reading -/

/-- Whatever is read through an access is the same in two storages. -/
structure Access.Alike (access : Access) (before after : Storage) : Prop where
  /-- The published version. -/
  version : ∀ handle, access = .ofHandle handle → handle.version after = handle.version before
  /-- The last heartbeat. -/
  timestamp : ∀ handle, access = .ofHandle handle →
    handle.timestamp after = handle.timestamp before
  /-- The number of the owner's process. -/
  ownerProcess : ∀ handle, access = .ofHandle handle →
    handle.ownerProcess after = handle.ownerProcess before
  /-- Any word. -/
  word : ∀ (α : Type) [StoredWord α] region offset, access.region = .ok region →
    (region.load after offset : Except Fault α) = region.load before offset
  /-- Any bytes. -/
  bytes : ∀ region offset length, access.region = .ok region →
    region.loadBytes after offset length = region.loadBytes before offset length

/-- What is read through an access depends on nothing but the bytes of its object. -/
theorem Access.Alike.of_content {access : Access} {before after : Storage}
    (same : ∀ region, access.region = .ok region →
      after.content region.object = before.content region.object) :
    access.Alike before after := by
  have word (α : Type) [StoredWord α] (region : Region) (offset : Nat)
      (reaches : access.region = .ok region) :
      (region.load after offset : Except Fault α) = region.load before offset := by
    unfold Region.load
    rw [same region reaches]
  refine ⟨?version, ?timestamp, ?ownerProcess, word, ?bytes⟩
  case version =>
    rintro handle rfl
    unfold Handle.version Handle.fields
    cases given : handle.region with
    | error _ => rfl
    | ok region => exact congrArg Failure.ofFault (word Int32 region _ given)
  case timestamp =>
    rintro handle rfl
    unfold Handle.timestamp Handle.fields
    cases given : handle.region with
    | error _ => rfl
    | ok region => exact congrArg Failure.ofFault (word Int64 region _ given)
  case ownerProcess =>
    rintro handle rfl
    unfold Handle.ownerProcess
    cases given : handle.region with
    | error _ => rfl
    | ok region => simp only [word Int64 region _ given]
  case bytes =>
    intro region offset length reaches
    unfold Region.loadBytes
    rw [same region reaches]

/-! ## Writing -/

/-- An act always fails, or it always changes the bytes of the region's object in one way. -/
def Region.Stores (region : Region) (act : Storage → Except Fault Storage) : Prop :=
  (∃ fault, ∀ storage, act storage = .error fault) ∨
    ∃ change, ∀ storage, act storage = .ok (storage.modify region.object change)

theorem Region.stores_word {α : Type} [StoredWord α] (region : Region) (offset : Nat) (value : α) :
    region.Stores fun storage => region.store storage offset value := by
  unfold Stores store
  cases region.checkAccess offset (StoredWord.width α) (StoredWord.width α) with
  | error fault => exact .inl ⟨fault, fun _ => rfl⟩
  | ok => exact .inr ⟨_, fun _ => rfl⟩

theorem Region.stores_bytes (region : Region) (offset : Nat) (bytes : List UInt8) :
    region.Stores fun storage => region.storeBytes storage offset bytes := by
  unfold Stores storeBytes
  cases region.checkAccess offset bytes.length 1 with
  | error fault => exact .inl ⟨fault, fun _ => rfl⟩
  | ok => exact .inr ⟨_, fun _ => rfl⟩

/-- What a process can write. -/
inductive Write where
  /-- A version, which publishes the region. -/
  | publish (handle : Handle) (version : Int32)
  /-- A heartbeat. -/
  | beat (handle : Handle) (time : Milliseconds)
  /-- A 32-bit word at an offset. -/
  | int32 (access : Access) (offset : Nat) (value : Int32)
  /-- A 64-bit word at an offset. -/
  | int64 (access : Access) (offset : Nat) (value : Int64)
  /-- Bytes at an offset. -/
  | bytes (access : Access) (offset : Nat) (bytes : List UInt8)

namespace Write

/-- Through what is written. -/
def access : Write → Access
  | .publish handle _ | .beat handle _ => .ofHandle handle
  | .int32 access _ _ | .int64 access _ _ | .bytes access _ _ => access

/-- Does a write, or fails. -/
def perform (write : Write) (storage : Storage) : Except Failure Storage :=
  match write with
  | .publish handle version => handle.signalReady storage version
  | .beat handle time => handle.beat storage time
  | .int32 access offset value =>
    access.region.bind fun region => Failure.ofFault (region.store storage offset value)
  | .int64 access offset value =>
    access.region.bind fun region => Failure.ofFault (region.store storage offset value)
  | .bytes access offset stored =>
    access.region.bind fun region => Failure.ofFault (region.storeBytes storage offset stored)

/-- What a write leaves.  A write that fails leaves everything as it is. -/
def leave (write : Write) (storage : Storage) : Storage :=
  match write.perform storage with
  | .ok after => after
  | .error _ => storage

/-- Whether a write reaches the region of a handle, through the handle or otherwise. -/
def isThrough (handle : Handle) (write : Write) : Bool :=
  write.access.region.toOption = handle.region.toOption

/-- A store in the region that is reached, if one is reached. -/
theorem performs_of_bind {reached : Except Failure Region}
    {perform : Storage → Except Failure Storage} {act : Region → Storage → Except Fault Storage}
    (stores : ∀ region : Region, region.Stores (act region))
    (binds : ∀ storage, perform storage =
      reached.bind fun region => Failure.ofFault (act region storage)) :
    (∃ failure, ∀ storage, perform storage = .error failure) ∨
      ∃ (region : Region) (act : Storage → Except Fault Storage), reached = .ok region ∧
        region.Stores act ∧ ∀ storage, perform storage = Failure.ofFault (act storage) := by
  cases reached with
  | error failure => exact .inl ⟨failure, binds⟩
  | ok region => exact .inr ⟨region, act region, rfl, stores region, binds⟩

/-- A write is a store in the region that it reaches, and fails if it reaches none. -/
theorem performs (write : Write) :
    (∃ failure, ∀ storage, write.perform storage = .error failure) ∨
      ∃ (region : Region) (act : Storage → Except Fault Storage),
        write.access.region = .ok region ∧ region.Stores act ∧
        ∀ storage, write.perform storage = Failure.ofFault (act storage) := by
  cases write with
  | publish handle version =>
    refine performs_of_bind
      (fun region => region.stores_word handle.layout.versionOffset version) fun storage => ?_
    simp only [perform, access, Access.region, Handle.signalReady, Handle.fields]
    cases handle.region <;> rfl
  | beat handle time =>
    refine performs_of_bind
      (fun region => region.stores_word handle.layout.timestampOffset time) fun storage => ?_
    simp only [perform, access, Access.region, Handle.beat, Handle.fields]
    cases handle.region <;> rfl
  | int32 _ offset value | int64 _ offset value =>
    exact performs_of_bind (fun region => region.stores_word offset value) fun _ => rfl
  | bytes _ offset stored =>
    exact performs_of_bind (fun region => region.stores_bytes offset stored) fun _ => rfl

/-- A write never changes anything, or it always changes the bytes of one object in one way. -/
theorem leaves (write : Write) :
    (∀ storage, write.leave storage = storage) ∨
      ∃ region change, write.access.region = .ok region ∧
        ∀ storage, write.leave storage = storage.modify region.object change := by
  rcases write.performs with ⟨_, fails⟩ | ⟨region, act, reaches, ⟨_, faults⟩ | ⟨change, stores⟩,
    performs⟩
  · exact .inl fun storage => by simp only [leave, fails]
  · exact .inl fun storage => by simp only [leave, performs, faults, Failure.ofFault]
  · exact .inr ⟨region, change, reaches, fun storage => by
      simp only [leave, performs, stores, Failure.ofFault]⟩

end Write

/-! ## Sequences of writes -/

namespace Storage

/-- What writes leave that are made one after the other. -/
def afterWrites (storage : Storage) (writes : List Write) : Storage :=
  writes.foldl (fun storage write => write.leave storage) storage

/-- To change an object that was not made is to change nothing. -/
theorem content_modify_of_unmade (storage : Storage) {object : ObjectId}
    (change : Content → Content) (unmade : ¬ object < storage.objects.size) (other : ObjectId) :
    (storage.modify object change).content other = storage.content other := by
  by_cases same : other = object
  · subst same
    simp [content, modify, unmade]
  · exact content_modify_of_ne storage change same

/-- Two storages have the same objects, and the same bytes in one of them. -/
structure AgreeOn (object : ObjectId) (first second : Storage) : Prop where
  /-- The same objects were made. -/
  made : second.objects.size = first.objects.size
  /-- The object has the same bytes. -/
  content : second.content object = first.content object

variable {object : ObjectId} {first second storage : Storage}

theorem AgreeOn.refl (object : ObjectId) (storage : Storage) : AgreeOn object storage storage :=
  ⟨rfl, rfl⟩

/-- The same write in both storages is no difference. -/
theorem AgreeOn.leave (agree : AgreeOn object first second) (write : Write) :
    AgreeOn object (write.leave first) (write.leave second) := by
  rcases write.leaves with still | ⟨region, change, -, modifies⟩
  · rwa [still, still]
  rw [modifies, modifies]
  refine ⟨?_, ?_⟩
  · simpa only [modify, Array.size_modify] using agree.made
  · by_cases made : region.object < first.objects.size
    · rw [content_modify _ _ _ _ made, content_modify _ _ _ _ (agree.made ▸ made)]
      split
      · next same => rw [← same, agree.content]
      · exact agree.content
    · -- What was made in neither storage is changed in neither.
      rw [content_modify_of_unmade _ _ made, content_modify_of_unmade _ _ (agree.made ▸ made)]
      exact agree.content

/-- A write that reaches another object is no difference. -/
theorem AgreeOn.leave_of_ne (agree : AgreeOn object first second) {write : Write}
    (apart : ∀ region, write.access.region = .ok region → region.object ≠ object) :
    AgreeOn object first (write.leave second) := by
  rcases write.leaves with still | ⟨region, change, reaches, modifies⟩
  · rwa [still]
  · rw [modifies]
    exact ⟨Array.size_modify.trans agree.made,
      (content_modify_of_ne _ _ (apart region reaches).symm).trans agree.content⟩

/-- Writes that reach other objects can be left out. -/
theorem agreeOn_afterWrites (agree : AgreeOn object first second) {writes : List Write}
    {keep : Write → Bool} (apart : ∀ write ∈ writes, keep write = false →
      ∀ region, write.access.region = .ok region → region.object ≠ object) :
    AgreeOn object (first.afterWrites (writes.filter keep)) (second.afterWrites writes) := by
  -- A write that is kept happens in both storages, one that is left out in the second only.
  induction writes generalizing first second with
  | nil => exact agree
  | cons write rest ih =>
    have later := fun other listed => apart other (List.mem_cons_of_mem write listed)
    cases kept : keep write with
    | true =>
      rw [List.filter_cons_of_pos kept]
      exact ih (agree.leave write) later
    | false =>
      rw [List.filter_cons_of_neg (by simp [kept])]
      exact ih (agree.leave_of_ne (apart write (List.mem_cons_self ..) kept)) later

/-- Writes move no name. -/
theorem namesKept_afterWrites (storage : Storage) (writes : List Write) :
    NamesKept storage (storage.afterWrites writes) := by
  induction writes generalizing storage with
  | nil => exact .refl _
  | cons write rest ih =>
    refine .trans ?_ (ih (write.leave storage))
    rcases write.leaves with still | ⟨_, _, -, modifies⟩
    · rw [still]
      exact .refl _
    · rw [modifies]
      exact .modify _ _ _

end Storage

/-! ## The new region and the old ones -/

namespace Handshake

variable {handshake : Handshake} {directory filename : String} {length rounds : Nat} {force : Bool}
  {environment after : Environment} {handle : Handle}

/-- A creation that succeeds gives a handle on an object that no old one is, and leaves the others
as the acts of others meanwhile leave them. -/
theorem renews_of_created (plain : Path.Plain directory) (named : Path.IsFilename filename)
    (created : (handshake.createInDirectory directory filename length force rounds :
      Activity Handle).run environment = .returned handle after) :
    ∃ object, after.storage.openFile (Path.join directory filename) = .ok object ∧
      handle.region = .ok (.mapping object 0 length) ∧
      environment.storage.objects.size ≤ object ∧
      ∀ other, other ≠ object → after.storage.content other =
        (environment.storage.afterActs (environment.clock.upcoming
          (after.clock.reads - environment.clock.reads))).content other := by
  obtain ⟨prepared, object, prepares, creates, still⟩ := inversion_of_created created
  obtain ⟨readings, clock, objects⟩ := prepares.objects plain
  have fresh : object = prepared.storage.objects.size := creates.fresh plain named prepares
  have reads : after.clock.reads - environment.clock.reads = readings := by
    rw [still, clock, World.reads_ticks]
    exact Nat.add_sub_cancel_left _ _
  refine ⟨object, (creates.places prepares).inPlace.opened,
    congrArg Handle.region creates.handle, ?_, ?_⟩
  · rw [fresh, objects]
    exact Storage.Grows.ticks environment.world readings
  · intro other apart
    have content : prepared.storage.content other =
        (environment.world.ticks readings).storage.content other := by
      rw [Storage.content, Storage.content, objects]
    rw [creates.content_eq apart, content, World.storage_ticks, reads]
    rfl

/-- A replaced owner is isolated.

A creation that succeeds leaves what was opened before as readable as it was, with the bytes that
others left at the readings of the clock.  And whatever has happened since, of any writes through the
new region and through what was opened before, the old ones can be left out without a difference for
the new file and the new handle, and the new ones without a difference for what was opened before. -/
theorem createInDirectory_isolates (plain : Path.Plain directory)
    (named : Path.IsFilename filename)
    (created : (handshake.createInDirectory directory filename length force rounds :
      Activity Handle).run environment = .returned handle after) :
    ∃ object, after.storage.openFile (Path.join directory filename) = .ok object ∧
      handle.region = .ok (.mapping object 0 length) ∧
      (∀ old : Access, old.Opened environment.storage →
        old.Alike (environment.storage.afterActs (environment.clock.upcoming
          (after.clock.reads - environment.clock.reads))) after.storage) ∧
      ∀ (later : Storage) (writes : List Write),
        (∀ write ∈ writes, write.isThrough handle = false →
          write.access.Opened environment.storage) →
        let mixed := later.afterWrites writes
        let new := later.afterWrites (writes.filter (·.isThrough handle))
        let old := later.afterWrites (writes.filter (!·.isThrough handle))
        (later.openFile (Path.join directory filename) = .ok object →
          mixed.openFile (Path.join directory filename) = .ok object) ∧
        mixed.content object = new.content object ∧
        (Access.ofHandle handle).Alike new mixed ∧
        ∀ access : Access, access.Opened environment.storage → access.Alike old mixed := by
  obtain ⟨object, leads, given, fresh, others⟩ := renews_of_created plain named created
  have apart {access : Access} (opened : access.Opened environment.storage) {region : Region}
      (reaches : access.region = .ok region) : region.object ≠ object :=
    Nat.ne_of_lt (Nat.lt_of_lt_of_le (opened.made reaches) fresh)
  refine ⟨object, leads, given, ?_, ?_⟩
  · intro access opened
    exact .of_content fun region reaches => others _ (apart opened reaches)
  intro later writes owned mixed new old
  have same : Storage.AgreeOn object new mixed := by
    refine Storage.agreeOn_afterWrites (.refl _ _) ?_
    intro write listed other region reaches
    exact apart (owned write listed other) reaches
  refine ⟨Storage.openFile_of_namesKept (Storage.namesKept_afterWrites _ _), same.content, ?_, ?_⟩
  · refine .of_content fun region reaches => ?_
    cases given.symm.trans reaches
    exact same.content
  · intro access opened
    refine .of_content fun region reaches => ?_
    have kept : Storage.AgreeOn region.object old mixed := by
      refine Storage.agreeOn_afterWrites (.refl _ _) ?_
      intro write listed through other reached
      have whole : write.access.region.toOption = handle.region.toOption := by
        simpa [Write.isThrough] using through
      rw [reached, given] at whole
      cases whole
      exact (apart opened reaches).symm
    exact kept.content

/-- The owner of `run/cnc` is replaced by force and writes one more heartbeat.  The new handle does
not show it. -/
theorem createInDirectory_isolates_owned :
    let environment : Environment := ⟨.ticking 120 1, .owned, []⟩
    let old : Access := .ofRegion (.mapping 0 0 16)
    let handle : Handle := ⟨ofOwned.layout, some "run", some (Path.join "run" "cnc"),
      some ⟨.mapping 1 0 16, .owned⟩, false⟩
    let zombie : Write := .int64 old 8 200
    old.Opened environment.storage ∧ ∃ after,
      (ofOwned.createInDirectory "run" "cnc" 16 true 2 : Activity Handle).run environment =
        .returned handle after ∧
      old.Alike Storage.owned after.storage ∧
      (Access.ofHandle handle).Alike after.storage (after.storage.afterWrites [zombie]) := by
  intro environment old handle zombie
  have opened : old.Opened environment.storage := by
    have maps : Storage.owned.mapWhole "run/cnc" = .ok (.mapping 0 0 16) := rfl
    exact .mapWhole maps
  have names : Path.names "run" = ["run"] := rfl
  have plain : Path.Plain "run" := by
    refine ⟨by decide, rfl, fun name listed => ?_⟩
    obtain rfl : name = "run" := by simpa [names] using listed
    exact ⟨by decide, by decide⟩
  have named : Path.IsFilename "cnc" := ⟨⟨by decide, by decide⟩, by decide, by decide⟩
  obtain ⟨after, created, unread⟩ : ∃ after,
      (ofOwned.createInDirectory "run" "cnc" 16 true 2 : Activity Handle).run
        ⟨.ticking 120 1, .owned, []⟩ = .returned handle after ∧ after.clock.reads = 0 :=
    ⟨_, rfl, rfl⟩
  obtain ⟨object, -, -, before, since⟩ := createInDirectory_isolates plain named created
  refine ⟨opened, after, created, ?_, ?_⟩
  · have alike := before old opened
    rwa [unread] at alike
  · have isolated := (since after.storage [zombie] ?_).2.2.1
    · exact isolated
    · intro write listed _
      obtain rfl := List.mem_singleton.1 listed
      exact opened

end Handshake

end Heartbeat
