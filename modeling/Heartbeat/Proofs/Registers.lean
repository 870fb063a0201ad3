import Heartbeat.Proofs.Handling
import Heartbeat.Proofs.Keeping

/-!
# Two registers that handles share

Any number of handles may have the same bytes in view: mappings of one file, of different lengths,
or one mapping or piece of memory that they share.  Of these bytes they make two registers and a
payload.  What is read of a register is what was last written to it, through whichever handle, and
the payload is what was last put there (`Sharing.fields_are_registers`).

One use stores at most one patch (`Deed.Leaves`), and `Deed.Makes` says what that makes of the
registers and the payload.  `Registers` is the invariant that carries this over any sequence of
uses.
-/

set_option autoImplicit false

namespace Heartbeat

/-! ## Patches -/

namespace Patch

variable {offset position : Nat} {bytes : List UInt8}

/-- Within a patch, its byte. -/
theorem byte?_of_inside (start : offset ≤ position) (within : position < offset + bytes.length) :
    byte? ⟨offset, bytes⟩ position = some (bytes.getD (position - offset) 0) := by
  have here : position - offset < bytes.length := by omega
  unfold byte?
  rw [if_pos start, List.getD_eq_getElem?_getD, List.getElem?_eq_getElem here]
  rfl

/-- Outside a patch, nothing. -/
theorem byte?_of_outside (outside : ¬ (offset ≤ position ∧ position < offset + bytes.length)) :
    byte? ⟨offset, bytes⟩ position = none := by
  refine byte?_eq_none_of_liesWithin ?_ outside
  simp [liesWithin]

end Patch

/-- A content with a patch in it, of which the positions are counted from an origin. -/
def Content.patched (content : Content) (origin : Nat) : Option Patch → Content
  | none => content
  | some patch => content.write (origin + patch.offset) patch.bytes

namespace Content

variable (content : Content) (origin : Nat) (patch : Option Patch)

theorem size_patched : (content.patched origin patch).size = content.size := by
  cases patch <;> rfl

/-- A patch sets its bytes and no others. -/
theorem byte_patched (position : Nat) :
    (content.patched origin patch).byte (origin + position) =
      (patch.bind (·.byte? position)).getD (content.byte (origin + position)) := by
  cases patch with
  | none => rfl
  | some patch =>
    have shifted : origin + position - (origin + patch.offset) = position - patch.offset := by omega
    rw [patched, byte_write, shifted, Option.bind_some]
    by_cases inside : patch.offset ≤ position ∧ position < patch.offset + patch.bytes.length
    · rw [if_pos (by omega), Patch.byte?_of_inside inside.1 inside.2, Option.getD_some]
    · rw [if_neg (by omega), Patch.byte?_of_outside inside, Option.getD_none]

/-- What lies before the origin stays as it is. -/
theorem byte_patched_of_lt {i : Nat} (early : i < origin) :
    (content.patched origin patch).byte i = content.byte i := by
  cases patch with
  | none => rfl
  | some patch => rw [patched, byte_write, if_neg (by omega)]

end Content

/-- A position of a region is one of a control field. -/
def Layout.IsControl (layout : Layout) (position : Nat) : Prop :=
  (layout.versionOffset ≤ position ∧ position < layout.versionOffset + versionSize) ∨
    (layout.timestampOffset ≤ position ∧ position < layout.timestampOffset + timestampSize)

/-- A use puts no bytes into the control fields. -/
def Handle.Use.KeepsOff (layout : Layout) : Handle.Use → Prop
  | .put offset bytes =>
    ∀ position, offset ≤ position → position < offset + bytes.length → ¬ layout.IsControl position
  | _ => True

/-! ## What was done -/

/-- A use that was made of one of several handles, and what came of it. -/
structure Deed (ι : Type) where
  /-- Which handle it was. -/
  who : ι
  /-- What was asked of it. -/
  use : Handle.Use
  /-- The answer, or the failure. -/
  result : Except Failure Handle.Reply

namespace Deed

variable {ι : Type}

/-- What was stored, if anything was. -/
def patch? (layout : Layout) (deed : Deed ι) : Option Patch :=
  match deed.result with
  | .error _ => none
  | .ok _ => deed.use.patch? layout

/-- The version that was published, if one was. -/
def published? (deed : Deed ι) : Option Int32 :=
  match deed.use, deed.result with
  | .publish version, .ok _ => some version
  | _, _ => none

/-- The heartbeat that was written, if one was. -/
def beaten? (deed : Deed ι) : Option Milliseconds :=
  match deed.use, deed.result with
  | .beat time, .ok _ => some time
  | _, _ => none

/-- The byte that was put at a position, if one was. -/
def put? (position : Nat) (deed : Deed ι) : Option UInt8 :=
  match deed.use, deed.result with
  | .put offset bytes, .ok _ => Patch.byte? ⟨offset, bytes⟩ position
  | _, _ => none

end Deed

/-- The value that some deeds gave last, the latest deed first, or one that was there before. -/
def latest {ι α : Type} (given? : Deed ι → Option α) (history : List (Deed ι)) (initial : α) : α :=
  (history.findSome? given?).getD initial

theorem latest_cons {ι α : Type} (given? : Deed ι → Option α) (deed : Deed ι)
    (history : List (Deed ι)) (initial : α) :
    latest given? (deed :: history) initial =
      (given? deed).getD (latest given? history initial) := by
  rw [latest, List.findSome?_cons]
  cases given? deed <;> rfl

/-! ## What one deed makes of a content -/

/-- What a deed makes of a content, of which the positions are counted from an origin. -/
structure Deed.Makes {ι : Type} (layout : Layout) (origin : Nat) (deed : Deed ι)
    (content next : Content) : Prop where
  /-- The version is the one that is published, if one is. -/
  version : next.word Int32 (origin + layout.versionOffset) =
    deed.published?.getD (content.word Int32 (origin + layout.versionOffset))
  /-- The heartbeat is the one that is written, if one is. -/
  timestamp : next.word Milliseconds (origin + layout.timestampOffset) =
    deed.beaten?.getD (content.word Milliseconds (origin + layout.timestampOffset))
  /-- Any other byte is the one that is put there, if one is. -/
  payload : ∀ position, ¬ layout.IsControl position → next.byte (origin + position) =
    (deed.put? position).getD (content.byte (origin + position))
  /-- What lies before the origin stays as it is. -/
  before : ∀ i, i < origin → next.byte i = content.byte i
  /-- The size stays as it is. -/
  size : next.size = content.size

namespace Deed

variable {ι : Type} {layout : Layout} {deed : Deed ι}

/-- A deed that stores nothing. -/
theorem makes_nothing (origin : Nat) (content : Content) (unpublished : deed.published? = none)
    (unbeaten : deed.beaten? = none) (unput : ∀ position, deed.put? position = none) :
    deed.Makes layout origin content content where
  version := by rw [unpublished, Option.getD_none]
  timestamp := by rw [unbeaten, Option.getD_none]
  payload position _ := by rw [unput, Option.getD_none]
  before _ _ := rfl
  size := rfl

/-- A version is published. -/
theorem makes_publish (layout : Layout) (origin : Nat) (content : Content) (who : ι)
    (version : Int32) (reply : Handle.Reply) :
    Makes layout origin ⟨who, .publish version, .ok reply⟩ content
      (content.write (origin + layout.versionOffset) (StoredWord.toBytes version)) := by
  have ordered := layout.ordered
  have width : (StoredWord.toBytes version).length = versionSize :=
    StoredWord.length_toBytes version
  refine ⟨Content.word_write .., Content.word_write_of_off fun i => ?_,
    fun position elsewhere => ?_, fun i early => ?_, rfl⟩
  · omega
  · unfold Layout.IsControl at elsewhere
    rw [Content.byte_write, if_neg (by omega)]
    rfl
  · rw [Content.byte_write, if_neg (by omega)]

/-- A heartbeat is written. -/
theorem makes_beat (layout : Layout) (origin : Nat) (content : Content) (who : ι)
    (time : Milliseconds) (reply : Handle.Reply) :
    Makes layout origin ⟨who, .beat time, .ok reply⟩ content
      (content.write (origin + layout.timestampOffset) (StoredWord.toBytes time)) := by
  have ordered := layout.ordered
  have width : (StoredWord.toBytes time).length = timestampSize := StoredWord.length_toBytes time
  refine ⟨Content.word_write_of_off fun i _ within => ?_, Content.word_write ..,
    fun position elsewhere => ?_, fun i early => ?_, rfl⟩
  · change i < origin + layout.versionOffset + versionSize at within
    omega
  · unfold Layout.IsControl at elsewhere
    rw [Content.byte_write, if_neg (by omega)]
    rfl
  · rw [Content.byte_write, if_neg (by omega)]

/-- Bytes are put into the payload. -/
theorem makes_put (origin : Nat) (content : Content) (who : ι) {offset : Nat} {bytes : List UInt8}
    (off : (Handle.Use.put offset bytes).KeepsOff layout) (reply : Handle.Reply) :
    Makes layout origin ⟨who, .put offset bytes, .ok reply⟩ content
      (content.write (origin + offset) bytes) := by
  refine ⟨Content.word_write_of_off fun i start within patched => ?_,
    Content.word_write_of_off fun i start within patched => ?_,
    fun position _ => content.byte_patched origin (some ⟨offset, bytes⟩) position,
    fun i early => content.byte_patched_of_lt origin (some ⟨offset, bytes⟩) early, rfl⟩
  · change i < origin + layout.versionOffset + versionSize at within
    refine off (i - origin) (by omega) (by omega) (.inl ?_)
    omega
  · change i < origin + layout.timestampOffset + timestampSize at within
    refine off (i - origin) (by omega) (by omega) (.inr ?_)
    omega

/-- Whatever a deed stores. -/
theorem makes_patched (origin : Nat) (content : Content) (off : deed.use.KeepsOff layout) :
    deed.Makes layout origin content (content.patched origin (deed.patch? layout)) := by
  obtain ⟨who, use, result⟩ := deed
  cases result with
  | error failure => cases use <;> exact makes_nothing _ _ rfl rfl fun _ => rfl
  | ok reply =>
    cases use with
    | publish version => exact makes_publish layout origin content who version reply
    | beat time => exact makes_beat layout origin content who time reply
    | put offset bytes => exact makes_put origin content who off reply
    | readVersion | readTimestamp | buffer | isActive _ | isClosed | close | deleteDirectory _ =>
      exact makes_nothing _ _ rfl rfl fun _ => rfl

end Deed

/-! ## The invariant -/

/-- What deeds have made of a content, of which the positions are counted from an origin. -/
structure Registers {ι : Type} (layout : Layout) (origin : Nat) (initial : Content)
    (history : List (Deed ι)) (content : Content) : Prop where
  /-- The version is the last one that was published. -/
  version : content.word Int32 (origin + layout.versionOffset) =
    latest Deed.published? history (initial.word Int32 (origin + layout.versionOffset))
  /-- The heartbeat is the last one that was written. -/
  timestamp : content.word Milliseconds (origin + layout.timestampOffset) =
    latest Deed.beaten? history (initial.word Milliseconds (origin + layout.timestampOffset))
  /-- Any other byte is the last one that was put there. -/
  payload : ∀ position, ¬ layout.IsControl position → content.byte (origin + position) =
    latest (Deed.put? position) history (initial.byte (origin + position))
  /-- What lies before the origin is as it was. -/
  before : ∀ i, i < origin → content.byte i = initial.byte i
  /-- The size is as it was. -/
  size : content.size = initial.size

namespace Registers

variable {ι : Type} {layout : Layout} {origin : Nat} {initial content : Content}
  {history : List (Deed ι)} {deed : Deed ι}

theorem refl (layout : Layout) (origin : Nat) (content : Content) :
    Registers layout origin content ([] : List (Deed ι)) content :=
  ⟨rfl, rfl, fun _ _ => rfl, fun _ _ => rfl, rfl⟩

/-- One more deed. -/
theorem next {after : Content} (registers : Registers layout origin initial history content)
    (makes : deed.Makes layout origin content after) :
    Registers layout origin initial (deed :: history) after where
  version := by rw [makes.version, registers.version, latest_cons]
  timestamp := by rw [makes.timestamp, registers.timestamp, latest_cons]
  payload position elsewhere := by
    rw [makes.payload position elsewhere, registers.payload position elsewhere, latest_cons]
  before i early := (makes.before i early).trans (registers.before i early)
  size := makes.size.trans registers.size

end Registers

/-! ## One deed -/

/-- The objects hold the bytes. -/
theorem Storage.content_of_objects {before after : Storage} (same : after.objects = before.objects)
    (object : ObjectId) : after.content object = before.content object := by
  unfold content
  rw [same]

/-- What a patch in a region does to the objects. -/
theorem Region.content_patched {region : Region} {storage : Storage}
    (made : region.object < storage.objects.size) (patch : Option Patch) :
    (region.patched storage patch).objects.size = storage.objects.size ∧
      (∀ other, other ≠ region.object →
        (region.patched storage patch).content other = storage.content other) ∧
      (region.patched storage patch).content region.object =
        (storage.content region.object).patched region.start patch := by
  cases patch with
  | none => exact ⟨rfl, fun _ _ => rfl, rfl⟩
  | some patch =>
    refine ⟨Array.size_modify, fun other apart => Storage.content_modify_of_ne _ _ apart, ?_⟩
    exact (Storage.content_modify _ _ _ _ made).trans (if_pos rfl)

/-- What a deed leaves that was done to bytes of an object.  It stores its patch and nothing else,
and what it has read of a field was there. -/
structure Deed.Leaves {ι : Type} (layout : Layout) (object : ObjectId) (origin : Nat)
    (deed : Deed ι) (before after : Storage) : Prop where
  /-- Nothing is made. -/
  made : after.objects.size = before.objects.size
  /-- All other bytes are the same. -/
  others : ∀ other, other ≠ object → after.content other = before.content other
  /-- The bytes are the same but for the patch. -/
  content : after.content object =
    (before.content object).patched origin (deed.patch? layout)
  /-- A version that was read was there. -/
  version : deed.use = .readVersion → ∀ reply, deed.result = .ok reply →
    reply = .version ((before.content object).word Int32 (origin + layout.versionOffset))
  /-- A heartbeat that was read was there. -/
  timestamp : deed.use = .readTimestamp → ∀ reply, deed.result = .ok reply →
    reply =
      .timestamp ((before.content object).word Milliseconds (origin + layout.timestampOffset))

/-- A handle has a layout, and as long as it is open its region begins at an origin in an object and
can carry the layout. -/
structure Handle.Shares (layout : Layout) (object : ObjectId) (origin : Nat) (handle : Handle) :
    Prop where
  /-- The handle has the layout. -/
  sameLayout : handle.layout = layout
  /-- Its region begins at the origin. -/
  region : ∀ region, handle.region = .ok region → region.object = object ∧ region.start = origin
  /-- Its region can carry the layout. -/
  fit : ∀ region, handle.region = .ok region → layout.check region = .ok ()
  /-- It is marked as closed exactly if it is not open. -/
  marked : handle.Marked

namespace Handle.Shares

variable {ι : Type} {handle : Handle} {layout : Layout} {object : ObjectId} {origin : Nat}

/-- A handle on a mapping of the beginning of a file. -/
theorem of_file (layout : Layout) (object : ObjectId) {length : Nat}
    (fit : layout.checkMappedLength length = .ok ()) (directory file : Option String)
    (backing : Backing) :
    Shares layout object 0
      ⟨layout, directory, file, some ⟨.mapping object 0 length, backing⟩, false⟩ where
  sameLayout := rfl
  region _ given := by
    cases given
    exact ⟨rfl, rfl⟩
  fit _ given := by
    cases given
    rwa [← Layout.checkMappedLength_eq_check]
  marked := rfl

/-- A handle that was closed shares nothing any more. -/
theorem shut (sameLayout : handle.layout = layout) : Shares layout object origin handle.shut where
  sameLayout := sameLayout
  region _ given := nomatch given
  fit _ given := nomatch given
  marked := rfl

/-- A handle that shares bytes is closed, or it is one on control fields. -/
theorem closed_or_fits (shares : Shares layout object origin handle) :
    handle.view = none ∨ ∃ fields, handle.fields = .ok fields ∧ fields.Fit ∧
      fields.layout = layout ∧ fields.region.object = object ∧ fields.region.start = origin := by
  cases seen : handle.view with
  | none => exact .inl rfl
  | some view =>
    have given : handle.region = .ok view.region := by
      unfold Handle.region
      rw [seen]
    obtain ⟨there, begins⟩ := shares.region _ given
    refine .inr ⟨⟨view.region, layout⟩, ?_, shares.fit _ given, rfl, there, begins⟩
    unfold fields
    rw [given, shares.sameLayout]

/-- The handle that remains after a use shares the bytes or is closed. -/
theorem next (shares : Shares layout object origin handle) (use : Use) :
    Shares layout object origin (use.next handle) := by
  cases use with
  | close => exact .shut shares.sameLayout
  | _ => exact shares

/-- What a use of a handle that shares bytes leaves. -/
theorem ensures_activity (shares : Shares layout object origin handle) (who : ι) (use : Use)
    (rounds : Nat) {environment : Environment} (quiet : environment.clock.Undisturbed)
    (made : object < environment.storage.objects.size) :
    ((use.activity rounds handle).run environment).Ensures
      (fun answer after => Shares layout object origin answer.2 ∧
        Deed.Leaves layout object origin ⟨who, use, .ok answer.1⟩ environment.storage after.storage)
      (fun failure after =>
        Deed.Leaves layout object origin ⟨who, use, .error failure⟩ environment.storage
          after.storage) True := by
  have idle {after : Environment} (failure : Failure)
      (same : after.storage.objects = environment.storage.objects) :
      Deed.Leaves layout object origin ⟨who, use, .error failure⟩ environment.storage
        after.storage :=
    ⟨congrArg Array.size same, fun other _ => Storage.content_of_objects same other,
      Storage.content_of_objects same object, fun _ _ => nofun, fun _ _ => nofun⟩
  rcases shares.closed_or_fits with closed | ⟨fields, on, fit, rfl, rfl, rfl⟩
  · refine (use.ensures_activity_of_closed shares.marked closed rounds environment).imp ?_ ?_ False.elim
    · rintro ⟨reply, next⟩ after ⟨rfl, afar, same⟩
      refine ⟨shares, congrArg Array.size same, fun other _ => Storage.content_of_objects same other,
        ?_, fun reads => ?_, fun reads => ?_⟩
      · have nothing : Deed.patch? layout ⟨who, use, .ok reply⟩ = none :=
          Use.patch?_of_not_accesses afar layout
        rw [nothing]
        exact Storage.content_of_objects same object
      · obtain rfl : use = .readVersion := reads
        exact absurd trivial afar
      · obtain rfl : use = .readTimestamp := reads
        exact absurd trivial afar
    · exact fun failure after left => idle failure left.2
  · refine (use.ensures_activity_of_open shares.marked on fit rounds environment).imp ?_ ?_ id
    · rintro ⟨reply, _⟩ after ⟨rfl, answers, left⟩
      obtain ⟨size, others, patched⟩ :=
        Region.content_patched made (use.patch? fields.layout)
      have same := left quiet
      refine ⟨shares.next use, (congrArg Array.size same).trans size, fun other apart => ?_, ?_,
        fun reads => ?_, fun reads => ?_⟩
      · exact (Storage.content_of_objects same other).trans (others other apart)
      · exact (Storage.content_of_objects same _).trans patched
      · obtain rfl : use = .readVersion := reads
        rintro _ ⟨⟩
        exact answers
      · obtain rfl : use = .readTimestamp := reads
        rintro _ ⟨⟩
        exact answers
    · exact fun failure after left => idle failure (left.2 quiet)

end Handle.Shares

/-! ## Any number of deeds -/

/-- What is found after a history of deeds. -/
structure Sharing.Found {ι : Type} (layout : Layout) (object : ObjectId) (origin : Nat)
    (start : Storage) (history : List (Deed ι)) (handles : ι → Handle) (storage : Storage) :
    Prop where
  /-- The handles share the bytes. -/
  shares : ∀ who, (handles who).Shares layout object origin
  /-- Nothing was made. -/
  made : storage.objects.size = start.objects.size
  /-- All other bytes are the same. -/
  others : ∀ other, other ≠ object → storage.content other = start.content other
  /-- The bytes are two registers and a payload. -/
  registers : Registers layout origin (start.content object) history (storage.content object)
  /-- Every version that was read is the one that had been published last. -/
  versions : ∀ deed earlier, deed :: earlier <:+ history → deed.use = .readVersion →
    ∀ reply, deed.result = .ok reply → reply = .version (latest Deed.published? earlier
      ((start.content object).word Int32 (origin + layout.versionOffset)))
  /-- Every heartbeat that was read is the one that had been written last. -/
  timestamps : ∀ deed earlier, deed :: earlier <:+ history → deed.use = .readTimestamp →
    ∀ reply, deed.result = .ok reply → reply = .timestamp (latest Deed.beaten? earlier
      ((start.content object).word Milliseconds (origin + layout.timestampOffset)))

/-- One more deed. -/
theorem Sharing.Found.leaves {ι : Type} {layout : Layout} {object : ObjectId} {origin : Nat}
    {start storage after : Storage} {handles next : ι → Handle} {history : List (Deed ι)}
    {deed : Deed ι} (found : Found layout object origin start history handles storage)
    (off : deed.use.KeepsOff layout) (shares : ∀ who, (next who).Shares layout object origin)
    (leaves : deed.Leaves layout object origin storage after) :
    Found layout object origin start (deed :: history) next after where
  shares := shares
  made := leaves.made.trans found.made
  others other apart := (leaves.others other apart).trans (found.others other apart)
  registers := leaves.content ▸ found.registers.next (Deed.makes_patched _ _ off)
  versions other earlier listed reads reply answered := by
    rcases List.suffix_cons_iff.1 listed with last | before
    · obtain ⟨rfl, rfl⟩ := List.cons.inj last
      rw [leaves.version reads reply answered, found.registers.version]
    · exact found.versions other earlier before reads reply answered
  timestamps other earlier listed reads reply answered := by
    rcases List.suffix_cons_iff.1 listed with last | before
    · obtain ⟨rfl, rfl⟩ := List.cons.inj last
      rw [leaves.timestamp reads reply answered, found.registers.timestamp]
    · exact found.timestamps other earlier before reads reply answered

section Sharing

variable {ι : Type} [DecidableEq ι]

/-- Uses of several handles, the latest first, in any order, while nobody else does anything but to
set clocks, with the handles and the storage that they leave.  Bytes are put into the payload
only. -/
inductive Sharing (layout : Layout) (start : Storage) (first : ι → Handle) :
    List (Deed ι) → (ι → Handle) → Storage → Prop where
  /-- Nothing has been done. -/
  | nothing : Sharing layout start first [] first start
  /-- A use succeeds. -/
  | returned {history : List (Deed ι)} {handles : ι → Handle} {who : ι} {use : Handle.Use}
      {rounds : Nat} {environment after : Environment} {reply : Handle.Reply} {next : Handle}
      (sharing : Sharing layout start first history handles environment.storage)
      (quiet : environment.clock.Undisturbed) (off : use.KeepsOff layout)
      (returns : (use.activity rounds (handles who)).run environment =
        .returned (reply, next) after) :
      Sharing layout start first (⟨who, use, .ok reply⟩ :: history)
        (fun other => if other = who then next else handles other) after.storage
  /-- A use fails. -/
  | failed {history : List (Deed ι)} {handles : ι → Handle} {who : ι} {use : Handle.Use}
      {rounds : Nat} {environment after : Environment} {failure : Failure}
      (sharing : Sharing layout start first history handles environment.storage)
      (quiet : environment.clock.Undisturbed) (off : use.KeepsOff layout)
      (fails : (use.activity rounds (handles who)).run environment = .failed failure after) :
      Sharing layout start first (⟨who, use, .error failure⟩ :: history) handles after.storage

namespace Sharing

variable {layout : Layout} {object : ObjectId} {origin : Nat} {start storage : Storage}
  {first handles : ι → Handle} {history : List (Deed ι)}

/-- Whatever is done, in whatever order. -/
theorem found (shares : ∀ who, (first who).Shares layout object origin)
    (made : object < start.objects.size)
    (sharing : Sharing layout start first history handles storage) :
    Found layout object origin start history handles storage := by
  induction sharing with
  | nothing =>
    exact ⟨shares, rfl, fun _ _ => rfl, .refl _ _ _,
      fun _ _ listed => absurd (List.suffix_nil.1 listed) nofun,
      fun _ _ listed => absurd (List.suffix_nil.1 listed) nofun⟩
  | @returned _ handles who use rounds environment _ reply next _ quiet off returns ih =>
    have ensures := (ih.shares who).ensures_activity who use rounds quiet (ih.made ▸ made)
    rw [returns] at ensures
    refine ih.leaves off (fun other => ?_) ensures.2
    split
    · exact ensures.1
    · exact ih.shares other
  | @failed _ handles who use rounds environment _ failure _ quiet off fails ih =>
    have ensures := (ih.shares who).ensures_activity who use rounds quiet (ih.made ▸ made)
    rw [fails] at ensures
    exact ih.leaves off ih.shares ensures

/-- The two fields are registers that all handles on the same bytes share, whatever the lengths of
their regions are, and they are independent of each other and of the payload.

Whenever a version is read with success, through any handle, it is the one that was published last,
through any handle, or the one that was there at first if none was published, and the same is so for
heartbeats.  Open handles show these values at the end.  Every byte that belongs to neither field is
the one that was put there last, or the one that was there at first.  Bytes that lie before the
region or in other objects are not touched, and no size changes. -/
theorem fields_are_registers (shares : ∀ who, (first who).Shares layout object origin)
    (made : object < start.objects.size)
    (sharing : Sharing layout start first history handles storage) :
    let initial := start.content object
    let content := storage.content object
    let version (deeds : List (Deed ι)) : Int32 :=
      latest Deed.published? deeds (initial.word Int32 (origin + layout.versionOffset))
    let timestamp (deeds : List (Deed ι)) : Milliseconds :=
      latest Deed.beaten? deeds (initial.word Milliseconds (origin + layout.timestampOffset))
    (∀ deed earlier, deed :: earlier <:+ history →
      (deed.use = .readVersion → ∀ reply, deed.result = .ok reply →
        reply = .version (version earlier)) ∧
      (deed.use = .readTimestamp → ∀ reply, deed.result = .ok reply →
        reply = .timestamp (timestamp earlier))) ∧
    (∀ who, (handles who).isClosed = false →
      (handles who).version storage = .ok (version history) ∧
      (handles who).timestamp storage = .ok (timestamp history)) ∧
    (∀ position, ¬ layout.IsControl position → content.byte (origin + position) =
      latest (Deed.put? position) history (initial.byte (origin + position))) ∧
    (∀ i, i < origin → content.byte i = initial.byte i) ∧ content.size = initial.size ∧
    ∀ other, other ≠ object → storage.content other = start.content other := by
  intro initial content version timestamp
  have found := found shares made sharing
  refine ⟨fun deed earlier listed => ⟨found.versions deed earlier listed,
    found.timestamps deed earlier listed⟩, fun who unshut => ?_, found.registers.payload,
    found.registers.before, found.registers.size, found.others⟩
  rcases (found.shares who).closed_or_fits with closed | ⟨fields, on, fit, rfl, rfl, rfl⟩
  · exact nomatch unshut.symm.trans ((found.shares who).marked.closed_of_view closed)
  · rw [Handle.version_eq on fit, Handle.timestamp_eq on fit]
    exact ⟨congrArg Except.ok found.registers.version,
      congrArg Except.ok found.registers.timestamp⟩

/-- Two handles on one file, one of which has more of it in view.  A version that is published
through the shorter one is read through the longer one, and the heartbeat is still there. -/
theorem fields_are_registers_owned :
    let layout := Handshake.ofOwned.layout
    let start := (Storage.owned.mapKeeping "/run/cnc" 24).2
    let first (long : Bool) : Handle :=
      ⟨layout, none, none, some ⟨.mapping 0 0 (if long then 24 else 16), .shared⟩, false⟩
    ∃ reply handles storage,
      Sharing layout start first
        [⟨true, .readVersion, .ok reply⟩, ⟨false, .publish (-7), .ok .done⟩] handles storage ∧
      reply = .version (-7) ∧ (handles true).timestamp storage = .ok 100 := by
  intro layout start first
  have fits (long : Bool) : layout.checkMappedLength (if long then 24 else 16) = .ok () :=
    Layout.checkMappedLength_eq_ok_iff.2 (by cases long <;> decide)
  have shares (long : Bool) : (first long).Shares layout 0 0 :=
    .of_file layout 0 (fits long) none none .shared
  have made : 0 < start.objects.size := by decide
  have quiet := Clock.undisturbed_ticking 120 1
  let fields (long : Bool) : ControlFields := .ofFile layout 0 (if long then 24 else 16)
  have fit (long : Bool) : (fields long).Fit :=
    (Layout.checkMappedLength_eq_check layout 0 _).symm.trans (fits long)
  let written := (fields false).region.put start layout.versionOffset (-7 : Int32)
  have publishes : (Handle.Use.activity 0 (first false) (.publish (-7))).run
      ⟨.ticking 120 1, start, []⟩ = .returned (.done, first false) ⟨.ticking 120 1, written, []⟩ := by
    simp only [Handle.Use.activity]
    rw [Activity.run_bind, Activity.run_change, Handle.signalReady_eq_ok rfl (fit false)]
    rfl
  let between (long : Bool) : Handle := if long = false then first false else first long
  have reads : (Handle.Use.activity 0 (between true) .readVersion).run
      ⟨.ticking 120 1, written, []⟩ =
        .returned (.version ((fields true).versionIn written), first true)
          ⟨.ticking 120 1, written, []⟩ := by
    simp only [Handle.Use.activity]
    rw [Activity.run_bind, Activity.run_look, Handle.version_eq rfl (fit true)]
    rfl
  have off : (Handle.Use.publish (-7)).KeepsOff layout := trivial
  have published : Sharing layout start first [⟨false, .publish (-7), .ok .done⟩] between written :=
    .returned .nothing quiet off publishes
  have off : Handle.Use.readVersion.KeepsOff layout := trivial
  have sharing : Sharing layout start first [⟨true, .readVersion, .ok _⟩,
      ⟨false, .publish (-7), .ok .done⟩] _ written := .returned published quiet off reads
  obtain ⟨read, shown, _⟩ := fields_are_registers shares made sharing
  refine ⟨_, _, _, sharing, (read _ _ (List.suffix_refl _)).1 rfl _ rfl, ?_⟩
  exact (shown true rfl).2.trans (congrArg Except.ok (by decide))

end Sharing

end Sharing

end Heartbeat
