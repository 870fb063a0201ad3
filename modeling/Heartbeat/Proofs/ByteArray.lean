import Heartbeat.Proofs.Overflow
import Heartbeat.Proofs.Registers

/-!
# A region is a plain array of bytes

Words of two widths and runs of bytes are loaded from a region and stored into it, at any offsets,
so that they may overlap in every way.  To whoever makes these calls, a region is an array of bytes
at an address and nothing more: any number of calls gives the answers that the same calls give on
the array, faults included, and leaves the bytes that they leave in the array
(`Region.refines_byte_array`).

What a call asks for is known before it is made: where it begins, how many bytes it takes and at
what addresses it may be made.  All that a region decides is decided on these three numbers, and
only then is a byte loaded or stored (`Region.Call.perform_eq`).
-/

set_option autoImplicit false

namespace Heartbeat

/-! ## Numbers as bytes -/

namespace LittleEndian

/-- The lowest bytes of a number in two's complement, the least significant byte first. -/
def twosComplement (width : Nat) (number : Int) : List UInt8 :=
  (List.range width).map fun i => UInt8.ofInt (number / Int.pow 256 i)

@[simp] theorem length_twosComplement (width : Nat) (number : Int) :
    (twosComplement width number).length = width := by
  simp [twosComplement]

theorem twosComplement_succ (width : Nat) (number : Int) :
    twosComplement (width + 1) number =
      UInt8.ofInt number :: twosComplement width (number / 256) := by
  have whole : number / Int.pow 256 0 = number := Int.ediv_one number
  unfold twosComplement
  rw [List.range_succ_eq_map, List.map_cons, List.map_map, whole]
  congr 1
  refine List.map_congr_left fun i _ => congrArg UInt8.ofInt ?_
  rw [Int.ediv_ediv_of_nonneg (by decide), Int.mul_comm]
  rfl

/-- Numbers that differ by a multiple of what the bytes can count have the same bytes. -/
theorem twosComplement_add_mul (width : Nat) (number turns : Int) :
    twosComplement width (number + Int.pow 256 width * turns) = twosComplement width number := by
  induction width generalizing number with
  | zero => rfl
  | succ width ih =>
    have split : Int.pow 256 (width + 1) * turns = 256 * (Int.pow 256 width * turns) := by
      change Int.pow 256 width * 256 * turns = _
      rw [Int.mul_comm (Int.pow 256 width), Int.mul_assoc]
    have digit : UInt8.ofInt (number + 256 * (Int.pow 256 width * turns)) = UInt8.ofInt number := by
      unfold UInt8.ofInt
      rw [show (2 ^ 8 : Int) = 256 from rfl, Int.add_mul_emod_self_left]
    rw [twosComplement_succ, twosComplement_succ, split, digit,
      Int.add_mul_ediv_left _ _ (by decide), ih]

theorem encode_eq_twosComplement (width number : Nat) :
    encode width number = twosComplement width number := by
  induction width generalizing number with
  | zero => rfl
  | succ width ih =>
    rw [encode, twosComplement_succ, ih]
    rfl

/-- To encode the bits of a word is to encode its signed value in two's complement. -/
theorem encode_toNat (width : Nat) (word : BitVec (8 * width)) :
    encode width word.toNat = twosComplement width word.toInt := by
  have whole : ((2 ^ (8 * width) : Nat) : Int) = Int.pow 256 width := by
    rw [Nat.pow_mul, Int.natCast_pow]
    rfl
  rw [encode_eq_twosComplement, BitVec.toInt_eq_toNat_cond]
  split
  · rfl
  · rw [whole, Int.sub_eq_add_neg, ← Int.mul_neg_one, twosComplement_add_mul]

theorem toBytes_int32 (value : Int32) :
    StoredWord.toBytes value = twosComplement 4 value.toInt :=
  encode_toNat 4 value.toBitVec

theorem toBytes_int64 (value : Int64) :
    StoredWord.toBytes value = twosComplement 8 value.toInt :=
  encode_toNat 8 value.toBitVec

theorem ofBytes_int32 (bytes : List UInt8) :
    (StoredWord.ofBytes bytes : Int32) = Int32.ofInt (decode bytes) := by
  rw [Int32.ofInt_eq_ofNat, ← UInt32.toInt32_ofNat']
  rfl

theorem ofBytes_int64 (bytes : List UInt8) :
    (StoredWord.ofBytes bytes : Int64) = Int64.ofInt (decode bytes) := by
  rw [Int64.ofInt_eq_ofNat, ← UInt64.toInt64_ofNat']
  rfl

end LittleEndian

/-- Answers can be compared. -/
instance decidableEqExcept {ε α : Type} [DecidableEq ε] [DecidableEq α] : DecidableEq (Except ε α)
  | .ok first, .ok second => decidable_of_iff (first = second) ⟨congrArg _, Except.ok.inj⟩
  | .error first, .error second => decidable_of_iff (first = second) ⟨congrArg _, Except.error.inj⟩
  | .ok _, .error _ => isFalse (by simp)
  | .error _, .ok _ => isFalse (by simp)

namespace Patch

/-- An array of bytes with a patch in it. -/
def spliced (array : List UInt8) : Option Patch → List UInt8
  | none => array
  | some patch =>
    array.take patch.offset ++ patch.bytes ++ array.drop (patch.offset + patch.bytes.length)

variable {array : List UInt8} {patch : Patch}

theorem length_spliced (within : patch.offset + patch.bytes.length ≤ array.length) :
    (spliced array (some patch)).length = array.length := by
  simp only [spliced, List.length_append, List.length_take, List.length_drop]
  omega

/-- A patch sets its bytes in an array and no others. -/
theorem getElem?_spliced (within : patch.offset + patch.bytes.length ≤ array.length) {i : Nat}
    (here : i < array.length) :
    (spliced array (some patch))[i]? = some ((patch.byte? i).getD array[i]) := by
  have before : (array.take patch.offset).length = patch.offset := by
    rw [List.length_take]
    omega
  rw [spliced, List.append_assoc]
  by_cases start : patch.offset ≤ i
  · rw [List.getElem?_append_right (before.symm ▸ start), before]
    by_cases inside : i < patch.offset + patch.bytes.length
    · have stored : i - patch.offset < patch.bytes.length := by omega
      rw [List.getElem?_append_left stored, byte?_of_inside start inside, Option.getD_some,
        List.getD_eq_getElem?_getD, List.getElem?_eq_getElem stored, Option.getD_some]
    · have place : patch.offset + patch.bytes.length +
          (i - patch.offset - patch.bytes.length) = i := by omega
      rw [List.getElem?_append_right (by omega), List.getElem?_drop, place,
        byte?_of_outside (fun both => inside both.2), Option.getD_none,
        List.getElem?_eq_getElem here]
  · have early := Nat.not_le.1 start
    rw [List.getElem?_append_left (before.symm ▸ early), List.getElem?_take_of_lt early,
      byte?_of_outside (fun both => start both.1), Option.getD_none,
      List.getElem?_eq_getElem here]

end Patch

/-- What is read within a window is some of what the window shows. -/
theorem Content.read_add (content : Content) (start : Nat) {offset length capacity : Nat}
    (within : offset + length ≤ capacity) :
    content.read (start + offset) length =
      ((content.read start capacity).drop offset).take length := by
  apply List.ext_getElem
  · simp only [length_read, List.length_take, List.length_drop]
    omega
  · intro i _ _
    simp only [read, List.getElem_map, List.getElem_range, List.getElem_take, List.getElem_drop,
      Nat.add_assoc]

namespace Region

/-! ## Calls -/

/-- Whether an access also orders the accesses around it, as other processors see them. -/
inductive Strength where
  /-- It does not. -/
  | plain
  /-- A load before all that follows it, a store after all that precedes it. -/
  | ordered
  deriving DecidableEq, Repr

/-- An access to a region. -/
inductive Call where
  /-- Loads a 32-bit word. -/
  | getInt32 (strength : Strength) (offset : Nat)
  /-- Loads a 64-bit word. -/
  | getInt64 (strength : Strength) (offset : Nat)
  /-- Loads bytes. -/
  | getBytes (offset length : Nat)
  /-- Stores a 32-bit word. -/
  | putInt32 (strength : Strength) (offset : Nat) (value : Int32)
  /-- Stores a 64-bit word. -/
  | putInt64 (strength : Strength) (offset : Nat) (value : Int64)
  /-- Stores bytes. -/
  | putBytes (offset : Nat) (bytes : List UInt8)
  deriving DecidableEq, Repr

/-- What a call answers. -/
inductive Reply where
  /-- It was done. -/
  | done
  /-- A 32-bit word. -/
  | int32 (value : Int32)
  /-- A 64-bit word. -/
  | int64 (value : Int64)
  /-- Bytes. -/
  | bytes (bytes : List UInt8)
  deriving DecidableEq, Repr

namespace Call

/-- Makes a call. -/
def perform (region : Region) (storage : Storage) : Call → Except Fault (Reply × Storage)
  | getInt32 _ offset => (region.load storage offset).map fun value => (.int32 value, storage)
  | getInt64 _ offset => (region.load storage offset).map fun value => (.int64 value, storage)
  | getBytes offset length =>
    (region.loadBytes storage offset length).map fun bytes => (.bytes bytes, storage)
  | putInt32 _ offset value => (region.store storage offset value).map fun after => (.done, after)
  | putInt64 _ offset value => (region.store storage offset value).map fun after => (.done, after)
  | putBytes offset bytes =>
    (region.storeBytes storage offset bytes).map fun after => (.done, after)

/-- The same call with another strength, if it is one that has a strength. -/
def withStrength (strength : Strength) : Call → Call
  | getInt32 _ offset => getInt32 strength offset
  | getInt64 _ offset => getInt64 strength offset
  | putInt32 _ offset value => putInt32 strength offset value
  | putInt64 _ offset value => putInt64 strength offset value
  | call => call

/-! ### What a call asks for -/

/-- Where a call begins. -/
def offset : Call → Nat
  | getInt32 _ offset | getInt64 _ offset | getBytes offset _ | putInt32 _ offset _
  | putInt64 _ offset _ | putBytes offset _ => offset

/-- How many bytes a call takes. -/
def size : Call → Nat
  | getInt32 .. | putInt32 .. => 4
  | getInt64 .. | putInt64 .. => 8
  | getBytes _ length => length
  | putBytes _ bytes => bytes.length

/-- What the address of a call has to be a multiple of. -/
def align : Call → Nat
  | getInt32 .. | putInt32 .. => 4
  | getInt64 .. | putInt64 .. => 8
  | getBytes .. | putBytes .. => 1

/-- What a call stores, if it stores anything. -/
def patch? : Call → Option Patch
  | putInt32 _ offset value => some ⟨offset, LittleEndian.twosComplement 4 value.toInt⟩
  | putInt64 _ offset value => some ⟨offset, LittleEndian.twosComplement 8 value.toInt⟩
  | putBytes offset bytes => some ⟨offset, bytes⟩
  | _ => none

/-- What a call makes of the bytes that it takes. -/
def shown (bytes : List UInt8) : Call → Reply
  | getInt32 .. => .int32 (Int32.ofInt (LittleEndian.decode bytes))
  | getInt64 .. => .int64 (Int64.ofInt (LittleEndian.decode bytes))
  | getBytes .. => .bytes bytes
  | _ => .done

/-- The call that loads what a call stores, with what it is to answer. -/
def readBack (strength : Strength) : Call → Option (Call × Reply)
  | putInt32 _ offset value => some (getInt32 strength offset, .int32 value)
  | putInt64 _ offset value => some (getInt64 strength offset, .int64 value)
  | putBytes offset bytes => some (getBytes offset bytes.length, .bytes bytes)
  | _ => none

/-! ### A series of calls -/

/-- The answer to a call, and the state after it.  A call that faults leaves the state as it was. -/
def outcome {σ : Type} (state : σ) : Except Fault (Reply × σ) → Except Fault Reply × σ
  | .error fault => (.error fault, state)
  | .ok (reply, next) => (.ok reply, next)

/-- The answers to calls that are made one after the other, and the last state. -/
def series {σ : Type} (make : σ → Call → Except Fault (Reply × σ)) :
    σ → List Call → List (Except Fault Reply) × σ
  | state, [] => ([], state)
  | state, call :: rest =>
    let (answer, next) := outcome state (make state call)
    let (answers, last) := series make next rest
    (answer :: answers, last)

/-- What a call comes to on a plain array of bytes at an address. -/
def onArray (address : Nat) (array : List UInt8) (call : Call) :
    Except Fault (Reply × List UInt8) :=
  if array.length < call.offset + call.size then
    .error (.outOfBounds call.size call.offset array.length)
  else if call.align ∣ address + call.offset then
    .ok (call.shown ((array.drop call.offset).take call.size), Patch.spliced array call.patch?)
  else .error (.unaligned call.offset call.align)

end Call

/-! ## What is in view of a region -/

/-- The bytes in view of a region. -/
def bytes (region : Region) (storage : Storage) : List UInt8 :=
  (storage.content region.object).read region.start region.capacity

@[simp] theorem length_bytes (region : Region) (storage : Storage) :
    (region.bytes storage).length = region.capacity :=
  Content.length_read ..

@[simp] theorem getElem_bytes (region : Region) (storage : Storage) {i : Nat}
    (here : i < (region.bytes storage).length) :
    (region.bytes storage)[i] = (storage.content region.object).byte (region.start + i) := by
  simp only [bytes, Content.read, List.getElem_map, List.getElem_range]

/-- Nothing has changed but bytes in view of a region. -/
structure KeepsOutside (region : Region) (before after : Storage) : Prop where
  /-- All files and directories have their names. -/
  tree : after.tree = before.tree
  /-- Relative paths start where they did. -/
  workingDirectory : after.workingDirectory = before.workingDirectory
  /-- All memories have their names. -/
  memories : after.memories = before.memories
  /-- Nothing was made. -/
  made : after.objects.size = before.objects.size
  /-- The bytes of other objects are the same. -/
  others : ∀ other, other ≠ region.object → after.content other = before.content other
  /-- The object has the same size. -/
  size : (after.content region.object).size = (before.content region.object).size
  /-- The bytes of the object that are not in view are the same. -/
  outside : ∀ i, ¬ (region.start ≤ i ∧ i < region.start + region.capacity) →
    (after.content region.object).byte i = (before.content region.object).byte i

theorem KeepsOutside.refl (region : Region) (storage : Storage) :
    region.KeepsOutside storage storage :=
  ⟨rfl, rfl, rfl, rfl, fun _ _ => rfl, rfl, fun _ _ => rfl⟩

variable {region : Region} {storage before between after : Storage}

theorem KeepsOutside.trans (first : region.KeepsOutside before between)
    (second : region.KeepsOutside between after) : region.KeepsOutside before after where
  tree := second.tree.trans first.tree
  workingDirectory := second.workingDirectory.trans first.workingDirectory
  memories := second.memories.trans first.memories
  made := second.made.trans first.made
  others other apart := (second.others other apart).trans (first.others other apart)
  size := second.size.trans first.size
  outside i unseen := (second.outside i unseen).trans (first.outside i unseen)

/-- A patch within a region changes nothing outside it. -/
theorem keepsOutside_patched (made : region.object < storage.objects.size) {patch : Option Patch}
    (within : ∀ stored, patch = some stored →
      stored.offset + stored.bytes.length ≤ region.capacity) :
    region.KeepsOutside storage (region.patched storage patch) := by
  cases patch with
  | none => exact .refl _ _
  | some stored =>
    obtain ⟨sameSize, others, content⟩ := content_patched made (some stored)
    have fits := within stored rfl
    refine ⟨rfl, rfl, rfl, sameSize, others, ?_, fun i unseen => ?_⟩
    · rw [content]
      rfl
    · rw [content, Content.patched, Content.byte_write, if_neg (by omega)]

/-- The bytes in view once a patch is stored among them. -/
theorem bytes_patched (made : region.object < storage.objects.size) {patch : Option Patch}
    (within : ∀ stored, patch = some stored →
      stored.offset + stored.bytes.length ≤ region.capacity) :
    region.bytes (region.patched storage patch) = Patch.spliced (region.bytes storage) patch := by
  cases patch with
  | none => rfl
  | some stored =>
    have fits := within stored rfl
    have content := (content_patched made (some stored)).2.2
    have room : stored.offset + stored.bytes.length ≤ (region.bytes storage).length :=
      (length_bytes region storage).symm ▸ fits
    apply List.ext_getElem
    · rw [Patch.length_spliced room, length_bytes, length_bytes]
    · intro i here there
      have old : i < (region.bytes storage).length := Patch.length_spliced room ▸ there
      have spliced := Patch.getElem?_spliced room old
      rw [List.getElem?_eq_getElem there] at spliced
      rw [getElem_bytes, content, Content.byte_patched, Option.bind_some, Option.some.inj spliced,
        getElem_bytes]

/-! ## What a region decides -/

/-- An address is aligned if it is a multiple as a number without a bound, since the alignment
divides the number of addresses. -/
theorem alignedAt_iff_dvd {align : Nat} (divides : align ∣ addressSpace) {offset : Nat} :
    region.alignedAt offset align = true ↔ align ∣ region.address + offset := by
  rw [alignedAt, decide_eq_true_eq, Nat.mod_mod_of_dvd _ divides, Nat.dvd_iff_mod_eq_zero]

/-- What a region decides on an access, with the bounds first. -/
theorem checkAccess_eq {align : Nat} (divides : align ∣ addressSpace) (offset length : Nat) :
    region.checkAccess offset length align =
      if region.capacity < offset + length then
        .error (.outOfBounds length offset region.capacity)
      else if align ∣ region.address + offset then .ok ()
      else .error (.unaligned offset align) := by
  have aligned : region.alignedAt offset align = true ↔ align ∣ region.address + offset :=
    alignedAt_iff_dvd divides
  unfold checkAccess
  split
  · rfl
  · by_cases multiple : align ∣ region.address + offset
    · rw [aligned.2 multiple, if_pos multiple]
      rfl
    · rw [Bool.eq_false_iff.2 (mt aligned.1 multiple), if_neg multiple]
      rfl

/-- Bytes are loaded wherever they are in view. -/
theorem loadBytes_eq (region : Region) (storage : Storage) (offset length : Nat) :
    region.loadBytes storage offset length =
      if region.capacity < offset + length then
        .error (.outOfBounds length offset region.capacity)
      else .ok (((region.bytes storage).drop offset).take length) := by
  rw [loadBytes, checkAccess_eq (Nat.one_dvd _), if_pos (Nat.one_dvd _)]
  by_cases short : region.capacity < offset + length
  · rw [if_pos short, if_pos short]
  · rw [if_neg short, if_neg short, Content.read_add _ _ (Nat.not_lt.1 short)]
    rfl

/-- A byte in view is loaded as what it is. -/
theorem loadBytes_one {i : Nat} {byte : UInt8} (here : (region.bytes storage)[i]? = some byte) :
    region.loadBytes storage i 1 = .ok [byte] := by
  obtain ⟨within, shown⟩ := List.getElem?_eq_some_iff.1 here
  rw [length_bytes] at within
  rw [loadBytes_eq, if_neg (Nat.not_lt.2 within), List.take_one, List.head?_drop, here]
  rfl

namespace Call

theorem align_dvd (call : Call) : call.align ∣ addressSpace := by
  cases call with
  | getInt32 | putInt32 => exact (by decide : 4 ∣ addressSpace)
  | getInt64 | putInt64 => exact (by decide : 8 ∣ addressSpace)
  | getBytes | putBytes => exact Nat.one_dvd _

/-- What a call stores begins where the call does and takes the bytes of the call. -/
theorem patch?_eq_some {call : Call} {patch : Patch} (stores : call.patch? = some patch) :
    patch.offset = call.offset ∧ patch.bytes.length = call.size := by
  cases call with
  | getInt32 | getInt64 | getBytes => cases stores
  | putInt32 | putInt64 =>
    cases stores
    exact ⟨rfl, LittleEndian.length_twosComplement ..⟩
  | putBytes =>
    cases stores
    exact ⟨rfl, rfl⟩

theorem patch?_within {call : Call} (within : call.offset + call.size ≤ region.capacity)
    (patch : Patch) (stores : call.patch? = some patch) :
    patch.offset + patch.bytes.length ≤ region.capacity := by
  obtain ⟨begins, ends⟩ := patch?_eq_some stores
  omega

/-- A call is decided on what it asks for.  If it is let through, it shows what the bytes are that
it takes, and stores what it has to store. -/
theorem perform_eq (region : Region) (storage : Storage) (call : Call) :
    call.perform region storage =
      (region.checkAccess call.offset call.size call.align).map fun _ =>
        (call.shown ((storage.content region.object).read (region.start + call.offset) call.size),
          region.patched storage call.patch?) := by
  have loads (α : Type) [StoredWord α] (offset : Nat) (reply : α → Reply) :
      (region.load storage offset).map (fun value => (reply value, storage)) =
        (region.checkAccess offset (StoredWord.width α) (StoredWord.width α)).map fun _ =>
          (reply (StoredWord.ofBytes ((storage.content region.object).read (region.start + offset)
            (StoredWord.width α))), storage) := by
    unfold load
    cases region.checkAccess offset (StoredWord.width α) (StoredWord.width α) <;> rfl
  have stores (α : Type) [StoredWord α] (offset : Nat) (value : α) :
      (region.store storage offset value).map (fun after => (Reply.done, after)) =
        (region.checkAccess offset (StoredWord.width α) (StoredWord.width α)).map fun _ =>
          (.done, region.patched storage (some ⟨offset, StoredWord.toBytes value⟩)) := by
    unfold store
    cases region.checkAccess offset (StoredWord.width α) (StoredWord.width α) <;> rfl
  cases call with
  | getInt32 _ offset =>
    simp only [perform, loads, LittleEndian.ofBytes_int32]
    rfl
  | getInt64 _ offset =>
    simp only [perform, loads, LittleEndian.ofBytes_int64]
    rfl
  | putInt32 _ offset value =>
    simp only [perform, stores, LittleEndian.toBytes_int32]
    rfl
  | putInt64 _ offset value =>
    simp only [perform, stores, LittleEndian.toBytes_int64]
    rfl
  | getBytes offset length =>
    simp only [perform, loadBytes, Call.offset, Call.size, Call.align, shown, patch?, patched]
    cases region.checkAccess offset length 1 <;> rfl
  | putBytes offset bytes =>
    simp only [perform, storeBytes, Call.offset, Call.size, Call.align, shown, patch?, patched]
    cases region.checkAccess offset bytes.length 1 <;> rfl

/-- How a call faults: with the bounds if it ends past the region, and otherwise with the alignment
if it has a wrong address. -/
theorem perform_eq_error_iff {call : Call} {fault : Fault} :
    call.perform region storage = .error fault ↔
      region.capacity < call.offset + call.size ∧
          fault = .outOfBounds call.size call.offset region.capacity ∨
        call.offset + call.size ≤ region.capacity ∧
          ¬ call.align ∣ region.address + call.offset ∧
          fault = .unaligned call.offset call.align := by
  rw [perform_eq, checkAccess_eq call.align_dvd]
  split
  · next short => simp [Except.map, short, Nat.not_le.2 short, eq_comm]
  · next long =>
    split
    · next aligned => simp [Except.map, long, aligned]
    · next unaligned => simp [Except.map, long, unaligned, Nat.not_lt.1 long, eq_comm]

/-- When a call does not fault. -/
theorem performs_iff {call : Call} :
    (∃ answer, call.perform region storage = .ok answer) ↔
      call.offset + call.size ≤ region.capacity ∧ call.align ∣ region.address + call.offset := by
  rw [perform_eq, checkAccess_eq call.align_dvd]
  split
  · next short => simp [Except.map, Nat.not_le.2 short]
  · next long =>
    split
    · next aligned => simp [Except.map, aligned, Nat.not_lt.1 long]
    · next unaligned => simp [Except.map, unaligned]

/-- What a call comes to that does not fault. -/
theorem perform_eq_ok {call : Call} {reply : Reply} {next : Storage}
    (performs : call.perform region storage = .ok (reply, next)) :
    call.offset + call.size ≤ region.capacity ∧ call.align ∣ region.address + call.offset ∧
      reply = call.shown (((region.bytes storage).drop call.offset).take call.size) ∧
      next = region.patched storage call.patch? := by
  rw [perform_eq, checkAccess_eq call.align_dvd] at performs
  split at performs
  · cases performs
  · next long =>
    have within := Nat.not_lt.1 long
    split at performs
    · next aligned =>
      cases performs
      rw [Content.read_add _ _ within]
      exact ⟨within, aligned, rfl, rfl⟩
    · cases performs

/-- On a region and on the array of its bytes a call comes to the same. -/
theorem onArray_bytes (made : region.object < storage.objects.size) (call : Call) :
    call.onArray region.address (region.bytes storage) =
      (call.perform region storage).map (Prod.map id region.bytes) := by
  rw [perform_eq, checkAccess_eq call.align_dvd, onArray, length_bytes]
  split
  · rfl
  · next long =>
    have within := Nat.not_lt.1 long
    split
    · simp only [Except.map, Prod.map, id, bytes_patched made (patch?_within within),
        Content.read_add _ _ within]
      rfl
    · rfl

/-- A call changes nothing outside the region. -/
theorem keepsOutside_perform {call : Call} {reply : Reply} {next : Storage}
    (made : region.object < storage.objects.size)
    (performs : call.perform region storage = .ok (reply, next)) :
    region.KeepsOutside storage next := by
  obtain ⟨within, -, -, rfl⟩ := perform_eq_ok performs
  exact keepsOutside_patched made (patch?_within within)

/-- How a call does not order other accesses makes no difference. -/
theorem perform_withStrength (strength : Strength) (call : Call) (region : Region)
    (storage : Storage) :
    (call.withStrength strength).perform region storage = call.perform region storage := by
  cases call <;> rfl

/-- What was stored is loaded again by a call of the same kind at the same place. -/
theorem perform_readBack {call get : Call} {reply value : Reply} {next : Storage}
    (made : region.object < storage.objects.size)
    (performs : call.perform region storage = .ok (reply, next)) {strength : Strength}
    (back : call.readBack strength = some (get, value)) :
    get.perform region next = .ok (value, next) := by
  have same : get.offset = call.offset ∧ get.size = call.size ∧ get.align = call.align ∧
      get.patch? = none ∧ ∃ patch, call.patch? = some patch ∧ get.shown patch.bytes = value := by
    cases call with
    | getInt32 | getInt64 | getBytes => cases back
    | putInt32 _ _ stored =>
      cases back
      refine ⟨rfl, rfl, rfl, rfl, _, rfl, congrArg Reply.int32 ?_⟩
      rw [← LittleEndian.ofBytes_int32, ← LittleEndian.toBytes_int32, StoredWord.ofBytes_toBytes]
    | putInt64 _ _ stored =>
      cases back
      refine ⟨rfl, rfl, rfl, rfl, _, rfl, congrArg Reply.int64 ?_⟩
      rw [← LittleEndian.ofBytes_int64, ← LittleEndian.toBytes_int64, StoredWord.ofBytes_toBytes]
    | putBytes =>
      cases back
      exact ⟨rfl, rfl, rfl, rfl, _, rfl, rfl⟩
  obtain ⟨begins, ends, aligns, loads, patch, stores, shows⟩ := same
  obtain ⟨within, aligned, -, rfl⟩ := perform_eq_ok performs
  obtain ⟨patchBegins, patchEnds⟩ := patch?_eq_some stores
  have content := (content_patched made call.patch?).2.2
  rw [perform_eq, begins, ends, aligns, checkAccess_eq call.align_dvd,
    if_neg (Nat.not_lt.2 within), if_pos aligned, content, loads, stores]
  simp only [Except.map, Content.patched, patchBegins, ← patchEnds, Content.read_write, shows]
  rfl

/-! ## Any number of calls -/

/-- Two ways to make a call that agree on every state agree on every series of calls. -/
theorem series_eq {σ τ : Type} (make : σ → Call → Except Fault (Reply × σ))
    (remake : τ → Call → Except Fault (Reply × τ)) (view : σ → τ) (sound : σ → Prop)
    (agrees : ∀ {state}, sound state → ∀ call,
      remake (view state) call = (make state call).map (Prod.map id view))
    (keeps : ∀ {state call reply next}, sound state → make state call = .ok (reply, next) →
      sound next) {state : σ} (start : sound state) (calls : List Call) :
    series remake (view state) calls = Prod.map id view (series make state calls) ∧
      sound (series make state calls).2 := by
  induction calls generalizing state with
  | nil => exact ⟨rfl, start⟩
  | cons call rest ih =>
    simp only [series, agrees start call]
    cases made : make state call with
    | error fault =>
      obtain ⟨same, sound⟩ := ih start
      exact ⟨by simp only [Except.map, outcome, same, Prod.map, id], sound⟩
    | ok result =>
      obtain ⟨reply, next⟩ := result
      obtain ⟨same, sound⟩ := ih (keeps start made)
      exact ⟨by simp only [Except.map, outcome, same, Prod.map, id], sound⟩

end Call

/-- A region is a plain array of bytes.

Any number of calls, with any offsets, comes to what it comes to on the array of the bytes in view:
the same answers and faults in the same order, and the same bytes in the end.  Nothing else changes.

After them, one more call faults exactly if it ends past the region, which is tested first, or if
its address is not a multiple of what it asks for, both as numbers without a bound, and the guard of
the sum makes no difference.  A call that does not fault answers with what the bytes are that it
takes and stores its own bytes there, and a call that loads what it has stored answers with just
that.  Its strength makes no difference. -/
theorem refines_byte_array (made : region.object < storage.objects.size) (calls : List Call) :
    let ran := Call.series (Call.perform region) storage calls
    let after := ran.2
    let array := region.bytes after
    Call.series (Call.onArray region.address) (region.bytes storage) calls = (ran.1, array) ∧
    region.KeepsOutside storage after ∧
    ∀ call : Call,
      (∀ fault, call.perform region after = .error fault ↔
        region.capacity < call.offset + call.size ∧
            fault = .outOfBounds call.size call.offset region.capacity ∨
          call.offset + call.size ≤ region.capacity ∧
            ¬ call.align ∣ region.address + call.offset ∧
            fault = .unaligned call.offset call.align) ∧
      (region.capacity < addressSpace →
        ((∃ sum, checkedSum call.offset call.size = .ok sum ∧ sum ≤ region.capacity) ↔
          call.offset + call.size ≤ region.capacity)) ∧
      (∀ reply next, call.perform region after = .ok (reply, next) →
        reply = call.shown ((array.drop call.offset).take call.size) ∧
        region.bytes next = Patch.spliced array call.patch? ∧
        region.KeepsOutside after next ∧
        ∀ strength get value, call.readBack strength = some (get, value) →
          get.perform region next = .ok (value, next)) ∧
      ∀ strength, (call.withStrength strength).perform region after =
        call.perform region after := by
  intro ran after array
  obtain ⟨same, keeps⟩ := Call.series_eq (Call.perform region) (Call.onArray region.address)
    region.bytes (region.KeepsOutside storage)
    (fun kept call => Call.onArray_bytes (kept.made.symm ▸ made) call)
    (fun kept performs => kept.trans (Call.keepsOutside_perform (kept.made.symm ▸ made) performs))
    (.refl region storage) calls
  have still : region.object < after.objects.size := keeps.made.symm ▸ made
  refine ⟨same, keeps, fun call => ⟨fun fault => Call.perform_eq_error_iff, checkedSum_le_iff,
    fun reply next performs => ?_, fun strength => Call.perform_withStrength strength call _ _⟩⟩
  obtain ⟨within, -, answers, left⟩ := Call.perform_eq_ok performs
  refine ⟨answers, ?_, Call.keepsOutside_perform still performs,
    fun strength get value => Call.perform_readBack still performs⟩
  rw [left, bytes_patched still (Call.patch?_within within)]

/-- Sixteen bytes of which only every other multiple of four is aligned for 64-bit words.  A word,
bytes over its end and a word over both of them, and then calls that are refused, and bytes of which
there are none. -/
theorem refines_byte_array_overlapping :
    let region : Region := ⟨0, 0, 16, mappingAddress + 4⟩
    let storage := Storage.empty.addMemory "words" 16 (mappingAddress + 4)
    let calls : List Call := [.putInt64 .ordered 4 (-2), .putBytes 10 [1, 2],
      .getInt32 .plain 8, .putInt64 .plain 0 7, .getInt32 .ordered 18446744073709551612,
      .getBytes 16 0, .getBytes 17 0]
    (Call.series (Call.perform region) storage calls).1 =
      [.ok .done, .ok .done, .ok (.int32 33685503), .error (.unaligned 0 8),
        .error (.outOfBounds 4 18446744073709551612 16), .ok (.bytes []),
        .error (.outOfBounds 0 17 16)] := by
  intro region storage calls
  have made : region.object < storage.objects.size := by decide
  exact (congrArg Prod.fst (refines_byte_array made calls).1).symm.trans (by decide +kernel)

end Region

end Heartbeat
