/-!
# The bytes of a file

A file, or a piece of memory, has a size and bytes, and a byte that nobody stored is zero.  What
was stored is kept as patches, the latest first, so a large file costs only what was written to it.

Everything is read through one view, `Content.byte`.  `byte_write` says that a write sets its own
bytes and no others, and `byte_resize` that a change of size keeps the bytes below the old and the
new size and clears the rest, so growing a file shows zeros.
-/

set_option autoImplicit false

namespace Heartbeat

/-- Consecutive bytes stored at an offset. -/
structure Patch where
  /-- Where the first byte lies. -/
  offset : Nat
  /-- The bytes, in the order of their offsets. -/
  bytes : List UInt8
  deriving DecidableEq, Repr

namespace Patch

/-- The byte that a patch stores at an offset, if it stores one there. -/
def byte? (patch : Patch) (offset : Nat) : Option UInt8 :=
  if patch.offset ≤ offset then patch.bytes[offset - patch.offset]? else none

/-- Whether a patch lies within `length` bytes from `offset`. -/
def liesWithin (patch : Patch) (offset length : Nat) : Bool :=
  offset ≤ patch.offset && patch.offset + patch.bytes.length ≤ offset + length

/-- The part of a patch below an offset. -/
def upTo (patch : Patch) (limit : Nat) : Patch :=
  { patch with bytes := patch.bytes.take (limit - patch.offset) }

theorem byte?_eq_none_of_liesWithin {patch : Patch} {offset length i : Nat}
    (within : patch.liesWithin offset length = true)
    (outside : ¬ (offset ≤ i ∧ i < offset + length)) :
    patch.byte? i = none := by
  simp only [liesWithin, Bool.and_eq_true, decide_eq_true_eq] at within
  unfold byte?
  split
  · apply List.getElem?_eq_none
    omega
  · rfl

theorem byte?_upTo (patch : Patch) (limit i : Nat) :
    (patch.upTo limit).byte? i = if i < limit then patch.byte? i else none := by
  unfold upTo byte?
  by_cases started : patch.offset ≤ i
  · have same : i - patch.offset < limit - patch.offset ↔ i < limit := by omega
    simp only [started, if_true, List.getElem?_take, same]
  · simp [started]

end Patch

/-- A size and the bytes stored so far. -/
structure Content where
  /-- The size in bytes. -/
  size : Nat
  /-- What was stored, the latest first. -/
  patches : List Patch
  deriving DecidableEq, Repr

namespace Content

/-- Zero bytes, as many as asked for. -/
def zeros (size : Nat) : Content := ⟨size, []⟩

/-- The byte at an offset: the one stored there last, or zero. -/
def byte (content : Content) (offset : Nat) : UInt8 :=
  (content.patches.findSome? (·.byte? offset)).getD 0

/-- The bytes from an offset on. -/
def read (content : Content) (offset length : Nat) : List UInt8 :=
  (List.range length).map fun i => content.byte (offset + i)

/-- Stores bytes at an offset.  Older patches that they hide are dropped. -/
def write (content : Content) (offset : Nat) (bytes : List UInt8) : Content :=
  { content with
    patches := ⟨offset, bytes⟩ ::
      content.patches.filter fun patch => !patch.liesWithin offset bytes.length }

/-- Sets the size.  Bytes past the smaller of the old and the new size become zero. -/
def resize (content : Content) (size : Nat) : Content :=
  { size, patches := content.patches.map (·.upTo (min content.size size)) }

/-- Stores bytes at an offset as a file does: the size grows if they end past it. -/
def overwrite (content : Content) (offset : Nat) (bytes : List UInt8) : Content :=
  if bytes.isEmpty then content
  else
    let grown := content.resize (max content.size (offset + bytes.length))
    grown.write offset bytes

/-- The offsets below the size that hold something other than zero, in order. -/
def storedOffsets (content : Content) : List Nat :=
  let touched := content.patches.flatMap fun patch =>
    (List.range patch.bytes.length).map (patch.offset + ·)
  let sorted := (touched.mergeSort (· ≤ ·)).eraseReps
  sorted.filter fun i => i < content.size && content.byte i != 0

/-- The longest runs of bytes other than zero, in the order of their offsets. -/
def runs (content : Content) : List Patch :=
  content.storedOffsets.foldr
    (fun i later =>
      match later with
      | [] => [⟨i, [content.byte i]⟩]
      | next :: rest =>
        if next.offset = i + 1 then ⟨i, content.byte i :: next.bytes⟩ :: rest
        else ⟨i, [content.byte i]⟩ :: next :: rest)
    []

@[simp] theorem size_zeros (size : Nat) : (zeros size).size = size := rfl

@[simp] theorem byte_zeros (size i : Nat) : (zeros size).byte i = 0 := rfl

@[simp] theorem size_write (content : Content) (offset : Nat) (bytes : List UInt8) :
    (content.write offset bytes).size = content.size := rfl

@[simp] theorem size_resize (content : Content) (size : Nat) :
    (content.resize size).size = size := rfl

@[simp] theorem length_read (content : Content) (offset length : Nat) :
    (content.read offset length).length = length := by
  simp [read]

theorem findSome?_filter_of_hidden {patches : List Patch} {offset length i : Nat}
    (outside : ¬ (offset ≤ i ∧ i < offset + length)) :
    (patches.filter fun patch => !patch.liesWithin offset length).findSome? (·.byte? i) =
      patches.findSome? (·.byte? i) := by
  induction patches with
  | nil => rfl
  | cons patch rest ih =>
    by_cases hidden : patch.liesWithin offset length = true
    · simp [hidden, ih, Patch.byte?_eq_none_of_liesWithin hidden outside]
    · simp only [Bool.not_eq_true] at hidden
      simp [hidden, ih, List.findSome?_cons]

/-- A write sets the bytes in its span and keeps all others. -/
theorem byte_write (content : Content) (offset : Nat) (bytes : List UInt8) (i : Nat) :
    (content.write offset bytes).byte i =
      if offset ≤ i ∧ i < offset + bytes.length then bytes.getD (i - offset) 0
      else content.byte i := by
  by_cases inside : offset ≤ i ∧ i < offset + bytes.length
  · have here : i - offset < bytes.length := by omega
    simp [byte, write, Patch.byte?, inside.1, here, inside]
  · have first : Patch.byte? ⟨offset, bytes⟩ i = none := by
      unfold Patch.byte?
      split
      · apply List.getElem?_eq_none
        simp only at *
        omega
      · rfl
    simp only [byte, write, List.findSome?_cons, first, findSome?_filter_of_hidden inside,
      if_neg inside]

theorem findSome?_map_upTo (patches : List Patch) (limit i : Nat) :
    (patches.map (·.upTo limit)).findSome? (·.byte? i) =
      if i < limit then patches.findSome? (·.byte? i) else none := by
  induction patches with
  | nil => simp
  | cons patch rest ih =>
    rw [List.map_cons, List.findSome?_cons, ih, Patch.byte?_upTo]
    by_cases inside : i < limit <;> simp [inside, List.findSome?_cons]

/-- Resizing keeps the bytes below both sizes and clears all others. -/
theorem byte_resize (content : Content) (size i : Nat) :
    (content.resize size).byte i =
      if i < min content.size size then content.byte i else 0 := by
  simp only [byte, resize, findSome?_map_upTo]
  split <;> rfl

/-- What is read of bytes that are all zero. -/
theorem read_of_zero {content : Content} (zero : ∀ i, content.byte i = 0) (offset length : Nat) :
    content.read offset length = List.replicate length 0 := by
  refine List.eq_replicate_iff.2 ⟨length_read _ _ _, ?_⟩
  intro byte listed
  obtain ⟨i, _, rfl⟩ := List.mem_map.1 listed
  exact zero _

/-- Reading back what was just written gives the same bytes. -/
theorem read_write (content : Content) (offset : Nat) (bytes : List UInt8) :
    (content.write offset bytes).read offset bytes.length = bytes := by
  apply List.ext_getElem
  · simp
  · intro i inside _
    simp only [length_read] at inside
    simp [read, byte_write, inside]

end Content

end Heartbeat
