import Heartbeat.Version.Reading
import Mathlib.Data.List.TakeWhile

/-!
# How a version is written

A version is written in many ways: each of its numbers may have a plus sign and leading zeros, and
there may be blanks around the whole.  `SemanticVersion.Written` is that grammar, said without cutting,
trimming or reading anything.  A text is read as a version exactly if it is written in one of these
ways, and is otherwise refused under its own name, blanks included
(`SemanticVersion.reads_exactly_what_is_written`).  The dotted form that versions are shown in is one of
the ways.

A version is packed with the major number above the minor and the minor above the patch number, each
in a byte, so the order of versions is the order of their packed values (`compare_eq_compare_pack`).
-/

set_option autoImplicit false

namespace Heartbeat

/-! ## Trimming -/

namespace Text

variable {left body right : List Char}

/-- What is trimmed off a text are blanks. -/
theorem exists_eq_trim (text : List Char) :
    ∃ left right : List Char, (∀ c ∈ left, isBlank c = true) ∧ (∀ c ∈ right, isBlank c = true) ∧
      text = left ++ trim text ++ right := by
  let rest := text.dropWhile isBlank
  refine ⟨text.takeWhile isBlank, (rest.reverse.takeWhile isBlank).reverse, ?_, ?_, ?_⟩
  · exact fun c listed => List.mem_takeWhile_imp listed
  · exact fun c listed => List.mem_takeWhile_imp (List.mem_reverse.1 listed)
  · have back : trim text ++ (rest.reverse.takeWhile isBlank).reverse = rest := by
      rw [trim, ← List.reverse_append, List.takeWhile_append_dropWhile, List.reverse_reverse]
    rw [List.append_assoc, back, List.takeWhile_append_dropWhile]

/-- Blanks are trimmed off up to the first and from the last character that is not blank. -/
theorem trim_eq (before : ∀ c ∈ left, isBlank c = true) (after : ∀ c ∈ right, isBlank c = true)
    (first : ∃ c rest, body = c :: rest ∧ isBlank c = false)
    (last : ∃ rest c, body = rest ++ [c] ∧ isBlank c = false) :
    trim (left ++ body ++ right) = body := by
  have front : (body ++ right).dropWhile isBlank = body ++ right := by
    obtain ⟨c, rest, rfl, dark⟩ := first
    exact List.dropWhile_cons_of_neg (by simp [dark])
  have back : body.reverse.dropWhile isBlank = body.reverse := by
    obtain ⟨rest, c, rfl, dark⟩ := last
    rw [List.reverse_append]
    exact List.dropWhile_cons_of_neg (by simp [dark])
  rw [trim, List.append_assoc, List.dropWhile_append_of_pos before, front, List.reverse_append,
    List.dropWhile_append_of_pos (fun c listed => after c (List.mem_reverse.1 listed)), back,
    List.reverse_reverse]

end Text

/-! ## Numbers -/

/-- A text writes a number: after one plus sign or none there are ASCII digits, at least one, with any
number of zeros in front, and that is their value to the base ten. -/
def Text.WritesNumber (number : Nat) (text : List Char) : Prop :=
  ∃ digits : List Char, (text = digits ∨ text = '+' :: digits) ∧ digits ≠ [] ∧
    (∀ c ∈ digits, c.isDigit = true) ∧ Nat.ofDigitChars 10 digits 0 = number

theorem decimal?_eq_some_iff {digits : List Char} {value : Nat} :
    decimal? digits = some value ↔
      digits ≠ [] ∧ (∀ c ∈ digits, c.isDigit = true) ∧ Nat.ofDigitChars 10 digits 0 = value := by
  unfold decimal?
  rw [Nat.ofDigitChars_eq_foldl]
  split
  · next sound =>
    simp only [Bool.and_eq_true, Bool.not_eq_true', List.isEmpty_eq_false_iff, List.all_eq_true]
      at sound
    simp only [Option.some.injEq, sound, ne_eq, not_false_eq_true, true_and]
    exact ⟨fun same => ⟨sound.2, same⟩, And.right⟩
  · next unsound =>
    refine ⟨nofun, fun ⟨filled, numeric, _⟩ => absurd ?_ unsound⟩
    simpa only [Bool.and_eq_true, Bool.not_eq_true', List.isEmpty_eq_false_iff, List.all_eq_true]
      using ⟨filled, numeric⟩

/-- The digits of a part are what is left of it without its plus sign. -/
theorem Text.writesNumber_iff {number : Nat} {part : List Char} :
    Text.WritesNumber number part ↔
      decimal? (match part with | '+' :: rest => rest | _ => part) = some number := by
  simp only [Text.WritesNumber, ← decimal?_eq_some_iff]
  constructor
  · rintro ⟨digits, rfl | rfl, value⟩
    · split
      · next rest =>
        have signs : ('+').isDigit = true := (decimal?_eq_some_iff.1 value).2.1 '+' (by simp)
        exact absurd signs (by decide)
      · exact value
    · exact value
  · intro value
    split at value
    · next rest => exact ⟨rest, .inr rfl, value⟩
    · exact ⟨part, .inl rfl, value⟩

theorem versionPart?_eq_some_iff {part : List Char} {number : UInt8} :
    versionPart? part = some number ↔ Text.WritesNumber number.toNat part := by
  rw [Text.writesNumber_iff]
  simp only [versionPart?]
  have bound := number.toNat_lt
  generalize decimal? _ = read
  cases read with
  | none => simp
  | some value =>
    simp only [Option.some.injEq]
    split
    · next small =>
      rw [Option.some.injEq, ← UInt8.toNat_inj, UInt8.toNat_ofNat_of_lt' (Nat.lt_succ_of_le small)]
    · exact iff_of_false (Option.some_ne_none number).symm (by omega)

/-- The number that shows a byte in base ten writes the byte. -/
theorem Text.writesNumber_repr (number : Nat) : Text.WritesNumber number (Nat.repr number).toList := by
  rw [Nat.toList_repr]
  exact ⟨_, .inl rfl, Nat.toDigits_ne_nil,
    fun c listed => Nat.isDigit_of_mem_toDigits (by decide) (by decide) listed,
    Nat.ofDigitChars_ten_toDigits⟩

namespace Text.WritesNumber

variable {number : Nat} {text : List Char}

/-- Every character of a written number is a digit or the plus sign. -/
theorem digit_or_plus (written : WritesNumber number text) :
    ∀ c ∈ text, c.isDigit = true ∨ c = '+' := by
  obtain ⟨digits, rfl | rfl, -, numeric, -⟩ := written
  · exact fun c listed => .inl (numeric c listed)
  · intro c listed
    exact (List.mem_cons.1 listed).elim .inr fun listed => .inl (numeric c listed)

theorem ne_nil (written : WritesNumber number text) : text ≠ [] := by
  obtain ⟨digits, rfl | rfl, filled, -, -⟩ := written
  · exact filled
  · exact List.cons_ne_nil '+' digits

theorem not_mem_dot (written : WritesNumber number text) : '.' ∉ text := fun listed =>
  absurd (written.digit_or_plus '.' listed) (by decide)

theorem not_blank (written : WritesNumber number text) : ∀ c ∈ text, isBlank c = false := by
  intro c listed
  rcases written.digit_or_plus c listed with digit | rfl
  · simp only [Char.isDigit, Bool.and_eq_true, decide_eq_true_eq] at digit
    obtain ⟨low, high⟩ := digit
    have low : 48 ≤ c.toNat := low
    have high : c.toNat ≤ 57 := high
    simp only [isBlank, Bool.or_eq_false_iff, Bool.and_eq_false_iff, decide_eq_false_iff_not,
      beq_eq_false_iff_ne]
    omega
  · decide

end Text.WritesNumber

/-! ## Versions -/

namespace SemanticVersion

/-- A text writes a version: it is blanks, three written numbers with dots between them, and blanks
again. -/
def Written (version : SemanticVersion) (text : List Char) : Prop :=
  ∃ left major minor patch right : List Char,
    (∀ c ∈ left, Text.isBlank c = true) ∧ (∀ c ∈ right, Text.isBlank c = true) ∧
    Text.WritesNumber version.major.toNat major ∧ Text.WritesNumber version.minor.toNat minor ∧
    Text.WritesNumber version.patch.toNat patch ∧
    text = left ++ (major ++ '.' :: (minor ++ '.' :: patch)) ++ right

theorem ofChars?_eq_some_iff {text : List Char} {version : SemanticVersion} :
    ofChars? text = some version ↔ version.Written text := by
  constructor
  · intro read
    obtain ⟨left, right, before, after, whole⟩ := Text.exists_eq_trim text
    unfold ofChars? at read
    split at read
    · next major minor patch cut =>
      split at read
      · next majorNumber minorNumber patchNumber majorRead minorRead patchRead =>
        obtain rfl := Option.some.inj read
        have joined := Text.join_pieces '.' (Text.trim text)
        rw [cut] at joined
        refine ⟨left, major, minor, patch, right, before, after, versionPart?_eq_some_iff.1 majorRead,
          versionPart?_eq_some_iff.1 minorRead, versionPart?_eq_some_iff.1 patchRead, ?_⟩
        rw [whole, ← joined]
        rfl
      · cases read
    · cases read
  · rintro ⟨left, major, minor, patch, right, before, after, hmajor, hminor, hpatch, rfl⟩
    have trimmed : Text.trim (left ++ (major ++ '.' :: (minor ++ '.' :: patch)) ++ right) =
        major ++ '.' :: (minor ++ '.' :: patch) := by
      refine Text.trim_eq before after ?_ ?_
      · obtain ⟨c, rest, rfl⟩ := List.exists_cons_of_ne_nil hmajor.ne_nil
        exact ⟨c, _, rfl, hmajor.not_blank c (by simp)⟩
      · obtain ⟨rest, c, rfl⟩ := (List.eq_nil_or_concat patch).resolve_left hpatch.ne_nil
        exact ⟨major ++ '.' :: (minor ++ '.' :: rest), c, by simp, hpatch.not_blank c (by simp)⟩
    have cut : Text.pieces '.' (major ++ '.' :: (minor ++ '.' :: patch)) = [major, minor, patch] := by
      rw [Text.pieces_append_cons hmajor.not_mem_dot, Text.pieces_append_cons hminor.not_mem_dot,
        Text.pieces_of_not_mem hpatch.not_mem_dot]
    simp only [ofChars?, trimmed, cut, versionPart?_eq_some_iff.2 hmajor,
      versionPart?_eq_some_iff.2 hminor, versionPart?_eq_some_iff.2 hpatch]

/-- A version in its dotted form between blanks is written. -/
theorem written_text (version : SemanticVersion) {left right : List Char}
    (before : ∀ c ∈ left, Text.isBlank c = true) (after : ∀ c ∈ right, Text.isBlank c = true) :
    version.Written (left ++ version.text.toList ++ right) := by
  refine ⟨left, _, _, _, right, before, after, Text.writesNumber_repr _, Text.writesNumber_repr _,
    Text.writesNumber_repr _, ?_⟩
  simp [text, toString]

theorem read_eq_ok_iff {text : String} {version : SemanticVersion} :
    read text = .ok version ↔ version.Written text.toList := by
  rw [← ofChars?_eq_some_iff, read]
  cases ofChars? text.toList <;> simp

theorem read_eq_error_iff {text : String} {error : UnreadableVersion} :
    read text = .error error ↔
      (∀ version : SemanticVersion, ¬ version.Written text.toList) ∧ error = ⟨text⟩ := by
  simp only [← ofChars?_eq_some_iff, read]
  cases ofChars? text.toList <;> simp [eq_comm]

/-! ## The order of versions -/

/-- The packed value of a version as a number. -/
theorem toInt_pack (version : SemanticVersion) :
    version.pack.toInt =
      ((version.major.toNat * 256 + version.minor.toNat) * 256 + version.patch.toNat : Nat) := by
  have major := version.major.toNat_lt
  have minor := version.minor.toNat_lt
  have patch := version.patch.toNat_lt
  rw [pack, Int32.toInt_ofNat_of_lt (by omega)]
  omega

/-- Two numbers with a further digit each are compared by the numbers, and then by the digits. -/
theorem compare_add_digit {high high' low low' : Nat} (small : low < 256) (small' : low' < 256) :
    compare (high * 256 + low) (high' * 256 + low') =
      (compare high high').then (compare low low') := by
  rcases Nat.lt_trichotomy high high' with below | rfl | above
  · rw [Nat.compare_eq_lt.2 below, Nat.compare_eq_lt.2 (by omega)]
    rfl
  · rw [Nat.compare_eq_eq.2 rfl]
    rcases Nat.lt_trichotomy low low' with below | rfl | above
    · rw [Nat.compare_eq_lt.2 below, Nat.compare_eq_lt.2 (by omega)]
      rfl
    · rw [Nat.compare_eq_eq.2 rfl, Nat.compare_eq_eq.2 rfl]
      rfl
    · rw [Nat.compare_eq_gt.2 above, Nat.compare_eq_gt.2 (by omega)]
      rfl
  · rw [Nat.compare_eq_gt.2 above, Nat.compare_eq_gt.2 (by omega)]
    rfl

theorem compare_toNat (left right : UInt8) : compare left right = compare left.toNat right.toNat := by
  simp only [compare, compareOfLessAndEq, UInt8.lt_iff_toNat_lt, UInt8.toNat_inj]

/-- The order of versions is the order of their packed values. -/
theorem compare_eq_compare_pack (left right : SemanticVersion) :
    compare left right = compare left.pack.toInt right.pack.toInt := by
  rw [toInt_pack, toInt_pack]
  have casts (a b : Nat) : compare (a : Int) (b : Int) = compare a b := by
    simp only [compare, compareOfLessAndEq, Int.ofNat_lt, Int.natCast_inj]
  rw [casts, compare_add_digit left.patch.toNat_lt right.patch.toNat_lt,
    compare_add_digit left.minor.toNat_lt right.minor.toNat_lt, ← compare_toNat, ← compare_toNat,
    ← compare_toNat]
  exact (Ordering.then_assoc ..).symm

/-! ## Reading -/

/-- A text is read as a version exactly if it is written, and a text that writes no version is refused
under its own name, with the blanks that it has.  The dotted form of a version is read as the version,
with any blanks around it.  All versions, so also those that were read, are ordered as their packed
values are, and are unpacked to what they were. -/
theorem reads_exactly_what_is_written :
    (∀ (text : String) (version : SemanticVersion),
      read text = .ok version ↔ version.Written text.toList) ∧
    (∀ text : String, (∀ version : SemanticVersion, ¬ version.Written text.toList) →
      ∃ error : UnreadableVersion, read text = .error error ∧
        error.message =
          "invalid semantic version '" ++ text ++ "', expected major.minor.patch") ∧
    (∀ (version : SemanticVersion) (left right : String),
      (∀ c ∈ left.toList, Text.isBlank c = true) → (∀ c ∈ right.toList, Text.isBlank c = true) →
      read (left ++ version.text ++ right) = .ok version) ∧
    (∀ version other : SemanticVersion,
      compare version other = compare version.pack.toInt other.pack.toInt ∧
        unpack version.pack = version) := by
  refine ⟨fun text version => read_eq_ok_iff, fun text unwritten => ?_,
    fun version left right before after => ?_, fun version other => ?_⟩
  · have refused : read text = .error ⟨text⟩ := read_eq_error_iff.2 ⟨unwritten, rfl⟩
    exact ⟨⟨text⟩, refused, rfl⟩
  · rw [read_eq_ok_iff, String.toList_append, String.toList_append]
    exact written_text version before after
  · exact ⟨compare_eq_compare_pack version other, unpack_pack version⟩

/-- A version between an ideographic space and a tab, with a plus sign, leading zeros and the largest
number, and two texts that are none, the second of which has a number that is too large by one. -/
theorem reads_exactly_what_is_written_signed :
    read "\u3000+007.0.255\t" = .ok ⟨7, 0, 255⟩ ∧
    (⟨7, 0, 255⟩ : SemanticVersion).Written "\u3000+007.0.255\t".toList ∧
    read " 7.\u200b0.1" = .error ⟨" 7.\u200b0.1"⟩ ∧ read "7.0.0256 " = .error ⟨"7.0.0256 "⟩ := by
  have signed : read "\u3000+007.0.255\t" = .ok ⟨7, 0, 255⟩ := rfl
  have written := (reads_exactly_what_is_written.1 "\u3000+007.0.255\t" ⟨7, 0, 255⟩).1 signed
  exact ⟨signed, written, rfl, rfl⟩

end SemanticVersion

end Heartbeat
