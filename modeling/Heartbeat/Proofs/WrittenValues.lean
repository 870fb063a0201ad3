import Heartbeat.Toml.Document
import Mathlib.Data.List.Basic
import Mathlib.Data.List.TakeWhile

/-!
# How values are written in a document

The same value is written in many ways.  A text stands between quotes, and each of its characters is
spelled by itself, by a letter after a backslash or by a code of two, four or eight digits to the base
sixteen (`Toml.Spells`).  An integer is decimal and may have a sign and underscores between its digits
(`Toml.WritesInteger`).  A truth value is one of two words.

`Toml.Writes` says which characters write which value, without reading them.  Whatever was written is
read back as the value that it was written for, up to the blank or the end of line that follows it
(`Toml.Writes.value_append`), with one exception: an integer that no reader holds is not read at all.
And there is no value that cannot be written (`Toml.exists_writes`).
-/

set_option autoImplicit false

namespace Heartbeat.Toml

/-! ## Texts -/

/-- A digit to the base sixteen stands for a value.  Its letters may be of either case. -/
def IsDigitOf (value : Nat) (c : Char) : Prop :=
  value < 16 ∧ (c = Nat.digitChar value ∨ c = (Nat.digitChar value).toUpper)

/-- Digits to the base sixteen write a number, the highest digit first. -/
inductive WritesHex : Nat → List Char → Prop
  /-- No digits write zero. -/
  | nil : WritesHex 0 []
  /-- One more digit. -/
  | concat {number value : Nat} {digits : List Char} {c : Char} (higher : WritesHex number digits)
      (digit : IsDigitOf value c) : WritesHex (16 * number + value) (digits ++ [c])

/-- The letters that stand for a character after a backslash. -/
def escapes : List (Char × Char) :=
  [('b', '\x08'), ('t', '\t'), ('n', '\n'), ('f', '\x0c'), ('r', '\r'), ('e', '\x1b'),
    ('\x22', '\x22'), ('\\', '\\')]

/-- How many digits there are after each letter that announces a code. -/
def codes : List (Char × Nat) := [('x', 2), ('u', 4), ('U', 8)]

/-- The ways to spell a character between quotes. -/
inductive Spells : Char → List Char → Prop
  /-- A character that is no control, quote or backslash stands for itself. -/
  | plain {c : Char} (visible : c = '\t' ∨ 0x20 ≤ c.toNat ∧ c.toNat ≠ 0x7F) (unquoted : c ≠ '\x22')
      (unescaped : c ≠ '\\') : Spells c [c]
  /-- Some characters have a letter. -/
  | letter {c mark : Char} (known : (mark, c) ∈ escapes) : Spells c ['\\', mark]
  /-- Each character has a code. -/
  | code {c mark : Char} {digits : List Char} (known : (mark, digits.length) ∈ codes)
      (writes : WritesHex c.toNat digits) : Spells c ('\\' :: mark :: digits)

/-- The ways to spell the characters of a text between quotes, one after the other. -/
inductive SpellsAll : List Char → List Char → Prop
  /-- Nothing spells the empty text. -/
  | nil : SpellsAll [] []
  /-- One character, and those after it. -/
  | cons {c : Char} {piece content body : List Char} (first : Spells c piece)
      (others : SpellsAll content body) : SpellsAll (c :: content) (piece ++ body)

theorem IsDigitOf.digitValue_eq {value : Nat} {c : Char} (digit : IsDigitOf value c) :
    isHexDigit c = true ∧ digitValue c = value := by
  obtain ⟨small, same⟩ := digit
  have all : ∀ value < 16, (isHexDigit (Nat.digitChar value) = true ∧
      digitValue (Nat.digitChar value) = value) ∧
      isHexDigit (Nat.digitChar value).toUpper = true ∧
      digitValue (Nat.digitChar value).toUpper = value := by decide
  rcases same with rfl | rfl
  · exact (all value small).1
  · exact (all value small).2

theorem WritesHex.digitsValue_eq {number : Nat} {digits : List Char}
    (writes : WritesHex number digits) :
    digits.all isHexDigit = true ∧ digitsValue 16 digits = number := by
  induction writes with
  | nil => exact ⟨rfl, rfl⟩
  | @concat number value digits c higher digit ih =>
    obtain ⟨hex, same⟩ := digit.digitValue_eq
    refine ⟨by simp [ih.1, hex], ?_⟩
    have before := ih.2
    unfold digitsValue at before ⊢
    rw [List.foldl_append, before, List.foldl_cons, List.foldl_nil, same]

theorem charOfCode?_eq {c : Char} {digits : List Char} (writes : WritesHex c.toNat digits) :
    charOfCode? digits = some c := by
  obtain ⟨hex, same⟩ := writes.digitsValue_eq
  have valid : c.toNat.isValidChar := c.valid
  simp only [charOfCode?, hex, same, if_true, if_pos valid, Char.ofNat_toNat]

/-- A character is read as it was spelled. -/
theorem Spells.basicRest_append {c : Char} {piece : List Char} (spells : Spells c piece)
    (rest : List Char) : basicRest (piece ++ rest) = push (some c) (basicRest rest) := by
  cases spells with
  | plain visible unquoted unescaped =>
    have plain : isPlain c = true := by
      simp [isPlain, isVisible, unquoted, unescaped, visible]
    change basicRest (c :: rest) = _
    rw [basicRest]
    · rw [if_neg unquoted, if_pos plain]
    all_goals
      intros
      contradiction
  | letter known =>
    simp only [escapes, List.mem_cons, Prod.mk.injEq, List.not_mem_nil, or_false] at known
    rcases known with ⟨rfl, rfl⟩ | ⟨rfl, rfl⟩ | ⟨rfl, rfl⟩ | ⟨rfl, rfl⟩ | ⟨rfl, rfl⟩ | ⟨rfl, rfl⟩ |
      ⟨rfl, rfl⟩ | ⟨rfl, rfl⟩ <;> rfl
  | @code mark digits known writes =>
    have read := charOfCode?_eq writes
    simp only [codes, List.mem_cons, Prod.mk.injEq, List.not_mem_nil, or_false] at known
    -- The letter fixes the number of digits, and with it the pattern that takes them.
    rcases known with ⟨rfl, width⟩ | ⟨rfl, width⟩ | ⟨rfl, width⟩
    · match digits, width with
      | [a, b], _ => rw [← read]; rfl
    · match digits, width with
      | [a, b, c, d], _ => rw [← read]; rfl
    · match digits, width with
      | [a, b, c, d, e, f, g, h], _ => rw [← read]; rfl

/-- A spelled text is read up to its closing quote. -/
theorem SpellsAll.basicRest_append {content body : List Char} (spells : SpellsAll content body)
    (rest : List Char) : basicRest (body ++ '\x22' :: rest) = some (content, rest) := by
  induction spells with
  | nil => simp [basicRest]
  | cons first others ih => rw [List.append_assoc, first.basicRest_append, ih, push]

/-- What may follow a value on its line: a blank, an end of line, or the end of the document. -/
def Follows (rest : List Char) : Prop :=
  ∀ c ∈ rest.head?, isBlank c = true ∨ c = '\n' ∨ c = '\r'

/-- Three quotes do not start a text on one line, if something else than a quote follows it. -/
theorem SpellsAll.ne_quotes {content body : List Char} (spells : SpellsAll content body)
    {rest : List Char} (follows : Follows rest) :
    ('\x22' :: (body ++ '\x22' :: rest)).take 3 ≠ ['\x22', '\x22', '\x22'] := by
  cases spells with
  | nil =>
    match rest with
    | [] => decide
    | c :: later =>
      intro same
      simp only [List.nil_append, List.take_succ_cons, List.take_zero, List.cons.injEq, true_and,
        and_true] at same
      exact absurd (follows c rfl) (same ▸ by decide)
  | cons first others =>
    intro same
    cases first with
    | plain visible unquoted unescaped =>
      simp only [List.cons_append, List.nil_append, List.take_succ_cons, List.cons.injEq] at same
      exact unquoted same.2.1
    | letter known | code known writes =>
      simp only [List.cons_append, List.take_succ_cons, List.cons.injEq] at same
      exact absurd same.2.1 (by decide)

/-- A text between quotes is read as it was spelled. -/
theorem SpellsAll.quotedText_append {content body : List Char} (spells : SpellsAll content body)
    {rest : List Char} (follows : Follows rest) :
    quotedText ('\x22' :: (body ++ '\x22' :: rest)) = some (String.ofList content, rest) := by
  have literal : ('\x22' :: (body ++ '\x22' :: rest)).take 3 ≠ ['\x27', '\x27', '\x27'] := by
    intro same
    simp only [List.take_succ_cons, List.cons.injEq] at same
    exact absurd same.1 (by decide)
  unfold quotedText
  rw [if_neg (spells.ne_quotes follows), if_neg literal]
  simp only [lineText, if_true, spells.basicRest_append, Option.map_some]

/-! ## Integers and truth values -/

/-- Digits are written one after the other, with an underscore or nothing between them. -/
inductive Grouped : List Char → List Char → Prop
  /-- The last digit. -/
  | single {c : Char} (digit : c.isDigit = true) : Grouped [c] [c]
  /-- A digit right before another one. -/
  | cons {c : Char} {digits text : List Char} (digit : c.isDigit = true)
      (others : Grouped digits text) : Grouped (c :: digits) (c :: text)
  /-- A digit with an underscore before the next one. -/
  | underscore {c : Char} {digits text : List Char} (digit : c.isDigit = true)
      (others : Grouped digits text) : Grouped (c :: digits) (c :: '_' :: text)

/-- The ways to write a whole number without a sign: in decimal digits, with no zero in front of
others. -/
inductive WritesNatural : Nat → List Char → Prop
  /-- The digits, and how they are grouped. -/
  | intro {digits text : List Char} (grouped : Grouped digits text)
      (leading : digits.length = 1 ∨ digits.head? ≠ some '0') :
      WritesNatural (Nat.ofDigitChars 10 digits 0) text

/-- The ways to write an integer. -/
inductive WritesInteger : Int → List Char → Prop
  /-- Without a sign. -/
  | unsigned {number : Nat} {text : List Char} (writes : WritesNatural number text) :
      WritesInteger number text
  /-- With a plus sign. -/
  | plus {number : Nat} {text : List Char} (writes : WritesNatural number text) :
      WritesInteger number ('+' :: text)
  /-- With a minus sign. -/
  | minus {number : Nat} {text : List Char} (writes : WritesNatural number text) :
      WritesInteger (-(number : Int)) ('-' :: text)

namespace Grouped

variable {digits text : List Char} (grouped : Grouped digits text)
include grouped

theorem head : ∃ c rest, text = c :: rest ∧ c.isDigit = true := by
  cases grouped with
  | single digit | cons digit others | underscore digit others => exact ⟨_, _, rfl, digit⟩

theorem mem {c : Char} (listed : c ∈ text) : c.isDigit = true ∨ c = '_' := by
  induction grouped with
  | single digit => exact .inl (List.mem_singleton.1 listed ▸ digit)
  | cons digit others ih =>
    rcases List.mem_cons.1 listed with rfl | listed
    · exact .inl digit
    · exact ih listed
  | underscore digit others ih =>
    rcases List.mem_cons.1 listed with rfl | listed
    · exact .inl digit
    · rcases List.mem_cons.1 listed with rfl | listed
      · exact .inr rfl
      · exact ih listed

theorem digits_all : ∀ c ∈ digits, c.isDigit = true := by
  induction grouped with
  | single digit => simpa using digit
  | cons digit others ih | underscore digit others ih => simpa using ⟨digit, ih⟩

/-- Grouped digits are read one by one. -/
theorem groupedDigits_eq : groupedDigits Char.isDigit text = some digits := by
  induction grouped with
  | single digit => simp only [groupedDigits, digit, if_true]
  | @cons c digits text digit others ih =>
    obtain ⟨second, later, rfl, numeric⟩ := others.head
    have other : second ≠ '_' := by
      rintro rfl
      exact absurd numeric (by decide)
    rw [groupedDigits]
    · rw [if_pos digit, ih, Option.map_some]
    all_goals simp [other]
  | underscore digit others ih => simp only [groupedDigits, digit, if_true, ih, Option.map_some]

end Grouped

/-- The value of decimal digits. -/
theorem digitsValue_ten {digits : List Char} (numeric : ∀ c ∈ digits, c.isDigit = true) :
    digitsValue 10 digits = Nat.ofDigitChars 10 digits 0 := by
  rw [Nat.ofDigitChars_eq_foldl]
  refine List.foldl_ext _ _ _ fun value c listed => ?_
  rw [digitValue, if_pos (numeric c listed)]

theorem WritesNatural.plainDigits_eq {number : Nat} {text : List Char}
    (writes : WritesNatural number text) :
    (plainDigits text).map (digitsValue 10) = some number := by
  obtain ⟨grouped, leading⟩ := writes
  have kept : (decide (List.length _ = 1) || decide (List.head? _ ≠ some '0')) = true :=
    (Bool.or_eq_true ..).mpr (leading.imp decide_eq_true decide_eq_true)
  rw [plainDigits, grouped.groupedDigits_eq, Option.filter_some, if_pos kept, Option.map_some,
    digitsValue_ten grouped.digits_all]

/-- The characters of an integer: a digit or a sign, and digits and underscores after it. -/
structure IntegerShaped (text : List Char) : Prop where
  /-- The first character. -/
  head : ∃ c ∈ text.head?, c.isDigit = true ∨ c = '+' ∨ c = '-'
  /-- The others. -/
  tail : ∀ c ∈ text.tail, c.isDigit = true ∨ c = '_'

theorem WritesNatural.grouped {number : Nat} {text : List Char} (writes : WritesNatural number text) :
    ∃ digits, Grouped digits text := by
  obtain ⟨grouped, -⟩ := writes
  exact ⟨_, grouped⟩

theorem WritesInteger.shaped {number : Int} {text : List Char} (writes : WritesInteger number text) :
    IntegerShaped text := by
  cases writes with
  | unsigned writes =>
    obtain ⟨digits, grouped⟩ := writes.grouped
    obtain ⟨c, rest, rfl, digit⟩ := grouped.head
    exact ⟨⟨c, rfl, .inl digit⟩, fun d listed => grouped.mem (List.mem_cons_of_mem _ listed)⟩
  | plus writes =>
    obtain ⟨digits, grouped⟩ := writes.grouped
    exact ⟨⟨'+', rfl, .inr (.inl rfl)⟩, fun d listed => grouped.mem listed⟩
  | minus writes =>
    obtain ⟨digits, grouped⟩ := writes.grouped
    exact ⟨⟨'-', rfl, .inr (.inr rfl)⟩, fun d listed => grouped.mem listed⟩

theorem splitSign_of_digit {c : Char} (digit : c.isDigit = true) (rest : List Char) :
    splitSign (c :: rest) = (false, c :: rest) := by
  unfold splitSign
  split
  · next same => exact absurd ((List.cons.inj same).1 ▸ digit) (by decide)
  · next same => exact absurd ((List.cons.inj same).1 ▸ digit) (by decide)
  · rfl

/-- What is shaped like a decimal integer is not taken for one to another base. -/
theorem IntegerShaped.integerLiteral?_eq {text : List Char} (shaped : IntegerShaped text) :
    integerLiteral? text =
      (plainDigits (splitSign text).2).map fun digits =>
        withSign (splitSign text).1 (digitsValue 10 digits) := by
  have other (mark : Char) (marked : ¬(mark.isDigit = true ∨ mark = '_')) (digits : List Char) :
      text ≠ '0' :: mark :: digits := by
    rintro rfl
    exact marked (shaped.tail mark (List.mem_cons_self ..))
  unfold integerLiteral?
  split
  · exact absurd rfl (other 'x' (by decide) _)
  · exact absurd rfl (other 'o' (by decide) _)
  · exact absurd rfl (other 'b' (by decide) _)
  · rfl

/-- An integer is read as it was written. -/
theorem WritesInteger.integerLiteral?_eq {number : Int} {text : List Char}
    (writes : WritesInteger number text) : integerLiteral? text = some number := by
  have signed (negative : Bool) {magnitude : Nat} {body : List Char}
      (natural : WritesNatural magnitude body) :
      ((plainDigits body).map fun digits => withSign negative (digitsValue 10 digits)) =
        some (withSign negative magnitude) := by
    obtain ⟨digits, read, value⟩ := Option.map_eq_some_iff.1 natural.plainDigits_eq
    rw [read, Option.map_some, value]
  rw [writes.shaped.integerLiteral?_eq]
  cases writes with
  | unsigned natural =>
    obtain ⟨digits, grouped⟩ := natural.grouped
    obtain ⟨c, rest, rfl, digit⟩ := grouped.head
    rw [splitSign_of_digit digit]
    exact signed false natural
  | plus natural => exact signed false natural
  | minus natural => exact signed true natural

/-! ### No moments -/

theorem twoDigits_eq_some {text rest : List Char} {number : Nat}
    (read : twoDigits text = some (number, rest)) :
    ∃ a b, text = a :: b :: rest ∧ a.isDigit = true ∧ b.isDigit = true := by
  unfold twoDigits at read
  split at read
  · next a b later =>
    split at read
    · next numeric =>
      cases read
      obtain ⟨first, second⟩ := (Bool.and_eq_true ..).mp numeric
      exact ⟨a, b, rfl, first, second⟩
    · cases read
  · cases read

theorem after_eq_some {c : Char} {text rest : List Char} (read : after c text = some rest) :
    text = c :: rest := by
  unfold after at read
  split at read
  · split at read
    · next same =>
      cases read
      rw [same]
    · cases read
  · cases read

/-- A date has a dash behind its year. -/
theorem dash_mem_of_date? {text rest : List Char} (read : date? text = some rest) :
    '-' ∈ text.tail := by
  simp only [date?, Option.bind_eq_bind, Option.bind_eq_some_iff, Prod.exists] at read
  obtain ⟨_, later, century, _, later', year, later'', dash, _⟩ := read
  obtain ⟨a, b, rfl, -, -⟩ := twoDigits_eq_some century
  obtain ⟨c, d, rfl, -, -⟩ := twoDigits_eq_some year
  obtain rfl := after_eq_some dash
  simp

/-- A time has a colon behind its hour. -/
theorem colon_mem_of_time? {text rest : List Char} (read : time? text = some rest) :
    ':' ∈ text.tail := by
  simp only [time?, Option.bind_eq_bind, Option.bind_eq_some_iff, Prod.exists] at read
  obtain ⟨_, later, hour, later', colon, _⟩ := read
  obtain ⟨a, b, rfl, -, -⟩ := twoDigits_eq_some hour
  obtain rfl := after_eq_some colon
  simp

namespace IntegerShaped

variable {text : List Char} (shaped : IntegerShaped text)
include shaped

theorem date?_eq_none : date? text = none := by
  cases read : date? text with
  | none => rfl
  | some rest => exact absurd (shaped.tail '-' (dash_mem_of_date? read)) (by decide)

theorem time?_eq_none : time? text = none := by
  cases read : time? text with
  | none => rfl
  | some rest => exact absurd (shaped.tail ':' (colon_mem_of_time? read)) (by decide)

/-- What is shaped like an integer is no moment. -/
theorem isMomentLiteral_eq : isMomentLiteral text = false := by
  simp [isMomentLiteral, shaped.date?_eq_none, shaped.time?_eq_none]

/-- What is shaped like an integer starts with a digit or a sign. -/
theorem ne_cons {first : Char} (other : ¬(first.isDigit = true ∨ first = '+' ∨ first = '-'))
    (later : List Char) : text ≠ first :: later := by
  rintro rfl
  obtain ⟨c, ⟨⟩, kinds⟩ := shaped.head
  exact other kinds

end IntegerShaped

/-! ## Values -/

/-- A value that a key can be given on its line. -/
inductive Value where
  /-- A text. -/
  | text (content : String)
  /-- An integer of any size. -/
  | integer (number : Int)
  /-- A truth value. -/
  | boolean (truth : Bool)
  deriving DecidableEq, Repr

/-- The characters of a truth value. -/
def wordOf : Bool → List Char
  | true => ['t', 'r', 'u', 'e']
  | false => ['f', 'a', 'l', 's', 'e']

/-- The ways to write a value. -/
inductive Writes : Value → List Char → Prop
  /-- A text stands between quotes. -/
  | text {content : String} {body : List Char} (spells : SpellsAll content.toList body) :
      Writes (.text content) ('\x22' :: (body ++ ['\x22']))
  /-- An integer is decimal. -/
  | integer {number : Int} {text : List Char} (writes : WritesInteger number text) :
      Writes (.integer number) text
  /-- A truth value is a word. -/
  | boolean (truth : Bool) : Writes (.boolean truth) (wordOf truth)

/-- What is read of a value: nothing of an integer that is not held. -/
def Value.item? : Value → Option Item
  | .text content => some (.text content)
  | .integer number => if isHeld number then some (.integer number) else none
  | .boolean truth => some (.boolean truth)

theorem Follows.not_scalar {rest : List Char} (follows : Follows rest) :
    rest.takeWhile isScalar = [] ∧ rest.dropWhile isScalar = rest := by
  match rest with
  | [] => exact ⟨rfl, rfl⟩
  | c :: later =>
    have outside : ¬ isScalar c = true := by
      rcases follows c rfl with blank | rfl | rfl
      · simp only [isBlank, Bool.or_eq_true, decide_eq_true_eq] at blank
        rcases blank with rfl | rfl <;> decide
      · decide
      · decide
    exact ⟨List.takeWhile_cons_of_neg outside, List.dropWhile_cons_of_neg outside⟩

/-- A word that is no date is all that is taken of what is written without quotes. -/
theorem scalarChars_append {word rest : List Char} (scalars : ∀ c ∈ word, isScalar c = true)
    (undated : date? word = none) (follows : Follows rest) :
    scalarChars (word ++ rest) = (word, rest) := by
  obtain ⟨nothing, all⟩ := follows.not_scalar
  have taken : (word ++ rest).takeWhile isScalar = word := by
    rw [List.takeWhile_append_of_pos scalars, nothing, List.append_nil]
  have left : (word ++ rest).dropWhile isScalar = rest := by
    rw [List.dropWhile_append_of_pos scalars, all]
  simp only [scalarChars, taken, left, undated]

theorem IntegerShaped.isScalar {text : List Char} (shaped : IntegerShaped text) :
    ∀ c ∈ text, isScalar c = true := by
  have digits {c : Char} (digit : c.isDigit = true) : Toml.isScalar c = true := by
    simp [Toml.isScalar, isBareKey, Char.isAlphanum, digit]
  obtain ⟨first, head, kinds⟩ := shaped.head
  match text with
  | [] => cases head
  | c :: rest =>
    cases head
    intro d listed
    rcases List.mem_cons.1 listed with rfl | listed
    · rcases kinds with digit | rfl | rfl
      · exact digits digit
      · decide
      · decide
    · rcases shaped.tail d listed with digit | rfl
      · exact digits digit
      · decide

theorem ofChars?_of_writes {number : Int} {text : List Char} (writes : WritesInteger number text) :
    Scalar.ofChars? text = if isHeld number then some (.integer number) else none := by
  have shaped := writes.shaped
  have notTrue : text ≠ ['t', 'r', 'u', 'e'] := shaped.ne_cons (by decide) _
  have notFalse : text ≠ ['f', 'a', 'l', 's', 'e'] := shaped.ne_cons (by decide) _
  rw [Scalar.ofChars?, if_neg notTrue, if_neg notFalse, shaped.isMomentLiteral_eq,
    writes.integerLiteral?_eq]
  rfl

/-- A scalar that starts neither as a text nor as a composite value is read as a scalar. -/
theorem value_of_scalar {c : Char} {rest : List Char} (unquoted : c ≠ '\x22') (raw : c ≠ '\x27')
    (array : c ≠ '[') (table : c ≠ '\x7b') (depth : Nat) :
    value (depth + 1) (c :: rest) =
      (scalar (c :: rest)).map fun (value, rest) => (.ofScalar value, rest) := by
  rw [value]
  · rw [simpleValue]
    simp only [unquoted, raw, decide_false, Bool.or_self, Bool.false_eq_true, if_false]
  all_goals
    intros
    simp_all

/-- A value is read as it was written, up to what follows it on its line. -/
theorem Writes.value_append {written : Value} {text rest : List Char} (writes : Writes written text)
    (follows : Follows rest) (depth : Nat) :
    value (depth + 1) (text ++ rest) = written.item?.map fun item => (item, rest) := by
  cases writes with
  | @text content body spells =>
    have read := spells.quotedText_append follows
    rw [String.ofList_toList] at read
    have whole : '\x22' :: (body ++ ['\x22']) ++ rest = '\x22' :: (body ++ '\x22' :: rest) := by simp
    rw [whole, value]
    · rw [simpleValue]
      simp only [decide_true, Bool.true_or, if_true, read, Option.map_some, Value.item?]
    all_goals
      intros
      simp_all
  | @integer number text writes =>
    have shaped := writes.shaped
    have taken := scalarChars_append shaped.isScalar shaped.date?_eq_none follows
    have read : scalar (text ++ rest) =
        (if isHeld number then some (.integer number) else none : Option Scalar).map fun value =>
          (value, rest) := by
      simp only [scalar, taken, ofChars?_of_writes writes]
    obtain ⟨c, head, kinds⟩ := shaped.head
    match text with
    | [] => cases head
    | c :: later =>
      cases head
      have apart (d : Char) (other : ¬(d.isDigit = true ∨ d = '+' ∨ d = '-')) : c ≠ d := by
        rintro rfl
        exact other kinds
      rw [List.cons_append, value_of_scalar (apart _ (by decide)) (apart _ (by decide))
        (apart _ (by decide)) (apart _ (by decide)), ← List.cons_append, read, Value.item?]
      split <;> rfl
  | boolean truth =>
    have taken : scalarChars (wordOf truth ++ rest) = (wordOf truth, rest) := by
      refine scalarChars_append (List.all_eq_true.1 ?_) ?_ follows <;> cases truth <;> decide
    have read : scalar (wordOf truth ++ rest) = some (.boolean truth, rest) := by
      rw [scalar, taken]
      cases truth <;> rfl
    cases truth <;>
      exact (value_of_scalar (by decide) (by decide) (by decide) (by decide) depth).trans
        (congrArg (Option.map _) read)

/-! ## Every value can be written -/

/-- Each number below a power of sixteen has that many digits. -/
theorem exists_writesHex {width number : Nat} (small : number < Nat.pow 16 width) :
    ∃ digits, digits.length = width ∧ WritesHex number digits := by
  induction width generalizing number with
  | zero =>
    obtain rfl := Nat.lt_one_iff.1 small
    exact ⟨[], rfl, .nil⟩
  | succ width ih =>
    have smaller : number / 16 < Nat.pow 16 width := Nat.div_lt_of_lt_mul (Nat.mul_comm .. ▸ small)
    obtain ⟨digits, length, higher⟩ := ih smaller
    have digit : IsDigitOf (number % 16) (Nat.digitChar (number % 16)) :=
      ⟨Nat.mod_lt _ (by decide), .inl rfl⟩
    refine ⟨_, ?_, Nat.div_add_mod number 16 ▸ higher.concat digit⟩
    rw [List.length_append, length, List.length_singleton]

/-- Every character can be spelled, at least by its code. -/
theorem exists_spells (c : Char) : ∃ piece, Spells c piece := by
  have small : c.toNat < Nat.pow 16 8 := by
    rcases c.valid with low | high
    · exact Nat.lt_trans low (by decide)
    · exact Nat.lt_trans high.2 (by decide)
  obtain ⟨digits, length, writes⟩ := exists_writesHex small
  have known : ('U', digits.length) ∈ codes := by rw [length]; decide
  exact ⟨_, .code known writes⟩

theorem exists_spellsAll (content : List Char) : ∃ body, SpellsAll content body := by
  induction content with
  | nil => exact ⟨[], .nil⟩
  | cons c content ih =>
    obtain ⟨piece, first⟩ := exists_spells c
    obtain ⟨body, others⟩ := ih
    exact ⟨_, .cons first others⟩

/-- Digits may be grouped by no underscores at all. -/
theorem Grouped.of_digits {digits : List Char} (filled : digits ≠ [])
    (numeric : ∀ c ∈ digits, c.isDigit = true) : Grouped digits digits := by
  induction digits with
  | nil => exact absurd rfl filled
  | cons c digits ih =>
    have digit := numeric c (List.mem_cons_self ..)
    by_cases last : digits = []
    · subst last
      exact .single digit
    · exact .cons digit (ih last fun d listed => numeric d (List.mem_cons_of_mem _ listed))

/-- The digits of a positive number do not start with a zero. -/
theorem head?_toDigits_ne {number : Nat} (positive : 0 < number) :
    (Nat.toDigits 10 number).head? ≠ some '0' := by
  induction number using Nat.strongRecOn with
  | ind number ih =>
    by_cases small : number < 10
    · have nonzero : ∀ value < 10, 0 < value → Nat.digitChar value ≠ '0' := by decide
      rw [Nat.toDigits_of_lt_base small, List.head?_cons, Ne, Option.some.injEq]
      exact nonzero number small positive
    · rw [Nat.toDigits_of_base_le (by decide) (by omega),
        List.head?_append_of_ne_nil _ Nat.toDigits_ne_nil]
      exact ih (number / 10) (by omega) (by omega)

/-- Every whole number can be written, as its digits. -/
theorem exists_writesNatural (number : Nat) : ∃ text, WritesNatural number text := by
  have grouped : Grouped (Nat.toDigits 10 number) (Nat.toDigits 10 number) :=
    .of_digits Nat.toDigits_ne_nil fun c listed =>
      Nat.isDigit_of_mem_toDigits (by decide) (by decide) listed
  have leading : (Nat.toDigits 10 number).length = 1 ∨
      (Nat.toDigits 10 number).head? ≠ some '0' := by
    rcases Nat.eq_zero_or_pos number with rfl | positive
    · exact .inl rfl
    · exact .inr (head?_toDigits_ne positive)
  have writes := WritesNatural.intro grouped leading
  rw [Nat.ofDigitChars_ten_toDigits] at writes
  exact ⟨_, writes⟩

theorem exists_writesInteger (number : Int) : ∃ text, WritesInteger number text := by
  obtain ⟨text, writes⟩ := exists_writesNatural number.natAbs
  rcases Int.natAbs_eq number with whole | whole <;> rw [whole]
  · exact ⟨_, .unsigned writes⟩
  · exact ⟨_, .minus writes⟩

/-- Every value can be written. -/
theorem exists_writes : (value : Value) → ∃ text, Writes value text
  | .text content =>
    have ⟨_, spells⟩ := exists_spellsAll content.toList
    ⟨_, .text spells⟩
  | .integer number =>
    have ⟨_, writes⟩ := exists_writesInteger number
    ⟨_, .integer writes⟩
  | .boolean truth => ⟨_, .boolean truth⟩

end Heartbeat.Toml
