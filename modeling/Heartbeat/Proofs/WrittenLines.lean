import Heartbeat.Proofs.WrittenValues

/-!
# How lines of a document are written

A line gives a key a value: the name of the key, an equals sign and the value, with blanks around each
of them or none (`Toml.WritesLine`).  A document is such lines with line feeds between them, each with a
carriage return or without (`Toml.WritesLines`).  Names that need no quotes can be given whatever values
(`Toml.exists_writesLines`).

A document is read as its lines were written, one after the other (`Toml.WritesLines.lines_eq`), and if
its keys are different, its entries are the keys with their values, in the order of the lines
(`Toml.WritesLines.ofDocument?_eq`).  If one of its values is an integer that is not held, nothing is
read at all.
-/

set_option autoImplicit false

namespace Heartbeat.Toml

/-- All characters are blanks. -/
def Blanks (text : List Char) : Prop := ∀ c ∈ text, isBlank c = true

/-- The ways to end a line. -/
inductive EndsLine : List Char → Prop
  /-- With a line feed. -/
  | feed : EndsLine ['\n']
  /-- With a carriage return and a line feed. -/
  | returnAndFeed : EndsLine ['\r', '\n']

/-- A name that needs no quotes as a key. -/
structure IsBareName (name : String) : Prop where
  /-- It is not empty. -/
  filled : name.toList ≠ []
  /-- It has letters, digits, underscores and dashes. -/
  bare : ∀ c ∈ name.toList, isBareKey c = true

/-- The ways to write on a line that a key is given a value. -/
inductive WritesLine : String × Value → List Char → Prop
  /-- The name, an equals sign and the value, with blanks around each of them. -/
  | intro {name : String} {value : Value} {literal indent before behind trailing : List Char}
      (named : IsBareName name) (writes : Writes value literal) (indented : Blanks indent)
      (spaced : Blanks before) (spaced' : Blanks behind) (trailed : Blanks trailing) :
      WritesLine (name, value)
        (indent ++ (name.toList ++ (before ++ '=' :: (behind ++ (literal ++ trailing)))))

/-- The ways to write some lines.  The last one may have an end or not. -/
inductive WritesLines : List (String × Value) → List Char → Prop
  /-- No lines. -/
  | nil : WritesLines [] []
  /-- The last line without an end. -/
  | last {entry : String × Value} {text : List Char} (line : WritesLine entry text) :
      WritesLines [entry] text
  /-- A line with its end, and the lines after it. -/
  | cons {entry : String × Value} {entries : List (String × Value)} {text ending rest : List Char}
      (line : WritesLine entry text) (ends : EndsLine ending) (others : WritesLines entries rest) :
      WritesLines (entry :: entries) (text ++ (ending ++ rest))

/-- Whatever values are given to names that need no quotes, there are lines that say so. -/
theorem exists_writesLines {entries : List (String × Value)}
    (named : ∀ entry ∈ entries, IsBareName entry.1) : ∃ text, WritesLines entries text := by
  have none : Blanks [] := fun c listed => absurd listed List.not_mem_nil
  induction entries with
  | nil => exact ⟨[], .nil⟩
  | cons entry entries ih =>
    obtain ⟨rest, others⟩ := ih fun other listed => named other (List.mem_cons_of_mem _ listed)
    obtain ⟨literal, writes⟩ := exists_writes entry.2
    have line := WritesLine.intro (named entry (List.mem_cons_self ..)) writes none none none none
    exact ⟨_, .cons line .feed others⟩

/-! ## Blanks and ends of lines -/

theorem Blanks.skipBlanks_append {blanks : List Char} (spaced : Blanks blanks) (rest : List Char) :
    skipBlanks (blanks ++ rest) = skipBlanks rest := List.dropWhile_append_of_pos spaced

theorem skipBlanks_cons {c : Char} (dark : isBlank c = false) (rest : List Char) :
    skipBlanks (c :: rest) = c :: rest := List.dropWhile_cons_of_neg (by simp [dark])

/-- What is left of a document behind a line: nothing, or an end of line and more. -/
def LineEnds (rest later : List Char) : Prop :=
  rest = [] ∧ later = [] ∨ ∃ ending, EndsLine ending ∧ rest = ending ++ later

/-- Blanks and what is left behind a line may follow a value. -/
theorem follows_of_lineEnds {blanks rest later : List Char} (spaced : Blanks blanks)
    (ends : LineEnds rest later) : Follows (blanks ++ rest) := by
  intro c first
  match blanks with
  | d :: others =>
    cases first
    exact .inl (spaced c (List.mem_cons_self ..))
  | [] =>
    rcases ends with ⟨rfl, -⟩ | ⟨ending, ends, rfl⟩
    · cases first
    · cases ends with
      | feed =>
        cases first
        exact .inr (.inl rfl)
      | returnAndFeed =>
        cases first
        exact .inr (.inr rfl)

/-- The end of a line is passed, with the blanks before it. -/
theorem endOfLine_append {blanks rest later : List Char} (spaced : Blanks blanks)
    (ends : LineEnds rest later) : endOfLine (blanks ++ rest) = some later := by
  rw [endOfLine, spaced.skipBlanks_append]
  rcases ends with ⟨rfl, rfl⟩ | ⟨ending, ends, rfl⟩
  · rfl
  · cases ends <;> rfl

/-! ## Keys -/

namespace IsBareName

variable {name : String} (named : IsBareName name)
include named

/-- The first character of a name is none that means something else at the start of a line. -/
theorem first : ∃ c rest, name.toList = c :: rest ∧ isBareKey c = true := by
  obtain ⟨c, rest, whole⟩ := List.exists_cons_of_ne_nil named.filled
  exact ⟨c, rest, whole, named.bare c (whole ▸ List.mem_cons_self ..)⟩

/-- A name is read as a key, up to the equals sign. -/
theorem key_append {before : List Char} (spaced : Blanks before) (rest : List Char) :
    key (name.toList ++ (before ++ '=' :: rest)) = some (([], name), '=' :: rest) := by
  have stops : ((before ++ '=' :: rest).takeWhile isBareKey = []) ∧
      (before ++ '=' :: rest).dropWhile isBareKey = before ++ '=' :: rest := by
    match before with
    | [] => exact ⟨rfl, rfl⟩
    | c :: others =>
      have outside : ¬ isBareKey c = true := by
        have blank := spaced c (List.mem_cons_self ..)
        simp only [isBlank, Bool.or_eq_true, decide_eq_true_eq] at blank
        rcases blank with rfl | rfl <;> decide
      exact ⟨List.takeWhile_cons_of_neg outside, List.dropWhile_cons_of_neg outside⟩
  have taken : (name.toList ++ (before ++ '=' :: rest)).takeWhile isBareKey = name.toList := by
    rw [List.takeWhile_append_of_pos named.bare, stops.1, List.append_nil]
  have left : (name.toList ++ (before ++ '=' :: rest)).dropWhile isBareKey =
      before ++ '=' :: rest := by
    rw [List.dropWhile_append_of_pos named.bare, stops.2]
  have simple : simpleKey (name.toList ++ (before ++ '=' :: rest)) =
      some (name, before ++ '=' :: rest) := by
    obtain ⟨c, others, whole, bare⟩ := named.first
    have unquoted : c ≠ '\x22' := by
      rintro rfl
      exact absurd bare (by decide)
    have raw : c ≠ '\x27' := by
      rintro rfl
      exact absurd bare (by decide)
    have filled : name.toList.isEmpty = false := by rw [whole]; rfl
    rw [whole, List.cons_append] at taken left ⊢
    simp only [simpleKey, unquoted, raw, decide_false, Bool.or_self, Bool.false_eq_true, if_false,
      taken, left, filled, ← whole, String.ofList_toList]
  have more (steps : Nat) : keyRest (steps + 1) (before ++ '=' :: rest) =
      some ([], '=' :: rest) := by
    rw [keyRest, spaced.skipBlanks_append, skipBlanks_cons (by decide)]
    rfl
  rw [key, simple]
  simp only [more]
  rfl

end IsBareName

/-! ## Lines -/

/-- A value starts with a character that is not blank. -/
theorem Writes.first {value : Value} {text : List Char} (writes : Writes value text) :
    ∃ c rest, text = c :: rest ∧ isBlank c = false := by
  cases writes with
  | text spells => exact ⟨'\x22', _, rfl, by decide⟩
  | @integer number text writes =>
    obtain ⟨c, head, kinds⟩ := writes.shaped.head
    match text with
    | [] => cases head
    | c :: rest =>
      cases head
      refine ⟨c, rest, rfl, ?_⟩
      rcases kinds with digit | rfl | rfl
      · simp only [isBlank, Bool.or_eq_false_iff, decide_eq_false_iff_not]
        constructor <;> rintro rfl <;> exact absurd digit (by decide)
      · decide
      · decide
  | boolean truth =>
    cases truth
    · exact ⟨'f', _, rfl, by decide⟩
    · exact ⟨'t', _, rfl, by decide⟩

/-- What is read of a line: nothing if its value is not held. -/
def entryLine? (entry : String × Value) : Option Line :=
  entry.2.item?.map fun item => .entry ([], entry.1) item

/-- A line is read as it was written, without the blanks before it and up to those behind it. -/
theorem WritesLine.line_append {entry : String × Value} {text : List Char}
    (writes : WritesLine entry text) {rest later : List Char} (ends : LineEnds rest later) :
    ∃ c body trailing, skipBlanks (text ++ rest) = c :: body ∧ isBareKey c = true ∧
      Blanks trailing ∧
      line (c :: body) = (entryLine? entry).map fun line => (line, trailing ++ rest) := by
  obtain @⟨name, value, literal, indent, before, behind, trailing, named, writes, indented, spaced,
    spaced', trailed⟩ := writes
  obtain ⟨c, others, whole, bare⟩ := named.first
  have dark : isBlank c = false := by
    simp only [isBlank, Bool.or_eq_false_iff, decide_eq_false_iff_not]
    constructor <;> rintro rfl <;> exact absurd bare (by decide)
  have bracket : c ≠ '[' := by
    rintro rfl
    exact absurd bare (by decide)
  have start : skipBlanks ((indent ++ (name.toList ++ (before ++ '=' :: (behind ++
      (literal ++ trailing))))) ++ rest) =
      name.toList ++ (before ++ '=' :: (behind ++ (literal ++ (trailing ++ rest)))) := by
    simp only [List.append_assoc, List.cons_append]
    rw [indented.skipBlanks_append, whole, List.cons_append, skipBlanks_cons dark]
  have read : keyValue (Toml.value nestingLimit)
      (name.toList ++ (before ++ '=' :: (behind ++ (literal ++ (trailing ++ rest))))) =
        value.item?.map fun item => ((([], name), item), trailing ++ rest) := by
    obtain ⟨d, more, opened, dark'⟩ := writes.first
    have skipped : skipBlanks (behind ++ (literal ++ (trailing ++ rest))) =
        literal ++ (trailing ++ rest) := by
      rw [spaced'.skipBlanks_append, opened, List.cons_append, skipBlanks_cons dark']
    have item := writes.value_append (follows_of_lineEnds trailed ends) 79
    simp only [keyValue, named.key_append spaced, skipped, nestingLimit, item]
    cases value.item? <;> rfl
  refine ⟨c, _, trailing, start.trans (by rw [whole, List.cons_append]), bare, trailed, ?_⟩
  rw [whole, List.cons_append] at read
  rw [line]
  · rw [read, entryLine?]
    cases value.item? <;> rfl
  all_goals
    intros
    simp_all

/-- Lines are read as they were written, one after the other. -/
theorem WritesLines.lines_eq {entries : List (String × Value)} {text : List Char}
    (writes : WritesLines entries text) {steps : Nat} (granted : text.length < steps) :
    lines steps text = entries.mapM entryLine? := by
  -- A line that is not empty takes one step and leaves less than there was.
  have step {entry : String × Value} {text rest later : List Char}
      (line : WritesLine entry text) (ends : LineEnds rest later) (steps : Nat) :
      lines (steps + 1) (text ++ rest) =
        (entryLine? entry).bind fun first => (lines steps later).map (first :: ·) := by
    obtain ⟨c, body, trailing, start, bare, trailed, read⟩ := line.line_append ends
    have other (d : Char) (special : isBareKey d = false) : c ≠ d := by
      rintro rfl
      exact Bool.false_ne_true (special.symm.trans bare)
    have comment : skipComment (c :: body) = c :: body := by
      unfold skipComment
      split
      · next same => exact absurd (List.cons.inj same).1 (other '#' (by decide))
      · rfl
    have inLine : newline? (c :: body) = none := by
      unfold newline?
      split
      · next same => exact absurd (List.cons.inj same).1 (other '\n' (by decide))
      · next same => exact absurd (List.cons.inj same).1 (other '\r' (by decide))
      · rfl
    rw [lines, start, comment]
    simp only [inLine, read]
    cases entryLine? entry with
    | none => rfl
    | some first => simp only [Option.map_some, endOfLine_append trailed ends, Option.bind_some]
  induction writes generalizing steps with
  | nil =>
    obtain ⟨steps, rfl⟩ := Nat.exists_eq_succ_of_ne_zero (Nat.ne_zero_of_lt granted)
    rfl
  | @last entry text line =>
    have filled : 0 < text.length := by
      obtain ⟨named, -⟩ := line
      have named := List.length_pos_of_ne_nil named.filled
      simp only [List.length_append, List.length_cons]
      omega
    obtain ⟨steps, rfl⟩ : ∃ k, steps = k + 2 := ⟨steps - 2, by omega⟩
    have read := step line (.inl ⟨rfl, rfl⟩) (steps + 1)
    rw [List.append_nil] at read
    rw [read, List.mapM_cons, List.mapM_nil]
    cases entryLine? entry <;> rfl
  | @cons entry entries text ending rest line ends others ih =>
    have length : (text ++ (ending ++ rest)).length = text.length + ending.length + rest.length := by
      simp only [List.length_append, Nat.add_assoc]
    have ended : 0 < ending.length := by cases ends <;> decide
    obtain ⟨steps, rfl⟩ : ∃ k, steps = k + 1 := ⟨steps - 1, by omega⟩
    rw [step line (.inr ⟨ending, ends, rfl⟩) steps, ih (by omega), List.mapM_cons]
    cases entryLine? entry <;> cases entries.mapM entryLine? <;> rfl

/-! ## Documents -/

/-- The keys are different. -/
def Distinct (entries : List (String × Value)) : Prop := (entries.map Prod.fst).Nodup

/-- Whether a value is held by a reader. -/
def Value.Held : Value → Prop
  | .integer number => isHeld number = true
  | _ => True

/-- What a value is among the entries of a document. -/
def Value.item : Value → Item
  | .text content => .text content
  | .integer number => .integer number
  | .boolean truth => .boolean truth

/-- The entries of a document whose lines give values to keys. -/
def entriesOf (entries : List (String × Value)) : Entries :=
  entries.map fun entry => (entry.1, entry.2.item)

theorem Value.item?_of_held {value : Value} (held : value.Held) : value.item? = some value.item := by
  cases value with
  | text content | boolean truth => rfl
  | integer number => exact if_pos held

theorem Value.item?_of_not_held {value : Value} (unheld : ¬ value.Held) : value.item? = none := by
  cases value with
  | text content | boolean truth => exact absurd trivial unheld
  | integer number => exact if_neg unheld

theorem mapM_entryLine?_of_held {entries : List (String × Value)}
    (held : ∀ entry ∈ entries, entry.2.Held) :
    entries.mapM entryLine? =
      some ((entriesOf entries).map fun entry => .entry ([], entry.1) entry.2) := by
  induction entries with
  | nil => rfl
  | cons entry entries ih =>
    have others := ih fun other listed => held other (List.mem_cons_of_mem _ listed)
    have first : entryLine? entry = some (.entry ([], entry.1) entry.2.item) := by
      rw [entryLine?, Value.item?_of_held (held entry (List.mem_cons_self ..)), Option.map_some]
    rw [List.mapM_cons, first, others]
    rfl

theorem mapM_entryLine?_of_not_held {entries : List (String × Value)} {entry : String × Value}
    (listed : entry ∈ entries) (unheld : ¬ entry.2.Held) : entries.mapM entryLine? = none := by
  induction entries with
  | nil => cases listed
  | cons first entries ih =>
    rw [List.mapM_cons]
    rcases List.mem_cons.1 listed with rfl | listed
    · rw [entryLine?, Value.item?_of_not_held unheld]
      rfl
    · rw [ih listed]
      cases entryLine? first <;> rfl

namespace Entries

/-- A new key comes last. -/
theorem put_of_get?_eq_none {entries : Entries} {key : String} (new : get? entries key = none)
    (item : Item) : put entries key item = entries ++ [(key, item)] := by
  induction entries with
  | nil => rfl
  | cons first entries ih =>
    unfold get? at new
    split at new
    · cases new
    · next other => rw [put, if_neg other, ih new, List.cons_append]

theorem get?_eq_none_iff {entries : Entries} {key : String} :
    get? entries key = none ↔ key ∉ entries.map Prod.fst := by
  induction entries with
  | nil => simp [get?]
  | cons first entries ih =>
    by_cases same : first.1 = key
    · simp [get?, same]
    · simp [get?, same, ih, Ne.symm same]

/-- Values are assigned to different new keys one after the other. -/
theorem assignAll_of_distinct {before entries : Entries}
    (distinct : ((before ++ entries).map Prod.fst).Nodup) :
    assignAll before (entries.map fun entry => (([], entry.1), entry.2)) =
      some (before ++ entries) := by
  induction entries generalizing before with
  | nil => rw [List.append_nil]; rfl
  | cons entry entries ih =>
    have new : get? before entry.1 = none := by
      rw [get?_eq_none_iff]
      rw [List.map_append, List.nodup_append] at distinct
      exact fun listed => distinct.2.2 _ listed _ (List.mem_cons_self ..) rfl
    have assigned : assign before [] entry.1 entry.2 = some (before ++ [entry]) := by
      rw [← put_of_get?_eq_none new]
      simp [assign, changeDotted, new]
    rw [List.map_cons, assignAll, assigned]
    have together : before ++ [entry] ++ entries = before ++ entry :: entries := by simp
    exact (ih (together ▸ distinct)).trans (congrArg some together)

theorem get?_entriesOf (entries : List (String × Value)) (key : String) :
    get? (entriesOf entries) key = (entries.lookup key).map Value.item := by
  induction entries with
  | nil => rfl
  | cons entry entries ih =>
    obtain ⟨name, value⟩ := entry
    rw [List.lookup_cons]
    by_cases same : name = key
    · simp [entriesOf, get?, same]
    · have other : (key == name) = false := beq_eq_false_iff_ne.2 (Ne.symm same)
      simpa [entriesOf, get?, same, other] using ih

end Entries

/-- Lines that only give values to keys have no headers among them. -/
theorem takeEntries_entries (entries : Entries) :
    takeEntries (entries.map fun entry => .entry ([], entry.1) entry.2) =
      (entries.map fun entry => (([], entry.1), entry.2), []) := by
  induction entries with
  | nil => rfl
  | cons entry entries ih => rw [List.map_cons, takeEntries, ih]; rfl

/-- A document of such lines does not start with a byte order mark. -/
theorem WritesLines.skipByteOrderMark_eq {entries : List (String × Value)} {text : List Char}
    (writes : WritesLines entries text) : skipByteOrderMark text = text := by
  have cons {c : Char} (allowed : isBlank c = true ∨ isBareKey c = true) (rest : List Char) :
      skipByteOrderMark (c :: rest) = c :: rest := by
    refine if_neg fun mark => ?_
    obtain rfl : c = '\ufeff' := Char.toNat_inj.1 mark
    exact absurd allowed (by decide)
  have unmarked {entry : String × Value} {text : List Char} (line : WritesLine entry text)
      (rest : List Char) : skipByteOrderMark (text ++ rest) = text ++ rest := by
    obtain @⟨name, _, _, indent, _, _, _, named, _, indented, _, _, _⟩ := line
    match indent with
    | c :: others => exact cons (.inl (indented c (List.mem_cons_self ..))) _
    | [] =>
      obtain ⟨c, others, whole, bare⟩ := named.first
      rw [whole]
      exact cons (.inr bare) _
  cases writes with
  | nil => rfl
  | last line => simpa using unmarked line []
  | cons line ends others => exact unmarked line _

section Document

variable {entries : List (String × Value)} {document : String}
  (writes : WritesLines entries document.toList)
include writes

/-- The entries of a document are what its lines were written for. -/
theorem WritesLines.ofDocument?_eq (distinct : Distinct entries)
    (held : ∀ entry ∈ entries, entry.2.Held) :
    Entries.ofDocument? document = some (entriesOf entries) := by
  have names : ((entriesOf entries).map Prod.fst).Nodup := by
    rw [entriesOf, List.map_map]
    exact distinct
  rw [Entries.ofDocument?, writes.skipByteOrderMark_eq, writes.lines_eq (Nat.lt_succ_self _),
    mapM_entryLine?_of_held held]
  have assigned : Entries.assignAll [] ((entriesOf entries).map fun entry =>
      (([], entry.1), entry.2)) = some (entriesOf entries) :=
    Entries.assignAll_of_distinct names
  simp only [Entries.ofLines, takeEntries_entries, assigned]
  rfl

/-- Nothing is read of a document with a value that is not held. -/
theorem WritesLines.ofDocument?_eq_none {entry : String × Value} (listed : entry ∈ entries)
    (unheld : ¬ entry.2.Held) : Entries.ofDocument? document = none := by
  rw [Entries.ofDocument?, writes.skipByteOrderMark_eq, writes.lines_eq (Nat.lt_succ_self _),
    mapM_entryLine?_of_not_held listed unheld]

end Document

end Heartbeat.Toml
