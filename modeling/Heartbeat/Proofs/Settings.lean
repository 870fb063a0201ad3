import Heartbeat.Configuration
import Heartbeat.Proofs.WrittenLines

/-!
# What a configuration is set to

A configuration has eleven settings, each with a key of its own.  A document of lines that give values
to keys sets some of them.  It is well-formed and gives a configuration exactly if each key that it sets
has a value of the type and the range of its setting, and then these settings have the values that were
written, and every other one has its default (`Configuration.ofDocument_of_lines`).  Neither the order of
the lines nor the keys that nobody knows make a difference.

The eleven settings are of four kinds, and what a kind reads of a value is said once for all of them
(`Kind.read_item_eq_some_iff`).
-/

set_option autoImplicit false

namespace Heartbeat

open Toml

namespace Configuration

/-! ## Kinds of settings -/

/-- What a setting can be. -/
inductive Kind where
  /-- A text. -/
  | text
  /-- A size, an offset or a number of milliseconds. -/
  | size
  /-- A signed span of time. -/
  | milliseconds
  /-- A truth value. -/
  | boolean
  deriving DecidableEq, Repr

namespace Kind

/-- What a setting of a kind is in a configuration. -/
abbrev Setting : Kind → Type
  | text => String
  | size => Nat
  | milliseconds => Milliseconds
  | boolean => Bool

/-- How a setting is read. -/
def read : (kind : Kind) → Item → Option kind.Setting
  | text => Item.text?
  | size => Item.size?
  | milliseconds => Item.milliseconds?
  | boolean => Item.boolean?

/-- The value that a setting has. -/
def value : (kind : Kind) → kind.Setting → Value
  | text, content => .text content
  | size, number => .integer (number : Int)
  | milliseconds, time => .integer time.toInt
  | boolean, truth => .boolean truth

/-- Whether a value has the type and the range of a kind. -/
def Takes : Kind → Value → Prop
  | text, .text _ => True
  | size, .integer number => 0 ≤ number ∧ number < 18446744073709551616
  | milliseconds, .integer number =>
    -9223372036854775808 ≤ number ∧ number < 9223372036854775808
  | boolean, .boolean _ => True
  | _, _ => False

/-- A kind reads the values of its type and range, and reads them as what they are. -/
theorem read_item_eq_some_iff {kind : Kind} {written : Value} {setting : kind.Setting} :
    kind.read written.item = some setting ↔ kind.Takes written ∧ kind.value setting = written := by
  cases kind with
  | text =>
    cases written <;> simp [read, Value.item, Item.text?, Takes, value, eq_comm]
  | boolean =>
    cases written <;> simp [read, Value.item, Item.boolean?, Takes, value, eq_comm]
  | size =>
    cases written with
    | text content | boolean truth => simp [read, Value.item, Item.size?, Takes]
    | integer number =>
      change (if 0 ≤ number ∧ number < 18446744073709551616 then some number.toNat else none) =
        some setting ↔ (0 ≤ number ∧ number < 18446744073709551616) ∧
          Value.integer (setting : Nat) = .integer number
      rw [Value.integer.injEq]
      split
      · next inside =>
        rw [Option.some.injEq]
        omega
      · next outside => exact ⟨nofun, fun takes => absurd takes.1 outside⟩
  | milliseconds =>
    cases written with
    | text content | boolean truth => simp [read, Value.item, Item.milliseconds?, Takes]
    | integer number =>
      change (if Int64.minValue.toInt ≤ number ∧ number ≤ Int64.maxValue.toInt then
          some (Int64.ofInt number) else none) = some setting ↔
        (-9223372036854775808 ≤ number ∧ number < 9223372036854775808) ∧
          Value.integer (Int64.toInt setting) = .integer number
      have low : Int64.minValue.toInt = -9223372036854775808 := rfl
      have high : Int64.maxValue.toInt = 9223372036854775807 := rfl
      rw [Value.integer.injEq, low, high]
      split
      · next inside =>
        have kept : (Int64.ofInt number).toInt = number :=
          Int64.toInt_ofInt_of_le (by omega) (by omega)
        rw [Option.some.injEq, ← Int64.toInt_inj, kept]
        exact ⟨fun same => ⟨by omega, same.symm⟩, fun takes => takes.2.symm⟩
      · next outside => exact ⟨nofun, fun takes => absurd takes.1 (by omega)⟩

/-- Integers of 64 bits are held, with or without a sign. -/
theorem held_of_bounds {number : Int}
    (bounds : -9223372036854775808 ≤ number ∧ number < 18446744073709551616) :
    (Value.integer number).Held := by
  have low : -((1 <<< 127 : Nat) : Int) ≤ -9223372036854775808 := by decide
  have high : (18446744073709551616 : Int) ≤ ((1 <<< 128 : Nat) : Int) := by decide
  exact (Bool.and_eq_true ..).mpr ⟨decide_eq_true (Int.le_trans low bounds.1),
    decide_eq_true (Int.lt_of_lt_of_le bounds.2 high)⟩

/-- Values in the range of a setting are held. -/
theorem Takes.held {kind : Kind} {written : Value} (takes : kind.Takes written) : written.Held := by
  cases written with
  | text content | boolean truth => trivial
  | integer number =>
    refine held_of_bounds ?_
    cases kind with
    | text | boolean => exact takes.elim
    | size =>
      obtain ⟨low, high⟩ := takes
      omega
    | milliseconds =>
      obtain ⟨low, high⟩ := takes
      omega

end Kind

/-! ## Keys -/

/-- A key that is known, by the setting that it sets. -/
inductive Key where
  /-- The directory that holds the file. -/
  | directory
  /-- The name of the file. -/
  | filename
  /-- The length of the file. -/
  | fileLength
  /-- The offset of the version field. -/
  | versionOffset
  /-- The offset of the timestamp field. -/
  | timestampOffset
  /-- The timeout. -/
  | timeout
  /-- The pause between two heartbeats. -/
  | heartbeatInterval
  /-- Whether a directory is deleted untested. -/
  | replacesDirectory
  /-- Whether a directory is reported. -/
  | warnsOfDirectory
  /-- The protocol version. -/
  | protocolVersion
  /-- The events that are printed. -/
  | logLevel
  deriving DecidableEq, Repr

namespace Key

/-- How a key is written. -/
def name : Key → String
  | directory => "cnc_dir"
  | filename => "filename"
  | fileLength => "total_file_length"
  | versionOffset => "version_field_offset"
  | timestampOffset => "timestamp_field_offset"
  | timeout => "timeout_ms"
  | heartbeatInterval => "heartbeat_interval_ms"
  | replacesDirectory => "dir_delete_on_start"
  | warnsOfDirectory => "warn_if_directory_exists"
  | protocolVersion => "protocol_version"
  | logLevel => "log_level"

/-- The kind of a setting. -/
abbrev kind : Key → Kind
  | directory | filename | protocolVersion | logLevel => .text
  | fileLength | versionOffset | timestampOffset | heartbeatInterval => .size
  | timeout => .milliseconds
  | replacesDirectory | warnsOfDirectory => .boolean

/-- A setting of a configuration. -/
def get (configuration : Configuration) : (key : Key) → key.kind.Setting
  | directory => configuration.directory
  | filename => configuration.filename
  | fileLength => configuration.fileLength
  | versionOffset => configuration.versionOffset
  | timestampOffset => configuration.timestampOffset
  | timeout => configuration.timeout
  | heartbeatInterval => configuration.heartbeatInterval
  | replacesDirectory => configuration.replacesDirectory
  | warnsOfDirectory => configuration.warnsOfDirectory
  | protocolVersion => configuration.protocolVersion
  | logLevel => configuration.logLevel

/-- What a setting is when nothing sets it. -/
def preset : (key : Key) → key.kind.Setting
  | directory => "/dev/shm/vigil"
  | filename => "cnc.dat"
  | fileLength => (4096 : Nat)
  | versionOffset => (0 : Nat)
  | timestampOffset => (8 : Nat)
  | timeout => (1000 : Int64)
  | heartbeatInterval => (100 : Nat)
  | replacesDirectory => false
  | warnsOfDirectory => true
  | protocolVersion => "1.0.0"
  | logLevel => "info"

/-- The value that a configuration has for a key. -/
def valueIn (key : Key) (configuration : Configuration) : Value :=
  key.kind.value (key.get configuration)

end Key

/-- The configuration without a document has all presets. -/
theorem get_default (key : Key) : key.get default = key.preset := by cases key <;> rfl

/-- Entries give a configuration exactly if each of its settings is read of them. -/
theorem ofEntries?_eq_some_iff {entries : Entries} {configuration : Configuration} :
    ofEntries? entries = some configuration ↔
      ∀ key : Key, entries.setting key.name key.kind.read key.preset =
        some (key.get configuration) := by
  simp only [ofEntries?, Option.bind_eq_bind, Option.bind_eq_some_iff, Option.pure_def,
    Option.some.injEq]
  constructor
  · intro given
    obtain ⟨_, directory, _, filename, _, fileLength, _, versionOffset, _, timestampOffset, _, timeout,
      _, heartbeatInterval, _, replacesDirectory, _, warnsOfDirectory, _, protocolVersion, _, logLevel,
      rfl⟩ := given
    rintro ⟨⟩
    all_goals assumption
  · intro all
    exact ⟨_, all .directory, _, all .filename, _, all .fileLength, _, all .versionOffset, _,
      all .timestampOffset, _, all .timeout, _, all .heartbeatInterval, _, all .replacesDirectory, _,
      all .warnsOfDirectory, _, all .protocolVersion, _, all .logLevel, rfl⟩

/-! ## Documents of lines -/

/-- Entries that a document of lines can have: different keys, each with any value if it is known, and
with a text, an integer of 64 bits or a truth value if it is not. -/
structure Sensible (entries : List (String × Value)) : Prop where
  /-- No key is given twice. -/
  distinct : Distinct entries
  /-- The integers of keys that are not known have 64 bits, with or without a sign. -/
  unknown : ∀ name number, (name, Value.integer number) ∈ entries →
    (∀ key : Key, key.name ≠ name) →
    -9223372036854775808 ≤ number ∧ number < 18446744073709551616

/-- A key has the setting that was written for it, if one of its kind was written, and its default if
none was. -/
def Key.Follows (key : Key) (entries : List (String × Value)) (configuration : Configuration) :
    Prop :=
  match entries.lookup key.name with
  | none => key.get configuration = key.preset
  | some written => key.kind.Takes written ∧ key.valueIn configuration = written

/-- A key is read as it follows from what was written. -/
theorem Key.setting_eq_some_iff {key : Key} {entries : List (String × Value)}
    {configuration : Configuration} :
    (entriesOf entries).setting key.name key.kind.read key.preset = some (key.get configuration) ↔
      key.Follows entries configuration := by
  unfold Entries.setting Key.Follows
  rw [Entries.get?_entriesOf]
  cases entries.lookup key.name with
  | none =>
    rw [Option.map_none, Option.some.injEq]
    exact eq_comm
  | some written =>
    rw [Option.map_some]
    exact Kind.read_item_eq_some_iff

/-- Among different keys a key has the one value that is listed with it. -/
theorem lookup_eq_some_iff {entries : List (String × Value)} (distinct : Distinct entries)
    {name : String} {value : Value} :
    entries.lookup name = some value ↔ (name, value) ∈ entries := by
  induction entries with
  | nil => simp
  | cons entry entries ih =>
    obtain ⟨first, other⟩ := entry
    obtain ⟨new, distinct⟩ := List.nodup_cons.1 distinct
    rw [List.lookup_cons, List.mem_cons, Prod.mk.injEq]
    by_cases same : name = first
    · subst same
      have absent : (name, value) ∉ entries := fun listed =>
        new (List.mem_map.2 ⟨(name, value), listed, rfl⟩)
      simp [absent, eq_comm]
    · have other : (name == first) = false := beq_eq_false_iff_ne.2 same
      simp [same, other, ih distinct]

/-- Every value that a kind takes is the value of a setting. -/
theorem Kind.Takes.exists_value {kind : Kind} {written : Value} (takes : kind.Takes written) :
    ∃ setting, kind.value setting = written := by
  cases kind with
  | text =>
    cases written with
    | text content => exact ⟨content, rfl⟩
    | integer number | boolean truth => exact takes.elim
  | size =>
    cases written with
    | integer number => exact ⟨number.toNat, congrArg Value.integer (Int.toNat_of_nonneg takes.1)⟩
    | text content | boolean truth => exact takes.elim
  | milliseconds =>
    cases written with
    | integer number =>
      have takes : -9223372036854775808 ≤ number ∧ number < 9223372036854775808 := takes
      exact ⟨Int64.ofInt number,
        congrArg Value.integer (Int64.toInt_ofInt_of_le (by omega) (by omega))⟩
    | text content | boolean truth => exact takes.elim
  | boolean =>
    cases written with
    | boolean truth => exact ⟨truth, rfl⟩
    | text content | integer number => exact takes.elim

/-- If all values are of the right kinds, there is a configuration that has them. -/
theorem exists_follows {entries : List (String × Value)}
    (takes : ∀ (key : Key) value, entries.lookup key.name = some value → key.kind.Takes value) :
    ∃ configuration, ∀ key : Key, key.Follows entries configuration := by
  have settings (key : Key) : ∃ setting : key.kind.Setting,
      match entries.lookup key.name with
      | none => setting = key.preset
      | some written => key.kind.Takes written ∧ key.kind.value setting = written := by
    cases written : entries.lookup key.name with
    | none => exact ⟨key.preset, rfl⟩
    | some value =>
      obtain ⟨setting, same⟩ := (takes key value written).exists_value
      exact ⟨setting, takes key value written, same⟩
  choose setting follows using settings
  exact ⟨⟨setting .directory, setting .filename, setting .fileLength, setting .versionOffset,
    setting .timestampOffset, setting .timeout, setting .heartbeatInterval,
    setting .replacesDirectory, setting .warnsOfDirectory, setting .protocolVersion,
    setting .logLevel⟩, fun key => by cases key <;> exact follows _⟩

/-- A document is refused for one reason only. -/
theorem eq_malformed {document : String} {error : ConfigurationError}
    (refused : ofDocument document = .error error) : error = .malformed := by
  unfold ofDocument at refused
  split at refused
  · exact (Except.error.inj refused).symm
  · split at refused
    · exact (Except.error.inj refused).symm
    · cases refused

/-- A document of lines gives the configuration in which every setting follows from what was written.
-/
theorem ofDocument_eq_ok_iff {entries : List (String × Value)} {document : String}
    (writes : WritesLines entries document.toList) (sensible : Sensible entries)
    {configuration : Configuration} :
    ofDocument document = .ok configuration ↔
      ∀ key : Key, key.Follows entries configuration := by
  by_cases held : ∀ entry ∈ entries, entry.2.Held
  · simp only [ofDocument, writes.ofDocument?_eq sensible.distinct held, ← Key.setting_eq_some_iff,
      ← ofEntries?_eq_some_iff]
    cases ofEntries? (entriesOf entries) <;> simp
  · -- A value that is not held is out of the range of every key, known or not.
    obtain ⟨⟨name, value⟩, listed, unheld⟩ : ∃ entry ∈ entries, ¬ entry.2.Held := by
      simpa using held
    simp only [ofDocument, writes.ofDocument?_eq_none listed unheld]
    refine ⟨nofun, fun follows => absurd ?_ unheld⟩
    by_cases known : ∃ key : Key, key.name = name
    · obtain ⟨key, rfl⟩ := known
      have follows := follows key
      rw [Key.Follows, (lookup_eq_some_iff sensible.distinct).2 listed] at follows
      exact follows.1.held
    · cases value with
      | text content | boolean truth => trivial
      | integer number =>
        have bounds := sensible.unknown name number listed fun key same => known ⟨key, same⟩
        exact Kind.held_of_bounds bounds

/-- A document of lines gives a configuration exactly if every key that is known has a value of the
type and the range of its setting.  Then the settings of these keys have the values that were written,
and every other setting is that of the default configuration.  Otherwise the document is malformed.

Nothing else of the document makes a difference: a document that writes the same values for the keys that
are known, on lines in whatever order and with whatever other keys among them, comes to the same. -/
theorem ofDocument_of_lines {entries : List (String × Value)} {document : String}
    (writes : WritesLines entries document.toList) (sensible : Sensible entries) :
    ((∃ configuration, ofDocument document = .ok configuration) ↔
      ∀ (key : Key) value, (key.name, value) ∈ entries → key.kind.Takes value) ∧
    (∀ configuration, ofDocument document = .ok configuration → ∀ key : Key,
      (∀ value, (key.name, value) ∈ entries → key.valueIn configuration = value) ∧
      ((∀ value, (key.name, value) ∉ entries) →
        key.get configuration = key.get Configuration.default)) ∧
    (∀ error, ofDocument document = .error error → error = .malformed) ∧
    (∀ (others : List (String × Value)) (other : String), WritesLines others other.toList →
      Sensible others →
      (∀ (key : Key) value, (key.name, value) ∈ entries ↔ (key.name, value) ∈ others) →
      ofDocument other = ofDocument document) := by
  have read {configuration : Configuration} :=
    @ofDocument_eq_ok_iff _ _ writes sensible configuration
  refine ⟨⟨?_, ?_⟩, ?_, fun _ => eq_malformed, ?_⟩
  · rintro ⟨configuration, given⟩ key value listed
    have follows := read.1 given key
    rw [Key.Follows, (lookup_eq_some_iff sensible.distinct).2 listed] at follows
    exact follows.1
  · intro takes
    obtain ⟨configuration, follows⟩ := exists_follows fun key value found =>
      takes key value ((lookup_eq_some_iff sensible.distinct).1 found)
    exact ⟨configuration, read.2 follows⟩
  · intro configuration given key
    have follows := read.1 given key
    constructor
    · intro value listed
      rw [Key.Follows, (lookup_eq_some_iff sensible.distinct).2 listed] at follows
      exact follows.2
    · intro absent
      have missing : entries.lookup key.name = none :=
        Option.eq_none_iff_forall_ne_some.2 fun value found =>
          absent value ((lookup_eq_some_iff sensible.distinct).1 found)
      rw [Key.Follows, missing] at follows
      exact follows.trans (get_default key).symm
  · intro others other writes' sensible' same
    have alike (key : Key) : others.lookup key.name = entries.lookup key.name :=
      Option.ext fun value => by
        rw [lookup_eq_some_iff sensible.distinct, lookup_eq_some_iff sensible'.distinct,
          same key value]
    have iff (configuration : Configuration) :
        ofDocument other = .ok configuration ↔ ofDocument document = .ok configuration := by
      rw [read, ofDocument_eq_ok_iff writes' sensible']
      simp only [Key.Follows, alike]
    cases given : ofDocument document with
    | ok configuration => exact (iff configuration).2 given
    | error error =>
      obtain rfl := eq_malformed given
      cases given' : ofDocument other with
      | ok configuration => cases ((iff configuration).1 given').symm.trans given
      | error error' => rw [eq_malformed given']

/-- A document with a negative timeout, a key that nobody knows, and a directory that is spelled with a
code and a letter, on lines with different ends. -/
theorem ofDocument_of_lines_mixed :
    ∃ configuration, ofDocument "timeout_ms=-2_50\r\nx-1 = 7 \ncnc_dir\t= \"/\\u00e9\\t\"" =
        .ok configuration ∧
      configuration.timeout = -250 ∧ configuration.directory = "/é\t" ∧
      configuration.filename = default.filename := by
  have bare (name : String) (filled : name.toList ≠ []) (all : name.toList.all isBareKey = true) :
      IsBareName name := ⟨filled, List.all_eq_true.1 all⟩
  have none : Blanks [] := fun c listed => absurd listed List.not_mem_nil
  have space : Blanks [' '] := List.forall_mem_singleton.2 rfl
  have tab : Blanks ['\t'] := List.forall_mem_singleton.2 rfl
  have grouped : Grouped ['2', '5', '0'] ['2', '_', '5', '0'] :=
    .underscore rfl (.cons rfl (.single rfl))
  have number : WritesNatural 250 ['2', '_', '5', '0'] := .intro grouped (.inr (by decide))
  have alone : Grouped ['7'] ['7'] := .single rfl
  have seven : WritesNatural 7 ['7'] := .intro alone (.inl rfl)
  have zero : IsDigitOf 0 '0' := ⟨by decide, .inl rfl⟩
  have fourteen : IsDigitOf 14 'e' := ⟨by decide, .inl rfl⟩
  have nine : IsDigitOf 9 '9' := ⟨by decide, .inl rfl⟩
  have code : WritesHex 'é'.toNat ['0', '0', 'e', '9'] :=
    (((WritesHex.nil.concat zero).concat zero).concat fourteen).concat nine
  have spelled : SpellsAll "/é\t".toList ['/', '\\', 'u', '0', '0', 'e', '9', '\\', 't'] :=
    .cons (.plain (.inr (by decide)) (by decide) (by decide))
      (.cons (.code (by decide) code) (.cons (.letter (by decide)) .nil))
  have first := @WritesLine.intro "timeout_ms" _ _ [] [] [] [] (bare _ (by decide) (by decide))
    (.integer (.minus number)) none none none none
  have second := @WritesLine.intro "x-1" _ _ [] [' '] [' '] [' '] (bare _ (by decide) (by decide))
    (.integer (.unsigned seven)) none space space space
  have third := @WritesLine.intro "cnc_dir" _ _ [] ['\t'] [' '] [] (bare _ (by decide) (by decide))
    (.text spelled) none tab space none
  have writes : WritesLines [("timeout_ms", .integer (-250)), ("x-1", .integer 7),
      ("cnc_dir", .text "/é\t")]
      "timeout_ms=-2_50\r\nx-1 = 7 \ncnc_dir\t= \"/\\u00e9\\t\"".toList :=
    .cons first .returnAndFeed (.cons second .feed (.last third))
  have sensible : Sensible [("timeout_ms", .integer (-250)), ("x-1", .integer 7),
      ("cnc_dir", .text "/é\t")] := by
    have distinct : ["timeout_ms", "x-1", "cnc_dir"].Nodup := by decide
    refine ⟨distinct, fun name number listed _ => ?_⟩
    simp only [List.mem_cons, Prod.mk.injEq, Value.integer.injEq, List.not_mem_nil, or_false,
      reduceCtorEq, and_false] at listed
    omega
  obtain ⟨given, settings, -⟩ := ofDocument_of_lines writes sensible
  obtain ⟨configuration, given⟩ := given.2 fun key value listed => by
    simp only [List.mem_cons, Prod.mk.injEq, List.not_mem_nil, or_false] at listed
    rcases listed with ⟨named, rfl⟩ | ⟨named, rfl⟩ | ⟨named, rfl⟩ <;> cases key <;>
      first | exact absurd named (by decide) | simp [Kind.Takes]
  have timeout := (settings configuration given .timeout).1 (.integer (-250)) (by decide)
  have directory := (settings configuration given .directory).1 (.text "/é\t") (by decide)
  have filename := (settings configuration given .filename).2 fun value listed => by
    simp [Key.name] at listed
  refine ⟨configuration, given, ?_, Value.text.inj directory, filename⟩
  exact Int64.toInt_inj.1 (Value.integer.inj timeout)

end Configuration

end Heartbeat
