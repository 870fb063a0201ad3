import Heartbeat.Storage.Files

/-!
# What paths lead to, and go on leading to

A walk finds what it found before in every storage that has kept the names (`NamesKept`), so a path
goes on leading to the file that it led to while others only make new files and directories or
change bytes (`openFile_of_namesKept`).

Opening a file and opening it with leave to make it come to the same, as far as the file is
concerned: an existing file is opened as it is (`openOrCreateFile_of_openFile`), and what was opened
or made is what the path leads to afterwards (`openFile_of_openOrCreateFile`).
-/

set_option autoImplicit false

namespace Heartbeat

/-- A relative path other than the empty one spells at least one name. -/
theorem Path.names_ne_nil {path : String} (relative : isAbsolute path = false)
    (spelled : path ≠ "") : names path ≠ [] := by
  unfold names segments
  cases characters : path.toList with
  | nil => exact absurd (String.toList_eq_nil_iff.1 characters) spelled
  | cons first rest =>
    have other : first ≠ '/' := by
      rintro rfl
      simp [isAbsolute, characters] at relative
    cases others : Text.pieces '/' rest with
    | nil => simp [Text.pieces, other, others]
    | cons piece pieces => simp [Text.pieces, other, others]

/-- A step into a directory is a step to the name itself. -/
theorem LastStep.ofName_eq_into {name other : String} (into : ofName name = .into other) :
    other = name := by
  unfold ofName at into
  split at into
  · cases into
  · split at into
    · cases into
    · exact (LastStep.into.inj into).symm

namespace Storage

variable {before after : Storage}

/-! ## What a path leads to -/

/-- Steps are made from directories. -/
theorem directory_of_step {storage : Storage} {location next : Location} {name : String}
    (stepped : storage.step location name = .ok next) :
    storage.tree.lookup location = some .directory := by
  unfold step at stepped
  split at stepped
  · cases stepped
  · cases stepped
  · next held => exact held

/-- A walk is a step and then the rest of the walk. -/
theorem walk_cons_eq_ok_iff {storage : Storage} {location goal : Location} {name : String}
    {rest : List String} :
    storage.walk location (name :: rest) = .ok goal ↔
      ∃ next, storage.step location name = .ok next ∧ storage.walk next rest = .ok goal := by
  rw [walk]
  cases storage.step location name <;> simp

/-- A walk that makes a step starts at a directory. -/
theorem directory_of_walk {storage : Storage} {location goal : Location} {name : String}
    {rest : List String} (walked : storage.walk location (name :: rest) = .ok goal) :
    storage.tree.lookup location = some .directory := by
  obtain ⟨next, stepped, -⟩ := walk_cons_eq_ok_iff.1 walked
  exact directory_of_step stepped

/-- What it takes for a path to lead to something. -/
theorem locate_eq_ok_iff {storage : Storage} {path : String} {location : Location} {entry : Entry} :
    storage.locate path = .ok (location, entry) ↔ Path.check path = .ok () ∧
      storage.walk (storage.startOf path) (Path.names path) = .ok location ∧
      storage.tree.lookup location = some entry ∧
      (entry = .directory ∨ Path.endsInSlash path = false) := by
  unfold locate
  cases Path.check path with
  | error _ => simp
  | ok =>
    cases storage.walk (storage.startOf path) (Path.names path) with
    | error _ => simp
    | ok reached =>
      cases found : storage.tree.lookup reached with
      | none => grind
      | some held =>
        cases held with
        | directory => grind
        | file object => cases Path.endsInSlash path <;> grind

/-- A file is opened where its path leads to it. -/
theorem openFile_eq_ok_iff_locate {storage : Storage} {path : String} {object : ObjectId} :
    storage.openFile path = .ok object ↔
      ∃ location, storage.locate path = .ok (location, .file object) := by
  unfold openFile
  rcases storage.locate path with _ | ⟨location, _ | other⟩ <;> simp

/-- The size of a file. -/
theorem sizeOf?_of_openFile {storage : Storage} {path : String} {object : ObjectId}
    (opened : storage.openFile path = .ok object) :
    storage.sizeOf? path = some (storage.content object).size := by
  obtain ⟨location, located⟩ := openFile_eq_ok_iff_locate.1 opened
  rw [sizeOf?, located]

/-! ## Names that stay -/

/-- Everything that has a name keeps it from one storage to another. -/
structure NamesKept (before after : Storage) : Prop where
  /-- Relative paths start where they did. -/
  workingDirectory : after.workingDirectory = before.workingDirectory
  /-- What is at a location stays there. -/
  lookup : ∀ {location : Location} {entry : Entry},
    before.tree.lookup location = some entry → after.tree.lookup location = some entry

namespace NamesKept

theorem refl (storage : Storage) : NamesKept storage storage := ⟨rfl, id⟩

theorem trans {between : Storage} (first : NamesKept before between)
    (second : NamesKept between after) : NamesKept before after :=
  ⟨second.workingDirectory.trans first.workingDirectory, fun found =>
    second.lookup (first.lookup found)⟩

theorem modify (storage : Storage) (object : ObjectId) (change : Content → Content) :
    NamesKept storage (storage.modify object change) := ⟨rfl, id⟩

/-- A path starts where it did. -/
theorem startOf_eq (kept : NamesKept before after) (path : String) :
    after.startOf path = before.startOf path := by
  rw [startOf, startOf, kept.workingDirectory]

/-- A new file at a free place in a directory takes no name away. -/
theorem addFile {storage : Storage} {location : Location}
    (accepted : storage.tree.accepts location (.file storage.fresh) = true) :
    NamesKept storage (storage.addFile location) := by
  refine ⟨rfl, fun {place entry} found => ?_⟩
  have free := (Tree.accepts_iff.1 accepted).1
  apply (Tree.lookup_add accepted place).trans
  rw [if_neg, found]
  rintro rfl
  exact absurd (found.symm.trans free) nofun

/-- A new directory at a free place in a directory takes no name away. -/
theorem addDirectory (storage : Storage) (location : Location) :
    NamesKept storage (storage.addDirectory location) := by
  refine ⟨rfl, fun {place entry} found => ?_⟩
  by_cases accepted : storage.tree.accepts location .directory = true
  · have free := (Tree.accepts_iff.1 accepted).1
    apply (Tree.lookup_add accepted place).trans
    rw [if_neg, found]
    rintro rfl
    exact absurd (found.symm.trans free) nofun
  · have alone : (storage.addDirectory location).tree = storage.tree := dif_neg accepted
    rw [alone, found]

end NamesKept

section Kept

variable (kept : NamesKept before after)
include kept

/-- A step that could be made can still be made. -/
theorem step_of_namesKept {location next : Location} {name : String}
    (stepped : before.step location name = .ok next) : after.step location name = .ok next := by
  have held := directory_of_step stepped
  unfold step at stepped ⊢
  rw [kept.lookup held]
  rw [held] at stepped
  cases last : LastStep.ofName name with
  | root | stay | up => simpa only [last] using stepped
  | into name =>
    simp only [last] at stepped ⊢
    split at stepped
    · cases stepped
    · next short =>
      rw [if_neg short]
      cases there : before.tree.lookup (location ++ [name]) with
      | none => simp only [there, if_true, reduceCtorEq] at stepped
      | some entry =>
        rw [kept.lookup there]
        simpa only [there, reduceCtorEq, if_false] using stepped

/-- A walk that could be made can still be made. -/
theorem walk_of_namesKept {names : List String} {location goal : Location}
    (walked : before.walk location names = .ok goal) : after.walk location names = .ok goal := by
  induction names generalizing location with
  | nil => exact walked
  | cons name rest ih =>
    obtain ⟨next, stepped, walks⟩ := walk_cons_eq_ok_iff.1 walked
    exact walk_cons_eq_ok_iff.2 ⟨next, step_of_namesKept kept stepped, ih walks⟩

/-- A path goes on leading to what it led to. -/
theorem locate_of_namesKept {path : String} {found : Location × Entry}
    (located : before.locate path = .ok found) : after.locate path = .ok found := by
  obtain ⟨location, entry⟩ := found
  obtain ⟨checked, walked, there, plain⟩ := locate_eq_ok_iff.1 located
  refine locate_eq_ok_iff.2 ⟨checked, ?_, kept.lookup there, plain⟩
  rw [kept.startOf_eq]
  exact walk_of_namesKept kept walked

/-- A path goes on leading to a directory. -/
theorem isDirectory_of_namesKept {path : String} (there : before.isDirectory path = true) :
    after.isDirectory path = true := by
  unfold isDirectory at there ⊢
  cases located : before.locate path with
  | error _ => simp only [located, Bool.false_eq_true] at there
  | ok found =>
    rw [locate_of_namesKept kept located]
    simpa only [located] using there

/-- A path goes on leading to the file that it led to. -/
theorem openFile_of_namesKept {path : String} {object : ObjectId}
    (opened : before.openFile path = .ok object) : after.openFile path = .ok object := by
  obtain ⟨location, located⟩ := openFile_eq_ok_iff_locate.1 opened
  exact openFile_eq_ok_iff_locate.2 ⟨location, locate_of_namesKept kept located⟩

end Kept

/-! ## Making directories -/

/-- Making directories takes no name away and makes no file. -/
structure OnlyDirectories (before after : Storage) : Prop where
  /-- What has a name keeps it. -/
  kept : NamesKept before after
  /-- What is a file was that file. -/
  files : ∀ {location : Location} {object : ObjectId},
    after.tree.lookup location = some (.file object) →
      before.tree.lookup location = some (.file object)
  /-- No bytes change, and there are no new ones. -/
  objects : after.objects = before.objects

theorem OnlyDirectories.refl (storage : Storage) : OnlyDirectories storage storage :=
  ⟨.refl _, id, rfl⟩

theorem OnlyDirectories.trans {between : Storage} (first : OnlyDirectories before between)
    (second : OnlyDirectories between after) : OnlyDirectories before after :=
  ⟨first.kept.trans second.kept, fun found => first.files (second.files found),
    second.objects.trans first.objects⟩

theorem OnlyDirectories.addDirectory (storage : Storage) (location : Location) :
    OnlyDirectories storage (storage.addDirectory location) := by
  refine ⟨.addDirectory _ _, fun {place object} found => ?_, rfl⟩
  by_cases accepted : storage.tree.accepts location .directory = true
  · have there := (Tree.lookup_add accepted place).symm.trans found
    split at there
    · cases there
    · exact there
  · have alone : (storage.addDirectory location).tree = storage.tree := dif_neg accepted
    rwa [alone] at found

theorem onlyDirectories_of_makeDirectory {path : String}
    (made : before.makeDirectory path = .ok after) : OnlyDirectories before after := by
  unfold makeDirectory at made
  split at made
  · cases made
  · split at made
    · cases made
    · split at made
      · cases made
        exact .addDirectory _ _
      · cases made
  · cases made

/-- What holds of every directory that is made holds of a chain of them. -/
theorem makeDirectoryChain_induction {related : Storage → Storage → Prop}
    (refl : ∀ storage, related storage storage)
    (trans : ∀ {before between after}, related before between → related between after →
      related before after) {paths : List String}
    (makes : ∀ path ∈ paths, path ≠ "" → ∀ {before after : Storage},
      before.makeDirectory path = .ok after → related before after) (storage : Storage) :
    related storage (storage.makeDirectoryChain paths).2 := by
  induction paths generalizing storage with
  | nil => exact refl _
  | cons path holders ih =>
    unfold makeDirectoryChain
    split
    · exact refl _
    · next spelled =>
      have here := @makes path (List.mem_cons_self ..) spelled
      have rest := ih (fun other listed => makes other (List.mem_cons_of_mem _ listed)) storage
      split
      · next made => exact here made
      · split
        · next left => exact left ▸ rest
        · next held =>
          rw [held] at rest
          split
          · next made => exact trans rest (here made)
          · exact rest
      · exact refl _

theorem onlyDirectories_makeDirectoryChain (storage : Storage) (paths : List String) :
    OnlyDirectories storage (storage.makeDirectoryChain paths).2 :=
  makeDirectoryChain_induction .refl .trans (fun _ _ _ => onlyDirectories_of_makeDirectory) storage

theorem onlyDirectories_makeDirectories (storage : Storage) (path : String) :
    OnlyDirectories storage (storage.makeDirectories path).2 :=
  onlyDirectories_makeDirectoryChain storage _

theorem onlyDirectories_of_makeDirectories {path : String} {result : Except FileError Unit}
    (made : before.makeDirectories path = (result, after)) : OnlyDirectories before after := by
  have only := onlyDirectories_makeDirectories before path
  rwa [made] at only

theorem LastStep.ne_up_of_ne {name : String} (other : name ≠ "..") :
    LastStep.ofName name ≠ .up := by
  unfold LastStep.ofName
  rw [if_neg other]
  split <;> exact nofun

/-- A walk that does not go up finds nothing old behind a new directory. -/
theorem walk_of_onlyDirectories (only : OnlyDirectories before after) {names : List String}
    {location goal : Location} (plain : ".." ∉ names)
    (walked : after.walk location names = .ok goal) (old : before.tree.lookup goal ≠ none) :
    before.walk location names = .ok goal ∧ Location.within goal location = true := by
  -- The goal is old, and what holds something old is old.  So the induction also keeps that the goal
  -- lies below the place reached so far, and each step of the walk is known to be old from behind.
  induction names generalizing location with
  | nil =>
    cases walked
    exact ⟨rfl, Location.within_self _⟩
  | cons name rest ih =>
    have here : name ≠ ".." := fun same => plain (same ▸ List.mem_cons_self ..)
    have later : ".." ∉ rest := fun listed => plain (List.mem_cons_of_mem _ listed)
    obtain ⟨next, stepped, walks⟩ := walk_cons_eq_ok_iff.1 walked
    obtain ⟨walks, inside⟩ := ih later walks
    have passed : before.tree.lookup next ≠ none :=
      fun missing => old (Tree.lookup_eq_none_of_within missing inside)
    suffices first : before.step location name = .ok next ∧
        Location.within goal location = true from
      ⟨walk_cons_eq_ok_iff.2 ⟨next, first.1, walks⟩, first.2⟩
    have held := directory_of_step stepped
    unfold step at stepped ⊢
    simp only [held] at stepped
    cases last : LastStep.ofName name with
    | root | stay =>
      simp only [last, Except.ok.injEq] at stepped
      subst stepped
      cases there : before.tree.lookup location with
      | none => exact absurd there passed
      | some entry =>
        obtain rfl := Option.some.inj ((only.kept.lookup there).symm.trans held)
        exact ⟨rfl, inside⟩
    | up => exact absurd last (LastStep.ne_up_of_ne here)
    | into other =>
      simp only [last] at stepped
      split at stepped
      · cases stepped
      · next short =>
        split at stepped
        · cases stepped
        · cases stepped
          obtain ⟨entry, there⟩ := Option.ne_none_iff_exists'.1 passed
          have holder := Tree.lookup_dropLast there
          rw [List.dropLast_concat] at holder
          have below := Location.eq_append_of_within inside
          refine ⟨?_, ?_⟩
          · simp only [holder, if_neg short, if_neg passed]
          · rw [below, List.append_assoc]
            exact Location.within_append _ _

/-! ## Opening and making a file -/

/-- A walk over names and one more is a walk and a step. -/
theorem walk_concat (storage : Storage) (location : Location) (names : List String)
    (last : String) :
    storage.walk location (names ++ [last]) =
      match storage.walk location names with
      | .error error => .error error
      | .ok holder => storage.step holder last := by
  induction names generalizing location with
  | nil =>
    simp only [List.nil_append, walk]
    cases storage.step location last <;> rfl
  | cons name rest ih =>
    simp only [List.cons_append, walk]
    cases storage.step location name with
    | error _ => rfl
    | ok next => exact ih next

/-- What a location is that a step leads to, if it is a file: a name in a directory. -/
theorem step_eq_file {storage : Storage} {holder location : Location} {name : String}
    {object : ObjectId} (stepped : storage.step holder name = .ok location)
    (found : storage.tree.lookup location = some (.file object)) :
    storage.tree.lookup holder = some .directory ∧ LastStep.ofName name = .into name ∧
      ¬ Path.longestName < name.utf8ByteSize ∧ location = holder ++ [name] := by
  unfold step at stepped
  cases held : storage.tree.lookup holder with
  | none => simp only [held, reduceCtorEq] at stepped
  | some entry =>
    cases entry with
    | file _ => simp only [held, reduceCtorEq] at stepped
    | directory =>
      simp only [held] at stepped
      refine ⟨rfl, ?_⟩
      cases last : LastStep.ofName name with
      | root | stay =>
        simp only [last] at stepped
        cases stepped
        exact absurd (held.symm.trans found) nofun
      | up =>
        simp only [last] at stepped
        cases stepped
        exact absurd ((Tree.lookup_dropLast held).symm.trans found) nofun
      | into other =>
        obtain rfl := LastStep.ofName_eq_into last
        simp only [last] at stepped
        split at stepped
        · cases stepped
        · next short =>
          split at stepped
          · cases stepped
          · exact ⟨rfl, short, (Except.ok.inj stepped).symm⟩

/-- A path that leads to a file spells at least one name. -/
theorem names_ne_nil_of_walk {storage : Storage} {path : String} {location : Location}
    {object : ObjectId} (checked : Path.check path = .ok ())
    (walked : storage.walk (storage.startOf path) (Path.names path) = .ok location)
    (found : storage.tree.lookup location = some (.file object)) : Path.names path ≠ [] := by
  intro unnamed
  rw [unnamed] at walked
  by_cases absolute : Path.isAbsolute path = true
  · rw [startOf, if_pos absolute] at walked
    cases walked
    exact absurd (storage.tree.lookup_root.symm.trans found) nofun
  · refine Path.names_ne_nil (Bool.eq_false_iff.2 absolute) ?_ unnamed
    rintro rfl
    simp [Path.check, Path.hasNul] at checked

/-- What opening a file asks for. -/
theorem openFile_eq_ok_iff {storage : Storage} {path : String} {object : ObjectId} :
    storage.openFile path = .ok object ↔ Path.check path = .ok () ∧
      ∃ location, storage.walk (storage.startOf path) (Path.names path) = .ok location ∧
        storage.tree.lookup location = some (.file object) ∧ Path.endsInSlash path = false := by
  simp only [openFile_eq_ok_iff_locate, locate_eq_ok_iff, reduceCtorEq, false_or, exists_and_left]

/-- An existing file is opened as it is, whether or not it may be made. -/
theorem openOrCreateFile_of_openFile {storage : Storage} {path : String} {object : ObjectId}
    (opened : storage.openFile path = .ok object) :
    storage.openOrCreateFile path = .ok (object, storage) := by
  obtain ⟨checked, location, walked, found, plain⟩ := openFile_eq_ok_iff.1 opened
  have spelled := names_ne_nil_of_walk checked walked found
  rw [← List.dropLast_concat_getLast spelled, walk_concat] at walked
  cases held : storage.walk (storage.startOf path) (Path.names path).dropLast with
  | error _ => simp only [held, reduceCtorEq] at walked
  | ok holder =>
    simp only [held] at walked
    obtain ⟨directory, last, short, rfl⟩ := step_eq_file walked found
    simp only [openOrCreateFile, destination, checked, List.getLast?_eq_some_getLast spelled, held,
      directory, last, plain, Bool.false_eq_true, if_false, if_neg short, found]

/-- What a last step into a directory asks for. -/
theorem destination_eq_into {storage : Storage} {path name : String} {holder : Location}
    (leads : storage.destination path = .ok (holder, .into name)) :
    Path.check path = .ok () ∧ Path.names path = (Path.names path).dropLast ++ [name] ∧
      LastStep.ofName name = .into name ∧
      storage.walk (storage.startOf path) (Path.names path).dropLast = .ok holder ∧
      storage.tree.lookup holder = some .directory := by
  unfold destination at leads
  cases checked : Path.check path with
  | error _ => simp only [checked, reduceCtorEq] at leads
  | ok =>
    simp only [checked] at leads
    cases spelled : (Path.names path).getLast? with
    | none => simp [spelled] at leads
    | some last =>
      simp only [spelled] at leads
      cases walked : storage.walk (storage.startOf path) (Path.names path).dropLast with
      | error _ => simp only [walked, reduceCtorEq] at leads
      | ok reached =>
        simp only [walked] at leads
        cases held : storage.tree.lookup reached with
        | none => simp only [held, reduceCtorEq] at leads
        | some entry =>
          cases entry with
          | file _ => simp only [held, reduceCtorEq] at leads
          | directory =>
            simp only [held, Except.ok.injEq, Prod.mk.injEq] at leads
            obtain ⟨rfl, into⟩ := leads
            obtain rfl := LastStep.ofName_eq_into into
            obtain ⟨names, same⟩ := List.getLast?_eq_some_iff.1 spelled
            exact ⟨rfl, by rw [same, List.dropLast_concat], into, rfl, held⟩

/-- A name that a directory can hold, and what is there, if anything, is a file: this is what
opening or making a file asks for. -/
theorem openOrCreateFile_eq_ok {path : String} {object : ObjectId}
    (made : before.openOrCreateFile path = .ok (object, after)) :
    ∃ holder name, before.destination path = .ok (holder, .into name) ∧
      Path.endsInSlash path = false ∧ ¬ Path.longestName < name.utf8ByteSize ∧
      (before.tree.lookup (holder ++ [name]) = some (.file object) ∧ after = before ∨
        before.tree.lookup (holder ++ [name]) = none ∧ object = before.fresh ∧
          after = before.addFile (holder ++ [name])) := by
  unfold openOrCreateFile at made
  split at made
  · cases made
  · next holder name leads =>
    refine ⟨holder, name, leads, ?_⟩
    split at made
    · cases made
    · next plain =>
      split at made
      · cases made
      · next short =>
        refine ⟨Bool.eq_false_iff.2 plain, short, ?_⟩
        split at made
        · cases made
        · next found =>
          cases made
          exact .inl ⟨found, rfl⟩
        · next free =>
          cases made
          exact .inr ⟨free, rfl, rfl⟩
  · cases made

/-- A new file can be added where nothing is. -/
theorem accepts_file {storage : Storage} {holder : Location} {name : String}
    (held : storage.tree.lookup holder = some .directory)
    (free : storage.tree.lookup (holder ++ [name]) = none) :
    storage.tree.accepts (holder ++ [name]) (.file storage.fresh) = true := by
  refine Tree.accepts_iff.2 ⟨free, by rwa [List.dropLast_concat], .inr ?_⟩
  intro place listed
  exact storage.fresh_not_shared (Tree.mem_objects_iff.2 ⟨place, listed⟩)

/-- What was opened, or made, is what the path leads to from then on. -/
theorem openFile_of_openOrCreateFile {path : String} {object : ObjectId}
    (made : before.openOrCreateFile path = .ok (object, after)) :
    after.openFile path = .ok object ∧ NamesKept before after := by
  obtain ⟨holder, name, leads, plain, short, course⟩ := openOrCreateFile_eq_ok made
  obtain ⟨checked, spelled, into, walked, held⟩ := destination_eq_into leads
  have kept : NamesKept before after ∧
      after.tree.lookup (holder ++ [name]) = some (.file object) := by
    rcases course with ⟨found, rfl⟩ | ⟨free, rfl, rfl⟩
    · exact ⟨.refl _, found⟩
    · have accepted := accepts_file held free
      exact ⟨.addFile accepted, (Tree.lookup_add accepted _).trans (if_pos rfl)⟩
  obtain ⟨kept, found⟩ := kept
  refine ⟨openFile_eq_ok_iff.2 ⟨checked, holder ++ [name], ?_, found, plain⟩, kept⟩
  rw [spelled, walk_concat, kept.startOf_eq, walk_of_namesKept kept walked]
  simp only [step, kept.lookup held, into, if_neg short, found, reduceCtorEq, if_false]

/-! ## What was made is there -/

/-- A directory that was made is there. -/
theorem isDirectory_of_makeDirectory {path : String}
    (made : before.makeDirectory path = .ok after) : after.isDirectory path = true := by
  have kept := (onlyDirectories_of_makeDirectory made).kept
  unfold makeDirectory at made
  split at made
  · cases made
  · next holder name leads =>
    obtain ⟨checked, spelled, into, walked, held⟩ := destination_eq_into leads
    split at made
    · cases made
    · next short =>
      split at made
      · next free =>
        cases made
        have accepted : before.tree.accepts (holder ++ [name]) .directory = true :=
          Tree.accepts_iff.2 ⟨free, by rwa [List.dropLast_concat], .inl rfl⟩
        have found : (before.addDirectory (holder ++ [name])).tree.lookup (holder ++ [name]) =
            some .directory := (Tree.lookup_add accepted _).trans (if_pos rfl)
        unfold isDirectory locate
        rw [checked, spelled, kept.startOf_eq]
        simp only [walk_concat, walk_of_namesKept kept walked, step, kept.lookup held, into,
          if_neg short, found, reduceCtorEq, if_false]
      · cases made
  · cases made

/-- The first of the directories that were made is there. -/
theorem isDirectory_of_makeDirectoryChain {path : String} {holders : List String}
    (named : path ≠ "") (made : before.makeDirectoryChain (path :: holders) = (.ok (), after)) :
    after.isDirectory path = true := by
  -- An error is overlooked if the directory is there nevertheless.
  have overlooked {error : FileError} {storage : Storage}
      (tested : (if storage.isDirectory path then Except.ok () else .error error, storage) =
        (.ok (), after)) : after.isDirectory path = true := by
    split at tested
    · next there =>
      cases tested
      exact there
    · cases tested
  unfold makeDirectoryChain at made
  rw [if_neg named] at made
  split at made
  · next first =>
    cases made
    exact isDirectory_of_makeDirectory first
  · split at made
    · cases made
    · split at made
      · next second =>
        cases made
        exact isDirectory_of_makeDirectory second
      · exact overlooked made
  · exact overlooked made

/-- A directory is there once it and all on the way to it were made. -/
theorem isDirectory_of_makeDirectories {path : String} (named : path ≠ "")
    (made : before.makeDirectories path = (.ok (), after)) : after.isDirectory path = true := by
  obtain ⟨holders, chain⟩ : ∃ holders, Path.ancestors path = path :: holders := by
    unfold Path.ancestors Path.ancestorsUpTo
    cases Path.parent? path <;> exact ⟨_, rfl⟩
  unfold makeDirectories at made
  rw [chain] at made
  exact isDirectory_of_makeDirectoryChain named made

end Storage

end Heartbeat
