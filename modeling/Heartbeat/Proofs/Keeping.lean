import Heartbeat.Proofs.Adoption
import Heartbeat.Proofs.Creation
import Heartbeat.Proofs.Growing

/-!
# What opening a file for adoption keeps

An adoption opens a file, or makes it, and lengthens it if it is too short, before anything is
decided.  `Storage.Keeps` says what may come of that: nothing loses its name, whatever has a new
name is the file at the path, every file holds what it held with zero bytes added at the end, and
only the file at the path has any added.  That is so whether or not the file can be opened and
lengthened (`Storage.keeps_mapKeeping`), and what is mapped is the file as it was, lengthened
(`Storage.content_mapKeeping`).

No path but those that lead to that one file leads anywhere new (`Storage.Keeps.locate_cases`).
-/

set_option autoImplicit false

namespace Heartbeat

/-! ## Lengthened contents -/

namespace Content

/-- A content with as many zero bytes at the end as it lacks. -/
def lengthened (content : Content) (length : Nat) : Content :=
  if content.size < length then content.resize length else content

variable (content : Content) (length : Nat)

theorem size_lengthened : (content.lengthened length).size = max content.size length := by
  unfold lengthened
  split
  · rw [size_resize]
    omega
  · omega

theorem lengthens_lengthened : content.Lengthens (content.lengthened length) := by
  unfold lengthened
  split
  · next short => exact .resize (Nat.le_of_lt short)
  · exact .refl content

end Content

namespace Storage

/-! ## What may come of opening a file -/

/-- What a storage may be after a path was opened for adoption. -/
structure Keeps (path : String) (before after : Storage) : Prop where
  /-- Nothing loses its name. -/
  names : NamesKept before after
  /-- The named memories are the same. -/
  memories : after.memories = before.memories
  /-- No object is taken away. -/
  grows : before.Grows after
  /-- Whatever has a new name is a new file, and the path leads to it. -/
  news : ∀ {location : Location} {entry : Entry}, before.tree.lookup location = none →
    after.tree.lookup location = some entry →
    ∃ object, entry = .file object ∧ before.objects.size ≤ object ∧
      after.locate path = .ok (location, .file object)
  /-- Everything holds what it held, with zero bytes added at the end. -/
  longer : ∀ object, (before.content object).Lengthens (after.content object)
  /-- Nothing is added to anything but the file at the path. -/
  others : ∀ object, after.openFile path ≠ .ok object →
    after.content object = before.content object

namespace Keeps

variable {path : String} {before between after : Storage} {object : ObjectId}

theorem refl (storage : Storage) : Keeps path storage storage where
  names := .refl storage
  memories := rfl
  grows := .refl storage
  news free found := absurd (found.symm.trans free) nofun
  longer _ := .refl _
  others _ _ := rfl

theorem trans (first : Keeps path before between) (second : Keeps path between after) :
    Keeps path before after where
  names := first.names.trans second.names
  memories := second.memories.trans first.memories
  grows := first.grows.trans second.grows
  news {location entry} free found := by
    cases held : between.tree.lookup location with
    | none =>
      obtain ⟨object, same, made, leads⟩ := second.news held found
      exact ⟨object, same, Nat.le_trans first.grows made, leads⟩
    | some other =>
      obtain rfl := Option.some.inj ((second.names.lookup held).symm.trans found)
      obtain ⟨object, same, made, leads⟩ := first.news free held
      exact ⟨object, same, made, locate_of_namesKept second.names leads⟩
  longer object := (first.longer object).trans (second.longer object)
  others object elsewhere := by
    rw [second.others object elsewhere, first.others object]
    exact fun leads => elsewhere (openFile_of_namesKept second.names leads)

/-- Lengthening the file at the path. -/
theorem resize {length : Nat} (leads : before.openFile path = .ok object)
    (short : (before.content object).size ≤ length) :
    Keeps path before (before.modify object (·.resize length)) where
  names := .modify _ _ _
  memories := rfl
  grows := .modify _ _ _
  news free found := absurd (found.symm.trans free) nofun
  longer other := by
    rw [content_modify _ _ _ _ (made_of_openFile leads)]
    split
    · next same =>
      subst same
      exact .resize short
    · exact .refl _
  others other elsewhere := by
    refine content_modify_of_ne _ _ ?_
    rintro rfl
    exact elsewhere (openFile_of_namesKept (.modify _ _ _) leads)

/-- Opening or making the file at the path. -/
theorem openOrCreateFile (made : before.openOrCreateFile path = .ok (object, after)) :
    Keeps path before after := by
  obtain ⟨leads, kept⟩ := openFile_of_openOrCreateFile made
  obtain ⟨holder, name, into, _, _, ⟨_, rfl⟩ | ⟨free, rfl, rfl⟩⟩ := openOrCreateFile_eq_ok made
  · exact .refl _
  · obtain ⟨_, _, _, _, held⟩ := destination_eq_into into
    have accepted := accepts_file held free
    have added := Tree.lookup_add accepted
    have only {location : Location} (found : (before.addFile (holder ++ [name])).tree.lookup
        location = some (.file before.fresh)) : location = holder ++ [name] := by
      have there := (added location).symm.trans found
      split at there
      · next same => exact same
      · exact absurd (mem_objects_of_lookup there) before.fresh_not_shared
    refine ⟨kept, rfl, .addFile _ _, fun {location entry} none found => ?_, fun other => ?_,
      fun other _ => content_addFile_eq _ _ other⟩
    · have new := (added location).symm.trans found
      split at new
      · next same =>
        obtain rfl := Option.some.inj new
        obtain ⟨checked, place, walked, there, plain⟩ := openFile_eq_ok_iff.1 leads
        obtain rfl := (only there).trans same.symm
        exact ⟨_, rfl, Nat.le_refl _, locate_eq_ok_iff.2 ⟨checked, walked, there, .inr plain⟩⟩
      · exact absurd (new.symm.trans none) nofun
    · rw [content_addFile_eq]
      exact .refl _

/-- Every directory was there before. -/
theorem directory (keeps : Keeps path before after) {location : Location}
    (held : after.tree.lookup location = some .directory) :
    before.tree.lookup location = some .directory := by
  cases old : before.tree.lookup location with
  | none =>
    obtain ⟨_, same, _⟩ := keeps.news old held
    cases same
  | some entry => rw [← held, keeps.names.lookup old]

/-- A step to a place that was there before could be made before. -/
theorem step_eq_ok (keeps : Keeps path before after) {location next : Location} {name : String}
    (stepped : after.step location name = .ok next) (old : before.tree.lookup next ≠ none) :
    before.step location name = .ok next := by
  have held := keeps.directory (directory_of_step stepped)
  unfold step at stepped ⊢
  rw [held]
  rw [keeps.names.lookup held] at stepped
  cases last : LastStep.ofName name with
  | root | stay | up => simpa only [last] using stepped
  | into name =>
    simp only [last] at stepped ⊢
    split at stepped
    · cases stepped
    · next short =>
      split at stepped <;> cases stepped
      rw [if_neg short, if_neg old]

/-- A walk to a place that was there before could be made before. -/
theorem walk_eq_ok (keeps : Keeps path before after) {names : List String}
    {location goal : Location} (walked : after.walk location names = .ok goal)
    (old : before.tree.lookup goal ≠ none) : before.walk location names = .ok goal := by
  induction names generalizing location with
  | nil => exact walked
  | cons name rest ih =>
    obtain ⟨next, stepped, walks⟩ := walk_cons_eq_ok_iff.1 walked
    -- A place from which the walk goes on is a directory, and no directory is new.
    have passed : before.tree.lookup next ≠ none := by
      cases rest with
      | nil =>
        cases walks
        exact old
      | cons following _ =>
        rw [keeps.directory (directory_of_walk walks)]
        exact Option.some_ne_none _
    exact walk_cons_eq_ok_iff.2 ⟨next, keeps.step_eq_ok stepped passed, ih walks⟩

/-- No path but those that lead to the file at the path leads anywhere new. -/
theorem locate_cases (keeps : Keeps path before after) {other : String}
    {location : Location} {entry : Entry} (leads : after.locate other = .ok (location, entry)) :
    before.locate other = .ok (location, entry) ∨ after.locate path = .ok (location, entry) := by
  obtain ⟨checked, walked, found, plain⟩ := locate_eq_ok_iff.1 leads
  cases old : before.tree.lookup location with
  | none =>
    obtain ⟨object, rfl, _, new⟩ := keeps.news old found
    exact .inr new
  | some held =>
    obtain rfl := Option.some.inj ((keeps.names.lookup old).symm.trans found)
    refine .inl (locate_eq_ok_iff.2 ⟨checked, ?_, old, plain⟩)
    rw [← keeps.names.startOf_eq]
    exact keeps.walk_eq_ok walked (old ▸ Option.some_ne_none _)

end Keeps

/-! ## Mapping the beginning of a file -/

/-- What the file at a path holds, which is nothing if there is none. -/
def heldAt (storage : Storage) (path : String) : Content :=
  match storage.openFile path with
  | .error _ => .zeros 0
  | .ok object => storage.content object

variable {storage opened mapped : Storage} {path : String} {length : Nat} {region : Region}
  {object : ObjectId}

theorem heldAt_eq (leads : storage.openFile path = .ok object) :
    storage.heldAt path = storage.content object := by
  rw [heldAt, leads]

/-- A file that was opened holds what it held, and one that was made holds nothing. -/
theorem content_openOrCreateFile (made : storage.openOrCreateFile path = .ok (object, opened)) :
    opened.content object = storage.heldAt path := by
  obtain ⟨leads, kept⟩ := openFile_of_openOrCreateFile made
  cases before : storage.openFile path with
  | ok other =>
    have same : other = object :=
      Except.ok.inj ((openFile_of_namesKept kept before).symm.trans leads)
    have still := (openOrCreateFile_of_openFile before).symm.trans made
    cases still
    exact (heldAt_eq before).symm
  | error failure =>
    obtain ⟨_, _, _, _, _, ⟨_, rfl⟩ | ⟨_, rfl, rfl⟩⟩ := openOrCreateFile_eq_ok made
    · exact absurd (before.symm.trans leads) nofun
    · rw [content_addFile, heldAt, before]

/-- Mapping the beginning of a file does no damage, also if it fails. -/
theorem keeps_mapKeeping (storage : Storage) (path : String) (length : Nat) :
    Keeps path storage (storage.mapKeeping path length).2 := by
  unfold mapKeeping
  split
  · exact .refl _
  · split
    · exact .refl _
    · next object opened made =>
      have keeps : Keeps path storage opened := .openOrCreateFile (makeFile_eq_ok made)
      split
      · next short =>
        have leads := (openFile_of_openOrCreateFile (makeFile_eq_ok made)).1
        rcases opened.mapResized_snd object length with left | left <;> rw [left]
        · exact keeps
        · exact keeps.trans (.resize leads (Nat.le_of_lt short))
      · exact keeps

/-- A file that is given a length holds what it held, lengthened. -/
theorem heldAt_resize (leads : opened.openFile path = .ok object)
    (held : opened.content object = storage.heldAt path)
    (short : (opened.content object).size < length) :
    (opened.modify object (·.resize length)).heldAt path =
      (storage.heldAt path).lengthened length := by
  rw [heldAt_eq (openFile_of_namesKept (.modify _ _ _) leads),
    content_modify _ _ _ _ (made_of_openFile leads), if_pos rfl, ← held, Content.lengthened,
    if_pos short]

/-- Whatever comes of mapping the beginning of a file, it holds what it held, lengthened or not. -/
theorem heldAt_mapKeeping (storage : Storage) (path : String) (length : Nat) :
    (storage.mapKeeping path length).2.heldAt path = storage.heldAt path ∨
      (storage.mapKeeping path length).2.heldAt path = (storage.heldAt path).lengthened length := by
  unfold mapKeeping
  split
  · exact .inl rfl
  split
  · exact .inl rfl
  next object opened made =>
  have leads := (openFile_of_openOrCreateFile (makeFile_eq_ok made)).1
  have held := content_openOrCreateFile (makeFile_eq_ok made)
  have still : opened.heldAt path = storage.heldAt path := (heldAt_eq leads).trans held
  split
  · next short =>
    rcases opened.mapResized_snd object length with left | left <;> rw [left]
    · exact .inl still
    · exact .inr (heldAt_resize leads held short)
  · exact .inl still

/-- What is mapped is what the file held, lengthened. -/
theorem content_mapKeeping (maps : storage.mapKeeping path length = (.ok region, mapped)) :
    mapped.content region.object = (storage.heldAt path).lengthened length := by
  unfold mapKeeping at maps
  split at maps
  · cases maps
  split at maps
  · cases maps
  next object opened made =>
  have leads := (openFile_of_openOrCreateFile (makeFile_eq_ok made)).1
  have held := content_openOrCreateFile (makeFile_eq_ok made)
  split at maps
  · next short =>
    obtain ⟨-, rfl, rfl⟩ := mapResized_eq_ok maps
    have grown := heldAt_resize leads held short
    rwa [heldAt_eq (openFile_of_namesKept (.modify _ _ _) leads)] at grown
  · next long =>
    obtain ⟨begins, rfl⟩ := Prod.mk.inj maps
    obtain rfl := mapBeginning_eq_ok begins
    exact held.trans (if_neg (held ▸ long)).symm

/-- A file that cannot be given a length is as it was, and a file that no system gives that length
is refused for it. -/
theorem mapKeeping_of_unsizable (leads : storage.openFile path = .ok object)
    (short : (storage.content object).size < length)
    (unsizable : longestFile < length ∨ ¬ storage.system.Grants (.sizing object length)) :
    ∃ cause, storage.mapKeeping path length = (.error cause, storage) ∧
      (storage.system.Grants (.making path) → longestFile < length → cause = .lengthTooLarge) := by
  have positive : length ≠ 0 := Nat.ne_of_gt (Nat.lt_of_le_of_lt (Nat.zero_le _) short)
  cases made : storage.makeFile path with
  | error cause =>
    refine ⟨cause, mapKeeping_of_makeFile_error positive made, fun grants => ?_⟩
    have opens := (makeFile_of_grants grants).trans (openOrCreateFile_of_openFile leads)
    cases made.symm.trans opens
  | ok result =>
    obtain rfl : (object, storage) = result := Except.ok.inj
      ((openOrCreateFile_of_openFile leads).symm.trans (makeFile_eq_ok made))
    rw [mapKeeping_of_makeFile positive made, if_pos short]
    by_cases long : longestFile < length
    · exact ⟨_, mapResized_of_long long, fun _ _ => rfl⟩
    · obtain ⟨refusal, refused⟩ :=
        System.answer_of_not_grants (unsizable.resolve_left long)
      exact ⟨.turnedDown refusal, by rw [mapResized, if_neg long, refused],
        fun _ longer => absurd longer long⟩

end Storage

/-! ## An adoption keeps what is there -/

namespace Handshake

variable {handshake : Handshake} {path : String} {length : Nat} {environment : Environment}

/-- The two looks at a file come to an end after at most one reading of the clock. -/
theorem ends_requireStale {fields : ControlFields} (fit : fields.Fit) (handshake : Handshake)
    (path : String) (environment : Environment) :
    ∃ readings result after, readings ≤ 1 ∧
      (handshake.requireStale path fields : Activity Unit).run environment =
        .ofExcept result after ∧ after.world = environment.world.ticks readings := by
  rw [run_requireStale fit]
  cases handshake.checkPublished (fields.versionIn environment.storage) with
  | error refusal => exact ⟨0, .error (.refused refusal), _, Nat.zero_le 1, rfl, rfl⟩
  | ok =>
    dsimp only
    split
    · exact ⟨1, .error (.refused (.activeOwner path)), _, Nat.le_refl 1, rfl, rfl⟩
    · exact ⟨1, .ok (), _, Nat.le_refl 1, rfl, rfl⟩

/-- An adoption whose configuration will do comes to an end.  All that it does after it has mapped
the file is to read the clock at most once, and if the file cannot be mapped it does nothing more.
-/
theorem ends_createOrAdopt (fits : handshake.layout.checkMappedLength length = .ok ())
    (shouldPreExist : Bool) :
    ∃ readings result after, readings ≤ 1 ∧
      (handshake.createOrAdopt path length shouldPreExist : Activity Handle).run environment =
        .ofExcept result after ∧
      after.world = World.ticks
        ⟨environment.clock, (environment.storage.mapKeeping path length).2⟩ readings ∧
      ∀ cause, (environment.storage.mapKeeping path length).1 = .error cause →
        result = .error (.refused (.files "map cnc file" path cause)) ∧ readings = 0 := by
  rcases maps : environment.storage.mapKeeping path length with ⟨opened, mapped⟩
  cases opened with
  | error cause =>
    refine ⟨0, .error (.refused (.files "map cnc file" path cause)), _, Nat.zero_le 1,
      run_createOrAdopt_of_unmapped fits maps shouldPreExist, rfl, ?_⟩
    rintro _ ⟨⟩
    exact ⟨rfl, rfl⟩
  | ok region =>
    let handle : Handle :=
      ⟨handshake.layout, holdingDirectory path, some path, some ⟨region, .owned⟩, false⟩
    rw [run_createOrAdopt_of_mapped fits maps]
    cases shouldPreExist with
    | false => exact ⟨0, .ok handle, _, Nat.zero_le 1, rfl, rfl, nofun⟩
    | true =>
      obtain ⟨readings, result, after, few, ended, moved⟩ := ends_requireStale
        (fit_of_mapKeeping fits maps) handshake path
        (environment.inside ⟨environment.clock, mapped⟩)
      cases result with
      | error failure =>
        exact ⟨readings, .error failure, after, few, Activity.run_bind_of_failed _ ended, moved,
          nofun⟩
      | ok =>
        exact ⟨readings, .ok handle, after, few, Activity.run_bind_of_returned _ ended, moved,
          nofun⟩

/-- An adoption never damages a file.

However it ends, the storage that it leaves is that which it had prepared before it read the clock,
if it read it at all, after the acts of others at that one reading.  In what it had prepared every
path leads where it led, a path leads somewhere new only if it leads to the file at the path of the
adoption, every file has its bytes and possibly further ones that are zero, and only the file at the
path has any.

If the configuration will not do, nothing has changed.  If the file was mapped, its length is the
greater of the one that it had and the one asked for, and the bytes past the former are zero.  If it
was not, then that is the failure, nobody has looked at the clock, and the file is as it was or has
been lengthened before the system turned down its mapping.  And if an existing file cannot become as
long as it should, since no file can or since the system does not allow it, nothing has changed
either.

No file has two names here, since no links are modelled (`Tree.unshared`).  Whatever else is linked
to the file at the path shows what has been added to it, too. -/
theorem createOrAdopt_keeps_files (handshake : Handshake) (path : String) (length : Nat)
    (shouldPreExist : Bool) (environment : Environment) :
    let before := environment.storage
    let held := before.heldAt path
    ∃ left readings result after,
      (handshake.createOrAdopt path length shouldPreExist : Activity Handle).run environment =
        .ofExcept result after ∧
      readings ≤ 1 ∧ after.storage = left.afterActs (environment.clock.upcoming readings) ∧
      before.Keeps path left ∧
      (∀ other location entry, before.locate other = .ok (location, entry) →
        left.locate other = .ok (location, entry)) ∧
      (∀ other location entry, left.locate other = .ok (location, entry) →
        before.locate other = .ok (location, entry) ∨
          left.locate path = .ok (location, entry)) ∧
      (∀ failure, handshake.layout.checkMappedLength length = .error failure →
        result = .error failure ∧ after = environment) ∧
      (handshake.layout.checkMappedLength length = .ok () →
        left = (before.mapKeeping path length).2 ∧
        (∀ region, (before.mapKeeping path length).1 = .ok region →
          left.openFile path = .ok region.object ∧
          (left.content region.object).size = max held.size length ∧
          (∀ i, i < held.size → (left.content region.object).byte i = held.byte i) ∧
          ∀ i, held.size ≤ i → i < max held.size length →
            (left.content region.object).byte i = 0) ∧
        (∀ cause, (before.mapKeeping path length).1 = .error cause →
          result = .error (.refused (.files "map cnc file" path cause)) ∧ readings = 0 ∧
          (left.heldAt path = held ∨ left.heldAt path = held.lengthened length)) ∧
        ∀ object, before.openFile path = .ok object → (before.content object).size < length →
          longestFile < length ∨ ¬ before.system.Grants (.sizing object length) →
          ∃ cause, result = .error (.refused (.files "map cnc file" path cause)) ∧
            after = environment ∧
            (before.system.Grants (.making path) → longestFile < length →
              cause = .lengthTooLarge)) := by
  intro before held
  cases fits : handshake.layout.checkMappedLength length with
  | error failure =>
    refine ⟨before, 0, .error failure, environment, run_createOrAdopt_of_unfit fits,
      Nat.zero_le 1, rfl, .refl _, fun _ _ _ => id, fun _ _ _ => .inl, ?_, nofun⟩
    intro _ same
    cases same
    exact ⟨rfl, rfl⟩
  | ok =>
    obtain ⟨readings, result, after, few, ended, moved, fails⟩ :=
      @ends_createOrAdopt handshake path length environment fits shouldPreExist
    have keeps := before.keeps_mapKeeping path length
    refine ⟨(before.mapKeeping path length).2, readings, result, after, ended, few, ?_, keeps,
      fun _ _ _ => Storage.locate_of_namesKept keeps.names, fun _ _ _ => keeps.locate_cases,
      nofun, fun _ => ⟨rfl, ?_, ?_, ?_⟩⟩
    · exact (congrArg World.storage moved).trans (World.storage_ticks _ _)
    · intro region succeeded
      have maps : before.mapKeeping path length =
          (.ok region, (before.mapKeeping path length).2) := Prod.ext succeeded rfl
      obtain ⟨object, rfl, leads⟩ := Storage.mapKeeping_eq_ok maps
      have content := Storage.content_mapKeeping maps
      have longer := held.lengthens_lengthened length
      rw [content]
      refine ⟨leads, held.size_lengthened length, longer.same, fun i past within => ?_⟩
      exact longer.zero i past ((held.size_lengthened length).symm ▸ within)
    · intro cause unmapped
      obtain ⟨refused, quiet⟩ := fails cause unmapped
      exact ⟨refused, quiet, before.heldAt_mapKeeping path length⟩
    · intro object leads short unsizable
      obtain ⟨cause, unmapped, tooLong⟩ := Storage.mapKeeping_of_unsizable leads short unsizable
      have same : Outcome.ofExcept result after =
          .failed (.refused (.files "map cnc file" path cause)) environment :=
        ended.symm.trans (run_createOrAdopt_of_unmapped fits unmapped shouldPreExist)
      cases result with
      | ok handle => cases same
      | error failure =>
        cases same
        exact ⟨cause, rfl, rfl, tooLong⟩

/-- The owner of a file of 16 bytes is alive, so an adoption with 32 bytes is refused, and the file
has 32 bytes all the same, the last 16 of them zero.  With more bytes than a file can have, nothing
happens to it. -/
theorem createOrAdopt_keeps_files_owned :
    let environment : Environment := ⟨.ticking 120 1, .owned, []⟩
    (∃ result after, (ofOwned.createOrAdopt "/run/cnc" 32 true : Activity Handle).run environment =
        .ofExcept result after ∧
      after.storage.openFile "/run/cnc" = .ok 0 ∧ (after.storage.content 0).size = 32 ∧
      (after.storage.content 0).byte 8 = 100 ∧
      ∀ i, 16 ≤ i → i < 32 → (after.storage.content 0).byte i = 0) ∧
    (ofOwned.createOrAdopt "/run/cnc" (longestFile + 1) true : Activity Handle).run environment =
      .failed (.refused (.files "map cnc file" "/run/cnc" .lengthTooLarge)) environment := by
  intro environment
  have fits (length : Nat) (room : 16 ≤ length) :
      ofOwned.layout.checkMappedLength length = .ok () :=
    Layout.checkMappedLength_eq_ok_iff.2 ⟨by decide, room, by decide, by decide⟩
  constructor
  · obtain ⟨left, readings, result, after, ended, _, stored, _, _, _, _, mapped⟩ :=
      createOrAdopt_keeps_files ofOwned "/run/cnc" 32 true environment
    obtain ⟨leads, size, same, zero⟩ := (mapped (fits 32 (by decide))).2.1 (.mapping 0 0 32) rfl
    have quiet : environment.clock.upcoming readings = [] :=
      List.flatMap_eq_nil_iff.2 fun _ _ => rfl
    rw [quiet, Storage.afterActs_nil] at stored
    rw [← stored] at leads size same zero
    exact ⟨result, after, ended, leads, size, same 8 (by decide), zero⟩
  · obtain ⟨_, _, _, _, ended, _, _, _, _, _, _, mapped⟩ :=
      createOrAdopt_keeps_files ofOwned "/run/cnc" (longestFile + 1) true environment
    obtain ⟨cause, rfl, rfl, tooLong⟩ := (mapped (fits _ (by decide))).2.2.2 0 rfl (by decide)
      (.inl (Nat.lt_succ_self _))
    obtain rfl := tooLong rfl (Nat.lt_succ_self _)
    exact ended

end Handshake

end Heartbeat
