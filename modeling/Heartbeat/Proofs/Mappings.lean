import Heartbeat.Proofs.Renewal
import Heartbeat.Proofs.Spans

/-!
# What mappings keep and share

An operation that makes files finds nothing at a path in an existing directory, or a file with its
bytes (`Storage.Finds`).  A mapping that keeps them leaves a file of at least the length asked for
that begins with them and ends in zeros, and a new mapping leaves zeros only; both show the
beginning of what they leave, and to map the file again shows all of it (`Region.ShowsFirst`).

Files are mapped any number of times and in any order, and bytes are stored through every mapping.
A step either stores bytes in one object, or it makes one object anew, or it leaves in every object
all bytes that are there (`Mappings.Holds.perform`).  So a byte that was stored is what every
mapping of the file loads until it is overwritten or the file is made anew.

The system may turn down every mapping.  One that keeps what is there may then have lengthened the
file already, but it never takes a byte away (`Storage.kept_of_mapKeeping_eq_error`,
`Mappings.keeping_lengthens_unmapped`).
-/

set_option autoImplicit false

namespace Heartbeat

/-! ## Lengthened files -/

namespace Content

theorem getElem_bytes (content : Content) {i : Nat} (here : i < content.bytes.length) :
    content.bytes[i] = content.byte i := by
  simp only [bytes, read, List.getElem_map, List.getElem_range, Nat.zero_add]

/-- What is added to a content at the end is zeros. -/
theorem bytes_lengthened (content : Content) (length : Nat) :
    (content.lengthened length).bytes =
      content.bytes ++ List.replicate (length - content.bytes.length) 0 := by
  have longer := lengthens_lengthened content length
  apply List.ext_getElem
  · rw [length_bytes, size_lengthened, List.length_append, List.length_replicate, length_bytes]
    omega
  · intro i here _
    rw [getElem_bytes, List.getElem_append]
    rw [length_bytes] at here
    split
    · next old =>
      rw [getElem_bytes, longer.same i (length_bytes content ▸ old)]
    · next new =>
      rw [List.getElem_replicate, longer.zero i (Nat.not_lt.1 (length_bytes content ▸ new)) here]

end Content

/-! ## What is found at a path -/

namespace Storage

variable {storage opened after : Storage} {path : String} {object : ObjectId} {length : Nat}

/-- What an operation that makes files finds at a path in an existing directory. -/
inductive Finds (storage : Storage) (path : String) : Option (List UInt8) → Prop
  /-- Nothing, and a file can be made. -/
  | nothing {holder : Location} {name : String}
      (into : storage.destination path = .ok (holder, .into name))
      (plain : Path.endsInSlash path = false) (short : name.utf8ByteSize ≤ Path.longestName)
      (free : storage.tree.lookup (holder ++ [name]) = none) : Finds storage path none
  /-- A file with its bytes. -/
  | file {bytes : List UInt8} (held : storage.fileBytes path = .ok bytes) :
      Finds storage path (some bytes)

/-- A file that was not made just now was opened. -/
theorem openFile_of_old (made : storage.openOrCreateFile path = .ok (object, opened))
    (old : object < storage.objects.size) : storage.openFile path = .ok object := by
  have leads := (openFile_of_openOrCreateFile made).1
  obtain ⟨_, _, _, _, _, ⟨_, rfl⟩ | ⟨_, rfl, rfl⟩⟩ := openOrCreateFile_eq_ok made
  · exact leads
  · exact absurd old (Nat.lt_irrefl _)

/-- Where something is found, a file is opened or made that holds what was found. -/
theorem Finds.opens {found : Option (List UInt8)} (finds : storage.Finds path found) :
    ∃ object opened, storage.openOrCreateFile path = .ok (object, opened) ∧
      (storage.heldAt path).bytes = found.getD [] := by
  cases finds with
  | @nothing holder name into plain short free =>
    have made : storage.openOrCreateFile path =
        .ok (storage.fresh, storage.addFile (holder ++ [name])) := by
      simp only [openOrCreateFile, into, plain, Bool.false_eq_true, if_false,
        if_neg (Nat.not_lt.2 short), free]
    refine ⟨_, _, made, ?_⟩
    rw [← content_openOrCreateFile made, content_addFile]
    rfl
  | file held =>
    obtain ⟨object, leads, rfl⟩ := fileBytes_eq_ok_iff.1 held
    exact ⟨object, storage, openOrCreateFile_of_openFile leads,
      congrArg Content.bytes (heldAt_eq leads)⟩

/-- A file is opened or made exactly where something is found. -/
theorem exists_finds_iff :
    (∃ found, storage.Finds path found) ↔
      ∃ object opened, storage.openOrCreateFile path = .ok (object, opened) := by
  constructor
  · rintro ⟨found, finds⟩
    obtain ⟨object, opened, made, -⟩ := finds.opens
    exact ⟨object, opened, made⟩
  · rintro ⟨object, opened, made⟩
    have leads := (openFile_of_openOrCreateFile made).1
    obtain ⟨_, _, into, plain, short, ⟨_, rfl⟩ | ⟨free, -, -⟩⟩ := openOrCreateFile_eq_ok made
    · exact ⟨_, .file (fileBytes_eq_ok_iff.2 ⟨object, leads, rfl⟩)⟩
    · exact ⟨none, .nothing into plain (Nat.not_lt.1 short) free⟩

end Storage

/-! ## What the openings leave -/

/-- A mapping of the first bytes of the file at a path, of which all bytes are known. -/
structure Region.ShowsFirst (region : Region) (storage : Storage) (path : String)
    (bytes : List UInt8) (length : Nat) : Prop where
  /-- It is the file that is in view. -/
  leads : storage.openFile path = .ok region.object
  /-- It is in view from its beginning. -/
  start : region.start = 0
  /-- As many bytes are in view as were asked for. -/
  capacity : region.capacity = length
  /-- What the file holds. -/
  file : storage.fileBytes path = .ok bytes
  /-- The length of the file. -/
  size : storage.sizeOf? path = some bytes.length
  /-- The mapping shows the first bytes. -/
  shows : region.loadBytes storage 0 length = .ok (bytes.take length)
  /-- To map the file as it is shows all of it. -/
  whole : ∃ whole, (Opening.whole path).perform storage = (.ok (.ok whole), storage) ∧
    whole.capacity = bytes.length ∧ whole.loadBytes storage 0 bytes.length = .ok bytes

namespace Storage

variable {storage opened after : Storage} {path : String} {object : ObjectId} {length : Nat}

/-- What is loaded from the beginning of a file. -/
theorem loadBytes_mapping (storage : Storage) (object : ObjectId)
    (within : length ≤ (storage.content object).size) :
    (Region.mapping object 0 length).loadBytes storage 0 length =
      .ok ((storage.content object).bytes.take length) := by
  have fits : 0 + length ≤ (Region.mapping object 0 length).capacity :=
    Nat.le_of_eq (Nat.zero_add length)
  have shown := (Region.bytes_mapping_of_within storage object
    (Nat.le_trans (Nat.le_of_eq (Nat.zero_add length)) within))
  rw [Region.loadBytes_eq, if_neg (Nat.not_lt.2 fits), List.drop_zero, shown, List.drop_zero,
    List.take_take, Nat.min_self]

/-- A mapping of no more than a file has shows its first bytes. -/
theorem showsFirst_mapping (leads : storage.openFile path = .ok object)
    (within : length ≤ (storage.content object).size) :
    (Region.mapping object 0 length).ShowsFirst storage path (storage.content object).bytes
      length := by
  refine ⟨leads, rfl, rfl, fileBytes_eq_ok_iff.2 ⟨object, leads, rfl⟩, ?_,
    loadBytes_mapping storage object within, .mapping object 0 (storage.content object).size, ?_⟩
  · rw [sizeOf?_of_openFile leads, Content.length_bytes]
  · refine ⟨Prod.ext ?_ rfl, (Content.length_bytes _).symm, ?_⟩
    · simp only [Opening.perform, mapWhole, leads]
    · rw [Content.length_bytes, loadBytes_mapping storage object (Nat.le_refl _),
        List.take_of_length_le (Nat.le_of_eq (Content.length_bytes _))]

/-- What a new mapping comes to once its file is open. -/
theorem mapNew_of_makeFile (made : storage.makeFile path = .ok (object, opened))
    (positive : length ≠ 0) :
    storage.mapNew path length = (opened.modify object (·.resize 0)).mapResized object length := by
  simp only [mapNew, if_neg positive, openEmptied, made]

/-- A new mapping takes nothing away, and of the objects that were there it changes only the one
that its path leads to. -/
theorem mapNew_spares (storage : Storage) (path : String) (length : Nat) :
    storage.Grows (storage.mapNew path length).2 ∧
      NamesKept storage (storage.mapNew path length).2 ∧
      ∀ object, object < storage.objects.size →
        ¬ (length ≠ 0 ∧ storage.openFile path = .ok object) →
        (storage.mapNew path length).2.content object = storage.content object := by
  by_cases positive : length = 0
  · rw [positive]
    exact ⟨.refl _, .refl _, fun _ _ _ => rfl⟩
  cases makes : storage.makeFile path with
  | error error =>
    have fails : storage.mapNew path length = (.error error, storage) := by
      simp only [Storage.mapNew, if_neg positive, openEmptied, makes]
    rw [fails]
    exact ⟨.refl _, .refl _, fun _ _ _ => rfl⟩
  | ok result =>
    obtain ⟨file, opened⟩ := result
    have made := makeFile_eq_ok makes
    have grown : storage.Grows opened := .of_altered (.openOrCreateFile made)
    have kept := (openFile_of_openOrCreateFile made).2
    have apart : ∀ object, object < storage.objects.size →
        ¬ (length ≠ 0 ∧ storage.openFile path = .ok object) → object ≠ file := by
      rintro _ old spared rfl
      exact spared ⟨positive, openFile_of_old made old⟩
    rw [mapNew_of_makeFile makes positive]
    rcases mapResized_snd (opened.modify file (·.resize 0)) file length with left | left <;>
      rw [left]
    · refine ⟨grown.trans (.modify _ _ _), kept.trans (.modify _ _ _), fun object old spared => ?_⟩
      rw [content_modify_of_ne _ _ (apart object old spared),
        content_eq_of_openOrCreateFile made]
    · refine ⟨grown.trans (.trans (.modify _ _ _) (.modify _ _ _)),
        kept.trans (.trans (.modify _ _ _) (.modify _ _ _)), fun object old spared => ?_⟩
      rw [content_modify_of_ne _ _ (apart object old spared),
        content_modify_of_ne _ _ (apart object old spared), content_eq_of_openOrCreateFile made]

/-- The system lets the file at a path be opened or made, be given a length, and be mapped. -/
structure GrantsLength (storage : Storage) (path : String) (length : Nat) : Prop where
  /-- The file may be opened or made. -/
  opens : storage.system.Grants (.making path)
  /-- It may be given the length. -/
  sizes : ∀ {object : ObjectId} {opened : Storage},
    storage.openOrCreateFile path = .ok (object, opened) →
      storage.system.Grants (.sizing object length)
  /-- It may be mapped. -/
  maps : ∀ {object : ObjectId} {opened : Storage},
    storage.openOrCreateFile path = .ok (object, opened) →
      storage.system.Grants (.mapping object length)

/-- To open a file or to make it is not to ask another system. -/
theorem system_openOrCreateFile (made : storage.openOrCreateFile path = .ok (object, opened)) :
    opened.system = storage.system := by
  obtain ⟨_, _, _, _, _, ⟨_, rfl⟩ | ⟨_, _, rfl⟩⟩ := openOrCreateFile_eq_ok made <;> rfl

/-- A new mapping leaves a file of zeros. -/
theorem Finds.mapNew {found : Option (List UInt8)} (finds : storage.Finds path found)
    (positive : length ≠ 0) (short : length ≤ longestFile)
    (granted : storage.GrantsLength path length) :
    ∃ region after, (Opening.new path length).perform storage = (.ok (.ok region), after) ∧
      region.ShowsFirst after path (List.replicate length 0) length := by
  obtain ⟨object, opened, made, -⟩ := finds.opens
  have leads := (openFile_of_openOrCreateFile made).1
  have exists' := made_of_openFile leads
  have system := system_openOrCreateFile made
  have resized : (opened.modify object (·.resize 0)).mapResized object length = _ :=
    mapResized_of_grants short (system ▸ granted.sizes made) (system ▸ granted.maps made)
  have maps : storage.mapNew path length = (.ok (.mapping object 0 length), _) :=
    (mapNew_of_makeFile ((makeFile_of_grants granted.opens).trans made) positive).trans resized
  refine ⟨_, _, congrArg (Prod.map Except.ok id) maps, ?_⟩
  -- The file is emptied first, and then every byte of it is new.
  have content : ((opened.modify object (·.resize 0)).modify object
      (·.resize length)).content object = ((opened.content object).resize 0).resize length := by
    rw [content_modify _ _ _ _ (Nat.lt_of_lt_of_le exists' (Grows.modify _ _ _)), if_pos rfl,
      content_modify _ _ _ _ exists', if_pos rfl]
  have zeros : (((opened.content object).resize 0).resize length).bytes =
      List.replicate length 0 := by
    refine Content.read_of_zero (fun i => ?_) 0 length
    simp [Content.byte_resize]
  have shows := showsFirst_mapping
    (openFile_of_namesKept ((NamesKept.modify _ _ _).trans (.modify _ _ _)) leads)
    (Nat.le_of_eq (congrArg Content.size content).symm)
  rwa [content, zeros] at shows

/-- A mapping that keeps what a file holds leaves it, with zeros at the end. -/
theorem Finds.mapKeeping {found : Option (List UInt8)} (finds : storage.Finds path found)
    (positive : length ≠ 0) (short : length ≤ longestFile)
    (granted : storage.GrantsLength path length) :
    ∃ region after, (Opening.keeping path length).perform storage = (.ok (.ok region), after) ∧
      region.ShowsFirst after path
        (found.getD [] ++ List.replicate (length - (found.getD []).length) 0) length := by
  obtain ⟨object, opened, made, held⟩ := finds.opens
  have system := system_openOrCreateFile made
  obtain ⟨region, after, maps⟩ : ∃ region after,
      storage.mapKeeping path length = (.ok region, after) := by
    rw [mapKeeping_of_makeFile positive ((makeFile_of_grants granted.opens).trans made)]
    split
    · exact ⟨_, _, mapResized_of_grants short (system ▸ granted.sizes made)
        (system ▸ granted.maps made)⟩
    · exact ⟨_, _, Prod.ext (mapBeginning_of_grants (system ▸ granted.maps made)) rfl⟩
  refine ⟨region, after, congrArg (Prod.map Except.ok id) maps, ?_⟩
  have content := content_mapKeeping maps
  obtain ⟨file, rfl, leads⟩ := mapKeeping_eq_ok maps
  change after.content file = _ at content
  have long : length ≤ (after.content file).size := by
    rw [content, Content.size_lengthened]
    exact Nat.le_max_right _ _
  have shows := showsFirst_mapping leads long
  rwa [content, Content.bytes_lengthened, held] at shows

/-- A mapping that keeps what files hold keeps it also if it fails.  Every file is as it was, except
that the one that was to be mapped has its new length if it is the mapping that was turned down. -/
theorem kept_of_mapKeeping_eq_error {error : FileError}
    (fails : storage.mapKeeping path length = (.error error, after)) {file : String}
    {bytes : List UInt8} (held : storage.fileBytes file = .ok bytes) :
    (after.fileBytes file = .ok bytes ∧ after.sizeOf? file = some bytes.length) ∨
      ∃ object, storage.openFile file = .ok object ∧ storage.openFile path = .ok object ∧
        bytes.length < length ∧ length ≤ longestFile ∧
        ¬ storage.system.Grants (.mapping object length) ∧
        after.fileBytes file = .ok (bytes ++ List.replicate (length - bytes.length) 0) := by
  obtain ⟨object, leads, rfl⟩ := fileBytes_eq_ok_iff.1 held
  have names := (keeps_mapKeeping storage path length).names
  rw [fails] at names
  have still := openFile_of_namesKept names leads
  have unchanged (same : after.content object = storage.content object) :
      after.fileBytes file = .ok (storage.content object).bytes ∧
        after.sizeOf? file = some (storage.content object).bytes.length := by
    rw [fileBytes_eq_ok_iff, sizeOf?_of_openFile still, same, Content.length_bytes]
    exact ⟨⟨object, still, congrArg _ same.symm⟩, rfl⟩
  by_cases positive : length = 0
  · rw [Storage.mapKeeping, if_pos positive] at fails
    cases fails
    exact .inl (unchanged rfl)
  cases makes : storage.makeFile path with
  | error _ =>
    rw [mapKeeping_of_makeFile_error positive makes] at fails
    cases fails
    exact .inl (unchanged rfl)
  | ok result =>
    obtain ⟨other, opened⟩ := result
    have made := makeFile_eq_ok makes
    have kept := content_eq_of_openOrCreateFile made object
    rw [mapKeeping_of_makeFile positive makes] at fails
    split at fails
    · next short =>
      rcases mapResized_eq_error fails with rfl | ⟨possible, refused, rfl⟩
      · exact .inl (unchanged kept)
      by_cases apart : object = other
      · -- The file was there, so it was opened and not made.
        subst apart
        have found := openFile_of_old made (made_of_openFile leads)
        rw [kept] at short
        rw [system_openOrCreateFile made] at refused
        refine .inr ⟨object, leads, found, ?_, possible, refused, ?_⟩
        · rwa [Content.length_bytes]
        · have grown := Content.bytes_lengthened (storage.content object) length
          rw [Content.lengthened, if_pos short] at grown
          refine fileBytes_eq_ok_iff.2 ⟨object, still, grown.symm.trans ?_⟩
          rw [content_modify _ _ _ _ (made_of_openFile
            (openFile_of_openOrCreateFile made).1), if_pos rfl, kept]
      · exact .inl (unchanged ((content_modify_of_ne _ _ apart).trans kept))
    · obtain ⟨-, rfl⟩ := Prod.mk.inj fails
      exact .inl (unchanged kept)

end Storage

namespace Opening

variable {storage : Storage} {object : ObjectId}

/-- An opening makes an existing file anew. -/
def Renews (storage : Storage) (object : ObjectId) : Opening → Prop
  | new path length => length ≠ 0 ∧ storage.openFile path = .ok object
  | _ => False

/-- The path of the file. -/
def path : Opening → String
  | new path _ | keeping path _ | whole path | span path _ _ => path

/-- An opening takes nothing away. -/
theorem kept_perform (opening : Opening) (storage : Storage) :
    storage.Grows (opening.perform storage).2 ∧
      storage.NamesKept (opening.perform storage).2 := by
  cases opening with
  | new path length =>
    obtain ⟨grows, kept, -⟩ := storage.mapNew_spares path length
    exact ⟨grows, kept⟩
  | keeping path length =>
    have keeps := storage.keeps_mapKeeping path length
    exact ⟨keeps.grows, keeps.names⟩
  | whole path => exact ⟨.refl _, .refl _⟩
  | span path offset length => exact ⟨.refl _, .refl _⟩

/-- An opening lengthens every object that it does not make anew, or leaves it as it is. -/
theorem lengthens_perform {opening : Opening} (made : object < storage.objects.size)
    (spared : ¬ opening.Renews storage object) :
    (storage.content object).Lengthens ((opening.perform storage).2.content object) := by
  cases opening with
  | new path length =>
    have same : ((Opening.new path length).perform storage).2.content object = _ :=
      (storage.mapNew_spares path length).2.2 object made spared
    rw [same]
    exact .refl _
  | keeping path length => exact (storage.keeps_mapKeeping path length).longer object
  | whole path => exact .refl _
  | span path offset length => exact .refl _

/-- The path of an opening leads to what is mapped. -/
theorem openFile_of_perform {opening : Opening} {region : Region}
    (maps : (opening.perform storage).1 = .ok (.ok region)) :
    (opening.perform storage).2.openFile opening.path = .ok region.object := by
  cases opening with
  | new path length => exact Storage.openFile_of_mapNew (Prod.ext (Except.ok.inj maps) rfl)
  | keeping path length =>
    obtain ⟨object, rfl, leads⟩ := Storage.mapKeeping_eq_ok (Prod.ext (Except.ok.inj maps) rfl)
    exact leads
  | whole path => exact Storage.openFile_of_mapWhole (Except.ok.inj maps)
  | span path offset length => exact Storage.openFile_of_mapSpan maps

end Opening

/-! ## Files that are mapped many times -/

/-- Every load of bytes that takes in an offset of an object shows a byte there. -/
def Region.Reads (region : Region) (storage : Storage) (offset : Nat) (byte : UInt8) : Prop :=
  ∀ first length, first + length ≤ region.capacity → region.start + first ≤ offset →
    offset < region.start + first + length →
    ∃ bytes, region.loadBytes storage first length = .ok bytes ∧
      bytes[offset - (region.start + first)]? = some byte

/-- Files, and what was mapped of them, the earliest mapping first. -/
structure Mappings where
  /-- The files. -/
  storage : Storage
  /-- The mappings. -/
  regions : List Region

namespace Mappings

/-- Something that is done with files and mappings. -/
inductive Step where
  /-- A file is mapped. -/
  | opens (opening : Opening)
  /-- A call is made through a mapping. -/
  | calls (mapping : Nat) (call : Region.Call)
  /-- What the system grants becomes another. -/
  | becomes (system : System)

/-- Makes a step.  One that fails opens no mapping and stores nothing. -/
def perform (mappings : Mappings) : Step → Mappings
  | .opens opening =>
    match opening.perform mappings.storage with
    | (.ok (.ok region), after) => ⟨after, mappings.regions ++ [region]⟩
    | (_, after) => ⟨after, mappings.regions⟩
  | .calls mapping call =>
    match mappings.regions[mapping]? with
    | none => mappings
    | some region =>
      match call.perform region mappings.storage with
      | .ok (_, after) => ⟨after, mappings.regions⟩
      | .error _ => mappings
  | .becomes system => ⟨mappings.storage.under system, mappings.regions⟩

/-- Makes steps, the first one first. -/
def performAll (mappings : Mappings) (steps : List Step) : Mappings := steps.foldl perform mappings

/-- A step stores a byte at an offset of an object. -/
inductive Stores (mappings : Mappings) : Step → ObjectId → Nat → UInt8 → Prop
  | intro {mapping : Nat} {call : Region.Call} {region : Region} {reply : Region.Reply}
      {next : Storage} {patch : Patch} {position : Nat} {byte : UInt8}
      (mapped : mappings.regions[mapping]? = some region)
      (performs : call.perform region mappings.storage = .ok (reply, next))
      (stores : call.patch? = some patch) (puts : patch.byte? position = some byte) :
      Stores mappings (.calls mapping call) region.object (region.start + position) byte

/-- A step stores a byte at an offset of an object, or makes the object anew. -/
inductive Disturbs (mappings : Mappings) (object : ObjectId) (offset : Nat) : Step → Prop
  | overwrites {step : Step} {byte : UInt8} (stores : mappings.Stores step object offset byte) :
      Disturbs mappings object offset step
  | renews {opening : Opening} (renews : opening.Renews mappings.storage object) :
      Disturbs mappings object offset (.opens opening)

/-- No step of some disturbs a byte of an object. -/
def Undisturbed (object : ObjectId) (offset : Nat) : Mappings → List Step → Prop
  | _, [] => True
  | mappings, step :: rest =>
    ¬ mappings.Disturbs object offset step ∧
      Undisturbed object offset (mappings.perform step) rest

/-! ### What steps keep -/

/-- Every object of which there is a mapping was made. -/
def Sound (mappings : Mappings) : Prop :=
  ∀ region ∈ mappings.regions, region.object < mappings.storage.objects.size

/-- An object has a byte at an offset. -/
structure Holds (object : ObjectId) (offset : Nat) (byte : UInt8) (mappings : Mappings) :
    Prop where
  /-- There is the object. -/
  made : object < mappings.storage.objects.size
  /-- The offset is within it. -/
  inside : offset < (mappings.storage.content object).size
  /-- The byte is there. -/
  held : (mappings.storage.content object).byte offset = byte

variable {mappings : Mappings} {step : Step} {object : ObjectId} {offset : Nat} {byte : UInt8}

theorem storage_opens (mappings : Mappings) (opening : Opening) :
    (mappings.perform (.opens opening)).storage = (opening.perform mappings.storage).2 := by
  rw [perform]
  split
  · next opened => rw [opened]
  · next opened => rw [opened]

/-- What is mapped after an opening was mapped before, or just now. -/
theorem mem_regions_opens {opening : Opening} {region : Region}
    (listed : region ∈ (mappings.perform (.opens opening)).regions) :
    region ∈ mappings.regions ∨ (opening.perform mappings.storage).1 = .ok (.ok region) := by
  rw [perform] at listed
  split at listed
  · next opened =>
    rcases List.mem_append.1 listed with earlier | new
    · exact .inl earlier
    · exact .inr (List.mem_singleton.1 new ▸ congrArg Prod.fst opened)
  · exact .inl listed

theorem perform_calls {mapping : Nat} {call : Region.Call} {region : Region}
    {reply : Region.Reply} {next : Storage} (mapped : mappings.regions[mapping]? = some region)
    (performs : call.perform region mappings.storage = .ok (reply, next)) :
    mappings.perform (.calls mapping call) =
      ⟨region.patched mappings.storage call.patch?, mappings.regions⟩ := by
  simp only [perform, mapped, performs, (Region.Call.perform_eq_ok performs).2.2.2]

/-- A call stores what it has to store, or nothing is done. -/
theorem perform_calls_cases (mappings : Mappings) (mapping : Nat) (call : Region.Call) :
    mappings.perform (.calls mapping call) = mappings ∨
      ∃ region reply next, mappings.regions[mapping]? = some region ∧
        call.perform region mappings.storage = .ok (reply, next) := by
  cases mapped : mappings.regions[mapping]? with
  | none => exact .inl (by simp only [perform, mapped])
  | some region =>
    cases performs : call.perform region mappings.storage with
    | error fault => exact .inl (by simp only [perform, mapped, performs])
    | ok result => exact .inr ⟨region, result.1, result.2, rfl, performs⟩

/-- No step takes anything away. -/
theorem kept_perform (mappings : Mappings) (step : Step) :
    mappings.storage.Grows (mappings.perform step).storage ∧
      mappings.storage.NamesKept (mappings.perform step).storage := by
  cases step with
  | opens opening =>
    rw [storage_opens]
    exact opening.kept_perform mappings.storage
  | calls mapping call =>
    rcases mappings.perform_calls_cases mapping call with same | ⟨region, _, _, mapped, performs⟩
    · rw [same]
      exact ⟨.refl _, .refl _⟩
    · rw [perform_calls mapped performs]
      cases call.patch? with
      | none => exact ⟨.refl _, .refl _⟩
      | some patch => exact ⟨.modify _ _ _, .modify _ _ _⟩
  | becomes system => exact ⟨Nat.le_refl _, ⟨rfl, id⟩⟩

/-- Every path that leads to a file keeps doing so. -/
theorem openFile_performAll {path : String} (leads : mappings.storage.openFile path = .ok object)
    (steps : List Step) : (mappings.performAll steps).storage.openFile path = .ok object := by
  induction steps generalizing mappings with
  | nil => exact leads
  | cons step rest ih =>
    exact ih (Storage.openFile_of_namesKept (mappings.kept_perform step).2 leads)

/-- However often a file is mapped by its path, it is the same object that is mapped. -/
theorem object_eq_of_path {first second : Opening} (path : first.path = second.path)
    {region other : Region} (maps : (first.perform mappings.storage).1 = .ok (.ok region))
    (between : List Step)
    (again : (second.perform ((mappings.perform (.opens first)).performAll between).storage).1 =
      .ok (.ok other)) : other.object = region.object := by
  have leads := Opening.openFile_of_perform maps
  rw [← storage_opens, path] at leads
  have still := Storage.openFile_of_namesKept (second.kept_perform _).2
    (openFile_performAll leads between)
  exact Except.ok.inj ((Opening.openFile_of_perform again).symm.trans still)

theorem sound_of_unmapped (storage : Storage) : Sound ⟨storage, []⟩ :=
  fun _ listed => absurd listed List.not_mem_nil

theorem Sound.perform (sound : mappings.Sound) (step : Step) : (mappings.perform step).Sound := by
  have old : ∀ region ∈ mappings.regions,
      region.object < (mappings.perform step).storage.objects.size := fun region listed =>
    Nat.lt_of_lt_of_le (sound region listed) (mappings.kept_perform step).1
  intro region listed
  cases step with
  | opens opening =>
    rcases mem_regions_opens listed with earlier | maps
    · exact old region earlier
    · rw [storage_opens]
      exact Storage.made_of_openFile (Opening.openFile_of_perform maps)
  | calls mapping call =>
    refine old region ?_
    rcases mappings.perform_calls_cases mapping call with same | ⟨_, _, _, mapped, performs⟩
    · rwa [same] at listed
    · rwa [perform_calls mapped performs] at listed
  | becomes system => exact old region listed

theorem Sound.performAll (sound : mappings.Sound) (steps : List Step) :
    (mappings.performAll steps).Sound := by
  induction steps generalizing mappings with
  | nil => exact sound
  | cons step rest ih => exact ih (sound.perform step)

/-- A byte that is stored is there. -/
theorem Stores.holds (sound : mappings.Sound) (stores : mappings.Stores step object offset byte)
    (inside : offset < (mappings.storage.content object).size) :
    Holds object offset byte (mappings.perform step) := by
  obtain ⟨mapped, performs, stores, puts⟩ := stores
  have made := sound _ (List.mem_of_getElem? mapped)
  obtain ⟨sameSize, -, content⟩ := Region.content_patched made (some _)
  rw [perform_calls mapped performs, stores]
  refine ⟨sameSize ▸ made, ?_, ?_⟩
  · rwa [content, Content.size_patched]
  · rw [content, Content.byte_patched, Option.bind_some, puts, Option.getD_some]

/-- A step that does not disturb a byte keeps it. -/
theorem Holds.perform (sound : mappings.Sound) (holds : Holds object offset byte mappings)
    (spared : ¬ mappings.Disturbs object offset step) :
    Holds object offset byte (mappings.perform step) := by
  obtain ⟨made, inside, held⟩ := holds
  have still := Nat.lt_of_lt_of_le made (mappings.kept_perform step).1
  cases step with
  | opens opening =>
    have longer := Opening.lengthens_perform made fun renews => spared (.renews renews)
    rw [← storage_opens] at longer
    exact ⟨still, Nat.lt_of_lt_of_le inside longer.size, (longer.same _ inside).trans held⟩
  | calls mapping call =>
    rcases mappings.perform_calls_cases mapping call with same | ⟨region, _, _, mapped, performs⟩
    · rw [same]
      exact ⟨made, inside, held⟩
    obtain ⟨-, others, content⟩ :=
      Region.content_patched (sound region (List.mem_of_getElem? mapped)) call.patch?
    have left : (mappings.perform (.calls mapping call)).storage =
        region.patched mappings.storage call.patch? := by rw [perform_calls mapped performs]
    rw [← left] at others content
    by_cases same : object = region.object
    · subst same
      refine ⟨still, by rwa [content, Content.size_patched], ?_⟩
      rw [content]
      by_cases early : offset < region.start
      · rw [Content.byte_patched_of_lt _ _ _ early, held]
      obtain ⟨position, rfl⟩ := Nat.exists_eq_add_of_le (Nat.not_lt.1 early)
      rw [Content.byte_patched]
      cases puts : call.patch?.bind (·.byte? position) with
      | none => exact held
      | some other =>
        obtain ⟨patch, stores, puts⟩ := Option.bind_eq_some_iff.1 puts
        exact absurd (.overwrites (.intro mapped performs stores puts)) spared
    · rw [← others object same] at inside held
      exact ⟨still, inside, held⟩
  | becomes system => exact ⟨made, inside, held⟩

/-- Steps that do not disturb a byte keep it. -/
theorem Holds.performAll (sound : mappings.Sound) (holds : Holds object offset byte mappings)
    {steps : List Step} (undisturbed : mappings.Undisturbed object offset steps) :
    Holds object offset byte (mappings.performAll steps) := by
  induction steps generalizing mappings with
  | nil => exact holds
  | cons step rest ih =>
    exact ih (sound.perform step) (holds.perform sound undisturbed.1) undisturbed.2

/-- A byte that is there is loaded through every mapping of the object. -/
theorem Holds.reads (holds : Holds object offset byte mappings) {region : Region}
    (same : region.object = object) : region.Reads mappings.storage offset byte := by
  intro first length within after before
  obtain ⟨position, rfl⟩ := Nat.exists_eq_add_of_le after
  have here : position < length := by omega
  refine ⟨_, (Region.loadBytes_eq ..).trans (if_neg (Nat.not_lt.2 within)), ?_⟩
  rw [Nat.add_sub_cancel_left, List.getElem?_take_of_lt here, List.getElem?_drop,
    List.getElem?_eq_getElem (by rw [Region.length_bytes]; omega), Region.getElem_bytes, same,
    ← Nat.add_assoc, holds.held]

/-- A byte that is there is what the file holds. -/
theorem Holds.inFile (holds : Holds object offset byte mappings) {file : String}
    (leads : mappings.storage.openFile file = .ok object) :
    ∃ bytes, mappings.storage.fileBytes file = .ok bytes ∧ bytes[offset]? = some byte := by
  have inside := (Content.length_bytes (mappings.storage.content object)).symm ▸ holds.inside
  refine ⟨_, Storage.fileBytes_eq_ok_iff.2 ⟨object, leads, rfl⟩, ?_⟩
  rw [List.getElem?_eq_getElem inside, Content.getElem_bytes, holds.held]

/-- Mappings keep and share what files hold.

Whatever is found at a path in an existing directory, a mapping of any number of bytes that a file
can have and the system grants leaves the file as one of its two kinds says.  One that keeps what is
there leaves it, and zeros after it if it is shorter, and a new one leaves nothing but zeros.  Both
show the first bytes of that, as many as were asked for, and mapping the file once more shows all of
it.

To ask for no bytes is refused, and then nothing is made, emptied or lengthened.  And if a mapping
that keeps what is there fails, then every file holds the bytes that it held, and no more, unless it
was too short and is the file that was to be mapped, and the system turned down the mapping of it at
its new length.  Then it has that length, and the new bytes are zeros.

However often a file is mapped by its path, it is the same object.  After any openings and calls,
and whatever the system grants from one to the other, a byte that a call stores through one mapping
at an offset that its file has is what every mapping of the file loads for that offset, and what the
file holds there, whatever is opened and done next, until a call stores over it or the file is made
anew. -/
theorem keep_and_share {storage : Storage} {path : String} {found : Option (List UInt8)}
    {length : Nat} (finds : storage.Finds path found) (positive : 0 < length)
    (short : length ≤ longestFile) :
    let held := found.getD []
    let kept := held ++ List.replicate (length - held.length) 0
    kept.length = max held.length length ∧
    (storage.GrantsLength path length →
      (∃ region after, (Opening.keeping path length).perform storage = (.ok (.ok region), after) ∧
        region.ShowsFirst after path kept length) ∧
      ∃ region after, (Opening.new path length).perform storage = (.ok (.ok region), after) ∧
        region.ShowsFirst after path (List.replicate length 0) length) ∧
    (∀ (elsewhere : Storage) (other : String),
      (Opening.new other 0).perform elsewhere = (.ok (.error .emptyMapping), elsewhere) ∧
      (Opening.keeping other 0).perform elsewhere = (.ok (.error .emptyMapping), elsewhere)) ∧
    (∀ (elsewhere after : Storage) (other : String) (asked : Nat) (error : FileError),
      (Opening.keeping other asked).perform elsewhere = (.ok (.error error), after) →
      ∀ file bytes, elsewhere.fileBytes file = .ok bytes →
        (after.fileBytes file = .ok bytes ∧ after.sizeOf? file = some bytes.length) ∨
        ∃ object, elsewhere.openFile file = .ok object ∧ elsewhere.openFile other = .ok object ∧
          bytes.length < asked ∧ asked ≤ longestFile ∧
          ¬ elsewhere.system.Grants (.mapping object asked) ∧
          after.fileBytes file = .ok (bytes ++ List.replicate (asked - bytes.length) 0)) ∧
    (∀ (mappings : Mappings) (first second : Opening) (between : List Step) (region other : Region),
      first.path = second.path →
      (first.perform mappings.storage).1 = .ok (.ok region) →
      (second.perform ((mappings.perform (.opens first)).performAll between).storage).1 =
        .ok (.ok other) →
      other.object = region.object) ∧
    ∀ (earlier later : List Step) (step : Step) (object : ObjectId) (offset : Nat) (byte : UInt8),
      let mappings := performAll ⟨storage, []⟩ earlier
      mappings.Stores step object offset byte →
      offset < (mappings.storage.content object).size →
      (mappings.perform step).Undisturbed object offset later →
      let final := (mappings.perform step).performAll later
      (∀ region ∈ final.regions, region.object = object →
        region.Reads final.storage offset byte) ∧
      ∀ file, final.storage.openFile file = .ok object →
        ∃ bytes, final.storage.fileBytes file = .ok bytes ∧ bytes[offset]? = some byte := by
  intro held kept
  have nonzero := Nat.ne_of_gt positive
  refine ⟨?_, fun granted =>
      ⟨finds.mapKeeping nonzero short granted, finds.mapNew nonzero short granted⟩,
    fun _ _ => ⟨rfl, rfl⟩, fun elsewhere after other asked error fails file bytes known => ?_,
    fun _ _ _ between _ _ path maps => object_eq_of_path path maps between, ?_⟩
  · rw [List.length_append, List.length_replicate]
    omega
  · obtain ⟨answer, left⟩ := Prod.mk.inj fails
    exact Storage.kept_of_mapKeeping_eq_error (Prod.ext (Except.ok.inj answer) left) known
  · intro earlier later step object offset byte mappings stores inside undisturbed final
    have sound := (sound_of_unmapped storage).performAll earlier
    have holds := (stores.holds sound inside).performAll (sound.perform step) undisturbed
    exact ⟨fun region _ same => holds.reads same, fun file leads => holds.inFile leads⟩

/-- A file of three bytes is mapped as one of five.  What is then stored in its fourth byte is
loaded through a mapping of eight. -/
theorem keep_and_share_extended :
    let storage := ((FileChange.overwrite "r" 0 [1, 2, 3]).perform .empty).2
    let mappings := performAll ⟨storage, []⟩ [.opens (.keeping "r" 5), .opens (.whole "r")]
    let final := (mappings.perform (.calls 0 (.putBytes 3 [9]))).performAll
      [.opens (.keeping "r" 8)]
    (∃ region after, (Opening.keeping "r" 5).perform storage = (.ok (.ok region), after) ∧
      after.fileBytes "r" = .ok [1, 2, 3, 0, 0]) ∧
    ∃ region ∈ final.regions, region.capacity = 8 ∧
      ∃ bytes, region.loadBytes final.storage 2 4 = .ok bytes ∧ bytes[1]? = some 9 := by
  intro storage mappings final
  have finds : storage.Finds "r" (some [1, 2, 3]) := .file (by decide +kernel)
  obtain ⟨-, leaves, -, -, -, shares⟩ := keep_and_share finds (by decide : 0 < 5) (by decide)
  obtain ⟨⟨region, after, maps, shows⟩, -⟩ := leaves ⟨rfl, fun _ => rfl, fun _ => rfl⟩
  have mapped : mappings.regions[0]? = some (.mapping 0 0 5) := by decide +kernel
  obtain ⟨⟨reply, next⟩, performs⟩ : ∃ answer, Region.Call.perform (.mapping 0 0 5)
      mappings.storage (.putBytes 3 [9]) = .ok answer :=
    Region.Call.performs_iff.2 ⟨by decide, by decide⟩
  have stores : mappings.Stores (.calls 0 (.putBytes 3 [9])) 0 3 9 :=
    @Stores.intro mappings 0 _ (.mapping 0 0 5) reply next ⟨3, [9]⟩ 3 9 mapped performs rfl rfl
  have inside : 3 < (mappings.storage.content 0).size := by decide +kernel
  have spared : (mappings.perform (.calls 0 (.putBytes 3 [9]))).Undisturbed 0 3
      [.opens (.keeping "r" 8)] := by
    refine ⟨fun disturbs => ?_, trivial⟩
    cases disturbs with
    | overwrites stores => cases stores
    | renews renews => exact renews
  have last : .mapping 0 0 8 ∈ final.regions := by decide +kernel
  refine ⟨⟨region, after, maps, shows.file⟩, .mapping 0 0 8, last, rfl, ?_⟩
  exact (shares _ _ _ 0 3 9 stores inside spared).1 _ last rfl 2 4 (by decide) (by decide)
    (by decide)

/-- A system that has no addresses left for mappings. -/
def fullSystem : System
  | .mapping _ _ => some .outOfMemory
  | _ => none

/-- A file of three bytes cannot be mapped as one of five, and has five bytes all the same. -/
theorem keeping_lengthens_unmapped :
    let storage := (((FileChange.overwrite "r" 0 [1, 2, 3]).perform .empty).2).under fullSystem
    storage.fileBytes "r" = .ok [1, 2, 3] ∧
      ∃ after, (Opening.keeping "r" 5).perform storage =
          (.ok (.error (.turnedDown .outOfMemory)), after) ∧
        after.fileBytes "r" = .ok [1, 2, 3, 0, 0] ∧ after.sizeOf? "r" = some 5 := by
  intro storage
  exact ⟨by decide +kernel, (storage.mapKeeping "r" 5).2, Prod.ext (by decide +kernel) rfl,
    by decide +kernel, by decide +kernel⟩

end Mappings

end Heartbeat
