import Heartbeat.Proofs.Resolution

/-!
# Plain paths

A path is plain if it is relative and spells nothing but names that a directory can hold.  A walk
along such a path never stays and never goes up, so where the path leads, if it leads anywhere, is
known from its spelling (`Storage.place`, `Storage.locate_plain`).

To delete a directory by a plain path is to remove its place with all that it holds
(`Storage.removeTree_plain`), and a plain path to a directory with one name more is a plain path to a
file in it (`Path.Plain.join`).
-/

set_option autoImplicit false

namespace Heartbeat

/-- Two locations that lie within each other are the same. -/
theorem Location.within_antisymm {first second : Location} (inside : first.within second = true)
    (outside : second.within first = true) : first = second := by
  have first_eq := Location.eq_append_of_within inside
  have second_eq := Location.eq_append_of_within outside
  have lengths := congrArg List.length first_eq
  have lengths' := congrArg List.length second_eq
  simp only [List.length_append, List.length_drop] at lengths lengths'
  rw [first_eq, List.drop_eq_nil_of_le (by omega), List.append_nil]

/-- Cutting a text that has a separator somewhere is cutting what stands before and after it. -/
theorem Text.pieces_append (separator : Char) (before after : List Char) :
    pieces separator (before ++ separator :: after) =
      pieces separator before ++ pieces separator after := by
  induction before with
  | nil => simp [pieces]
  | cons c rest ih =>
    by_cases here : c = separator
    · simp [pieces, here, ih]
    · obtain ⟨first, others, shape⟩ := List.exists_cons_of_ne_nil (pieces_ne_nil separator rest)
      simp [pieces, here, ih, shape]

namespace Path

/-- A name that a directory can hold. -/
structure Holdable (name : String) : Prop where
  /-- It is not the name of the directory itself. -/
  stays : name ≠ "."
  /-- It is not the name of the holding directory. -/
  rises : name ≠ ".."

/-- A file name: a name that a directory can hold, and a path of its own. -/
structure IsFilename (name : String) : Prop extends Holdable name where
  /-- There is something to read. -/
  spelled : name ≠ ""
  /-- It is one piece. -/
  whole : '/' ∉ name.toList

/-- A relative path that spells names that directories can hold, at least one of them. -/
structure Plain (path : String) : Prop where
  /-- There is something to read. -/
  spelled : path ≠ ""
  /-- It does not start at the root. -/
  relative : isAbsolute path = false
  /-- It spells no dots. -/
  holdable : ∀ name ∈ names path, Holdable name

instance (name : String) : Decidable (Holdable name) :=
  decidable_of_iff (name ≠ "." ∧ name ≠ "..")
    ⟨fun other => ⟨other.1, other.2⟩, fun holdable => ⟨holdable.stays, holdable.rises⟩⟩

instance (name : String) : Decidable (IsFilename name) :=
  decidable_of_iff (Holdable name ∧ name ≠ "" ∧ '/' ∉ name.toList)
    ⟨fun named => ⟨named.1, named.2.1, named.2.2⟩,
      fun named => ⟨named.toHoldable, named.spelled, named.whole⟩⟩

instance (path : String) : Decidable (Plain path) :=
  decidable_of_iff (path ≠ "" ∧ isAbsolute path = false ∧ ∀ name ∈ names path, Holdable name)
    ⟨fun plain => ⟨plain.1, plain.2.1, plain.2.2⟩,
      fun plain => ⟨plain.spelled, plain.relative, plain.holdable⟩⟩

variable {directory filename : String}

theorem IsFilename.relative (named : IsFilename filename) : isAbsolute filename = false := by
  unfold isAbsolute
  cases characters : filename.toList with
  | nil => rfl
  | cons first rest =>
    have other : first ≠ '/' := by
      rintro rfl
      exact named.whole (characters ▸ List.mem_cons_self ..)
    simp [other]

/-- The pieces of two paths with a slash between them. -/
theorem segments_append (front back : String) :
    segments (front ++ "/" ++ back) = segments front ++ segments back := by
  have characters : (front ++ "/" ++ back).toList = front.toList ++ '/' :: back.toList := by
    simp
  rw [segments, characters, Text.pieces_append, List.map_append]
  rfl

theorem IsFilename.segments_eq (named : IsFilename filename) : segments filename = [filename] := by
  rw [segments, Text.pieces_of_not_mem named.whole, List.map_singleton, String.ofList_toList]

/-- What ends in a slash is something and a slash. -/
theorem eq_append_of_endsInSlash {path : String} (ends : endsInSlash path = true) :
    ∃ front, path = front ++ "/" := by
  obtain ⟨front, characters⟩ := List.getLast?_eq_some_iff.1 (of_decide_eq_true ends)
  refine ⟨String.ofList front, String.toList_inj.1 ?_⟩
  simp [characters]

/-- A file in a directory is spelled as the directory is, with one name more. -/
theorem names_join (spelled : directory ≠ "") (named : IsFilename filename) :
    names (join directory filename) = names directory ++ [filename] := by
  have last : (segments filename).filter (fun name => name ≠ "") = [filename] := by
    simp [named.segments_eq, named.spelled]
  simp only [join, named.relative, Bool.false_eq_true, if_false, spelled, false_or]
  split
  · next ends =>
    obtain ⟨front, rfl⟩ := eq_append_of_endsInSlash ends
    have whole : segments (front ++ "/") = segments front ++ [""] := by
      have slash := segments_append front ""
      rwa [String.append_empty] at slash
    rw [names, names, segments_append, whole, List.filter_append, List.filter_append, last]
    simp
  · rw [names, segments_append, List.filter_append, last, names]

/-- A plain path to a directory with one name more is a plain path to a file. -/
theorem Plain.join (plain : Plain directory) (named : IsFilename filename) :
    Plain (join directory filename) := by
  have names := names_join plain.spelled named
  have relative : isAbsolute (Path.join directory filename) = false := by
    have begins : ∀ rest : String, isAbsolute (directory ++ rest) = false := by
      intro rest
      obtain ⟨first, others, characters⟩ := List.exists_cons_of_ne_nil
        (fun empty => plain.spelled (String.toList_eq_nil_iff.1 empty))
      have relative := plain.relative
      simpa [isAbsolute, characters] using relative
    simp only [Path.join, named.relative, Bool.false_eq_true, if_false, plain.spelled, false_or]
    split
    · exact begins filename
    · rw [String.append_assoc]
      exact begins _
  refine ⟨?_, relative, ?_⟩
  · rintro empty
    rw [empty] at names
    simp [Path.names, segments, Text.pieces] at names
  · intro name listed
    rw [names, List.mem_append, List.mem_singleton] at listed
    rcases listed with older | rfl
    · exact plain.holdable name older
    · exact named.toHoldable

end Path

/-! ## Where plain paths lead -/

theorem Path.Holdable.into {name : String} (holdable : Path.Holdable name) :
    LastStep.ofName name = .into name := by
  rw [LastStep.ofName, if_neg holdable.stays, if_neg holdable.rises]

namespace Storage

variable {storage : Storage} {path : String}

/-- A walk over names that directories can hold leads down along the names. -/
theorem walk_of_holdable {names : List String} (holdable : ∀ name ∈ names, Path.Holdable name)
    {location goal : Location} (walked : storage.walk location names = .ok goal) :
    goal = location ++ names := by
  induction names generalizing location with
  | nil =>
    cases walked
    exact (List.append_nil _).symm
  | cons name rest ih =>
    obtain ⟨next, stepped, walks⟩ := walk_cons_eq_ok_iff.1 walked
    have first : next = location ++ [name] := by
      have held := directory_of_step stepped
      unfold step at stepped
      simp only [held, (holdable name (List.mem_cons_self ..)).into] at stepped
      split at stepped
      · cases stepped
      · split at stepped <;> cases stepped
        rfl
    rw [ih (fun other listed => holdable other (List.mem_cons_of_mem _ listed)) walks, first]
    simp

/-- The location that a plain path spells. -/
def place (storage : Storage) (path : String) : Location :=
  storage.startOf path ++ Path.names path

/-- A file in a directory is looked for from where the directory is looked for. -/
theorem place_join {directory filename : String} (plain : Path.Plain directory)
    (named : Path.IsFilename filename) (storage : Storage) :
    storage.place (Path.join directory filename) = storage.place directory ++ [filename] := by
  rw [place, place, startOf, startOf, (plain.join named).relative, plain.relative,
    Path.names_join plain.spelled named, List.append_assoc]

/-- A plain path leads to its place or nowhere. -/
theorem locate_plain (plain : Path.Plain path) {location : Location} {entry : Entry}
    (located : storage.locate path = .ok (location, entry)) :
    location = storage.place path ∧ storage.tree.lookup (storage.place path) = some entry := by
  obtain ⟨-, walked, found, -⟩ := locate_eq_ok_iff.1 located
  obtain rfl := walk_of_holdable plain.holdable walked
  exact ⟨rfl, found⟩

/-- What it takes to find a directory. -/
theorem locate_eq_directory_iff {location : Location} :
    storage.locate path = .ok (location, .directory) ↔ Path.check path = .ok () ∧
      storage.walk (storage.startOf path) (Path.names path) = .ok location ∧
        storage.tree.lookup location = some .directory := by
  simp only [locate_eq_ok_iff, true_or, and_true]

theorem isDirectory_iff :
    storage.isDirectory path = true ↔ ∃ location, storage.locate path = .ok (location, .directory) := by
  unfold isDirectory
  constructor
  · intro there
    split at there
    · next location located => exact ⟨location, located⟩
    · cases there
  · rintro ⟨location, located⟩
    rw [located]

/-- What a plain path spells is below the place where it starts. -/
theorem place_ne_nil (plain : Path.Plain path) : storage.place path ≠ [] := fun empty =>
  Path.names_ne_nil plain.relative plain.spelled (List.append_eq_nil_iff.1 empty).2

/-- A walk down to a place goes on as long as the place and all that hold it are as before. -/
theorem walk_of_held {before after : Storage} {names : List String}
    (holdable : ∀ name ∈ names, Path.Holdable name) {location goal : Location}
    (walked : before.walk location names = .ok goal)
    (kept : ∀ top, goal.within top = true → after.tree.lookup top = before.tree.lookup top) :
    after.walk location names = .ok goal := by
  induction names generalizing location with
  | nil => exact walked
  | cons name rest ih =>
    have later : ∀ other ∈ rest, Path.Holdable other :=
      fun other listed => holdable other (List.mem_cons_of_mem _ listed)
    have whole := walk_of_holdable holdable walked
    have here : after.tree.lookup location = before.tree.lookup location :=
      kept location (whole ▸ Location.within_append _ _)
    have next : after.tree.lookup (location ++ [name]) =
        before.tree.lookup (location ++ [name]) := by
      refine kept _ (whole ▸ ?_)
      rw [List.append_cons]
      exact Location.within_append _ _
    have same : after.step location name = before.step location name := by
      unfold step
      rw [here, (holdable name (List.mem_cons_self ..)).into]
      simp only [next]
    obtain ⟨reached, stepped, walks⟩ := walk_cons_eq_ok_iff.1 walked
    exact walk_cons_eq_ok_iff.2 ⟨reached, same.trans stepped, ih later walks⟩

/-- Whoever finds something at a plain path finds the directory that holds it. -/
theorem destination_of_locate (plain : Path.Plain path) {found : Location × Entry}
    (located : storage.locate path = .ok found) :
    ∃ holder name, storage.destination path = .ok (holder, .into name) ∧
      holder ++ [name] = storage.place path := by
  have spelled := Path.names_ne_nil plain.relative plain.spelled
  have last := (plain.holdable _ (List.getLast_mem spelled)).into
  obtain ⟨location, entry⟩ := found
  obtain ⟨checked, walked, -, -⟩ := locate_eq_ok_iff.1 located
  rw [← List.dropLast_concat_getLast spelled, walk_concat] at walked
  cases held : storage.walk (storage.startOf path) (Path.names path).dropLast with
  | error _ => simp only [held, reduceCtorEq] at walked
  | ok holder =>
    have reached := walk_of_holdable
      (fun name listed => plain.holdable name (List.dropLast_subset _ listed)) held
    simp only [held] at walked
    refine ⟨holder, (Path.names path).getLast spelled, ?_, ?_⟩
    · simp only [destination, checked, List.getLast?_eq_some_getLast spelled, held,
        directory_of_step walked, last]
    · rw [reached, List.append_assoc, List.dropLast_concat_getLast spelled, place]

/-! ## What is deleted by plain paths -/

/-- To clear a location and remove it is to remove it with all that it holds. -/
theorem prune_clear (storage : Storage) (top : Location) :
    (storage.clear top).prune top = storage.prune top := by
  have entries : ((storage.tree.clear top).prune top).entries = (storage.tree.prune top).entries := by
    simp only [Tree.prune, Tree.clear, Tree.without, List.filter_filter]
    refine List.filter_congr fun entry _ => ?_
    cases entry.1.within top <;> simp
  have tree : (storage.tree.clear top).prune top = storage.tree.prune top := by
    cases first : (storage.tree.clear top).prune top
    cases second : storage.tree.prune top
    simp_all
  unfold prune clear
  simp only [tree]

/-- A directory at a plain path is deleted with all that it holds. -/
theorem removeTree_plain (plain : Path.Plain path) {location : Location}
    (located : storage.locate path = .ok (location, .directory)) :
    storage.removeTree path = (.ok (), storage.prune (storage.place path)) := by
  obtain ⟨rfl, found⟩ := locate_plain plain located
  have still : (storage.clear (storage.place path)).locate path =
      .ok (storage.place path, .directory) := by
    have kept : ∀ top : Location, (storage.place path).within top = true →
        (storage.clear (storage.place path)).tree.lookup top = storage.tree.lookup top := by
      intro top above
      refine (Tree.lookup_clear _ _ _).trans (if_neg ?_)
      rintro ⟨below, other⟩
      exact other (Location.within_antisymm below above)
    obtain ⟨checked, walked, found⟩ := locate_eq_directory_iff.1 located
    exact locate_eq_directory_iff.2 ⟨checked, walk_of_held plain.holdable walked kept,
      (kept _ (Location.within_self _)).trans found⟩
  obtain ⟨holder, name, leads, whole⟩ := destination_of_locate plain still
  have same : (storage.clear (storage.place path)).place path = storage.place path := rfl
  unfold removeTree
  simp only [located, removeEmptied, leads, whole, same, prune_clear]

end Storage

end Heartbeat
