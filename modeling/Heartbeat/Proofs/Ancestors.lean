import Heartbeat.Proofs.PlainPaths

/-!
# The directories on the way to a plain path

To make a directory is to make what is missing on the way to it, along the paths of what holds it.
Each of these paths is spelled by the first segments of the path itself (`Path.eq_of_parent?`), so
on the way to a plain path all of them are plain and spell the first names of that path
(`Path.Plain.ancestors`).

Hence all that the making of a directory changes lies above its place: directories come to be where
nothing was (`Storage.MakesAbove`, `Storage.makesAbove_of_makeDirectories`).
-/

set_option autoImplicit false

namespace Heartbeat

namespace Path

variable {path holder directory : String}

/-! ## Paths of what holds something -/

/-- The segments of a path, with slashes between them, are the path. -/
theorem intercalate_segments (path : String) : "/".intercalate (segments path) = path := by
  have joined (pieces : List (List Char)) :
      "/".intercalate (pieces.map String.ofList) = String.ofList (Text.join '/' pieces) := by
    induction pieces with
    | nil => rfl
    | cons piece others ih =>
      cases others with
      | nil => simp [Text.join, String.intercalate_singleton]
      | cons next others =>
        have whole : Text.join '/' (piece :: next :: others) =
            piece ++ '/' :: Text.join '/' (next :: others) := rfl
        rw [List.map_cons, List.map_cons, String.intercalate_cons_cons, ← List.map_cons, ih, whole]
        apply String.toList_inj.1
        simp
  rw [segments, joined, Text.join_pieces, String.ofList_toList]

/-- The path of what holds something is empty, or the path goes on after it. -/
theorem eq_of_parent? (relative : isAbsolute path = false) (held : parent? path = some holder) :
    holder = "" ∨ holder = path ∨ ∃ rest, path = holder ++ "/" ++ rest := by
  unfold parent? at held
  simp only [relative, Bool.false_eq_true, if_false] at held
  split at held
  · cases held
  · exact .inl (Option.some.inj held).symm
  · next position _ _ =>
    cases held
    right
    by_cases all : (segments path).drop (position + 1) = []
    · left
      have whole := List.take_append_drop (position + 1) (segments path)
      rw [all, List.append_nil] at whole
      rw [whole, intercalate_segments]
    · right
      refine ⟨"/".intercalate ((segments path).drop (position + 1)), ?_⟩
      have some : (segments path).take (position + 1) ≠ [] := by
        intro none
        rw [List.take_eq_nil_iff] at none
        rcases none with none | none
        · cases none
        · rw [none] at all
          exact all List.drop_nil
      rw [← String.intercalate_append_of_ne_nil some all, List.take_append_drop,
        intercalate_segments]

/-- A plain path that spells the first names of another one. -/
structure Leads (path directory : String) : Prop extends Plain path where
  /-- The names that it spells are the first ones. -/
  first : names path <+: names directory

theorem Plain.leads (plain : Plain directory) : Leads directory directory :=
  ⟨plain, List.prefix_rfl⟩

theorem Leads.parent (leads : Leads path directory) (held : parent? path = some holder)
    (spelled : holder ≠ "") : Leads holder directory := by
  rcases eq_of_parent? leads.relative held with empty | rfl | ⟨rest, rfl⟩
  · exact absurd empty spelled
  · exact leads
  · have names : names holder <+: names (holder ++ "/" ++ rest) := by
      rw [Path.names, Path.names, segments_append, List.filter_append]
      exact List.prefix_append _ _
    refine ⟨⟨spelled, ?_, fun name listed => leads.holdable name (names.subset listed)⟩,
      names.trans leads.first⟩
    obtain ⟨first, others, characters⟩ := List.exists_cons_of_ne_nil
      (fun empty => spelled (String.toList_eq_nil_iff.1 empty))
    have relative := leads.relative
    simpa [isAbsolute, characters] using relative

/-- A plain path and the paths of what holds it, but for the empty one, lead to it. -/
theorem Plain.ancestors (plain : Plain directory) :
    ∀ path ∈ ancestors directory, path ≠ "" → Leads path directory := by
  -- Nothing holds what the empty path names, so it is the last one, if it is among them at all.
  have along (limit : Nat) {path : String} (leads : path ≠ "" → Leads path directory) :
      ∀ other ∈ ancestorsUpTo limit path, other ≠ "" → Leads other directory := by
    induction limit generalizing path with
    | zero => exact fun _ listed => absurd listed List.not_mem_nil
    | succ limit ih =>
      intro other listed spelled
      unfold ancestorsUpTo at listed
      cases held : parent? path with
      | none =>
        rw [held, List.mem_singleton] at listed
        subst listed
        exact leads spelled
      | some holder =>
        have named : path ≠ "" := by
          rintro rfl
          cases held
        rw [held, List.mem_cons] at listed
        rcases listed with rfl | listed
        · exact leads spelled
        · exact ih ((leads named).parent held) other listed spelled
  exact along _ fun _ => plain.leads

end Path

namespace Storage

variable {before after : Storage} {top : Location} {path directory : String}

/-- What a path leads to that spells the first names of another one lies above the place of that. -/
theorem place_within (leads : Path.Leads path directory) (plain : Path.Plain directory)
    (storage : Storage) : (storage.place directory).within (storage.place path) = true := by
  obtain ⟨rest, names⟩ := leads.first
  rw [place, place, startOf, startOf, leads.relative, plain.relative, ← names, ← List.append_assoc]
  exact Location.within_append _ _

/-- The last step of a plain path, if the steps before it can be made, leads to its place. -/
theorem place_of_destination (plain : Path.Plain path) {storage : Storage} {holder : Location}
    {name : String} (leads : storage.destination path = .ok (holder, .into name)) :
    holder ++ [name] = storage.place path := by
  obtain ⟨-, names, -, walked, -⟩ := destination_eq_into leads
  have reached := walk_of_holdable
    (fun other listed => plain.holdable other (List.dropLast_subset _ listed)) walked
  rw [reached, List.append_assoc, ← names, place]

/-- A directory that is made at a plain path is made at its place. -/
theorem makeDirectory_plain (plain : Path.Plain path)
    (made : before.makeDirectory path = .ok after) :
    after = before.addDirectory (before.place path) := by
  unfold makeDirectory at made
  split at made
  · cases made
  · next leads =>
    rw [place_of_destination plain leads] at made
    repeat' split at made
    all_goals cases made
    rfl
  · cases made

/-! ## What is made on the way to a place -/

/-- All that changes is that there are directories above a location, or there, where nothing was. -/
structure MakesAbove (top : Location) (before after : Storage) : Prop
    extends OnlyDirectories before after where
  /-- What is made is made above the location, or there. -/
  above : ∀ location, after.tree.lookup location ≠ before.tree.lookup location →
    top.within location = true
  /-- No memory is made, and none goes. -/
  memories : after.memories = before.memories

namespace MakesAbove

theorem refl (top : Location) (storage : Storage) : MakesAbove top storage storage :=
  ⟨.refl _, fun _ changed => absurd rfl changed, rfl⟩

theorem trans {between : Storage} (first : MakesAbove top before between)
    (second : MakesAbove top between after) : MakesAbove top before after where
  toOnlyDirectories := first.toOnlyDirectories.trans second.toOnlyDirectories
  above location changed := by
    by_cases early : between.tree.lookup location = before.tree.lookup location
    · exact second.above location fun late => changed (late.trans early)
    · exact first.above location early
  memories := second.memories.trans first.memories

theorem addDirectory (storage : Storage) {location : Location}
    (inside : top.within location = true) :
    MakesAbove top storage (storage.addDirectory location) where
  toOnlyDirectories := .addDirectory _ _
  above place changed := by
    by_cases accepted : storage.tree.accepts location .directory = true
    · have found := Tree.lookup_add accepted place
      split at found
      · next same => exact same ▸ inside
      · exact absurd found changed
    · have alone : (storage.addDirectory location).tree = storage.tree := dif_neg accepted
      exact absurd (congrArg (·.lookup place) alone) changed
  memories := rfl

/-- Where something changes, there was nothing, and there is a directory now. -/
theorem lookup (makes : MakesAbove top before after) (location : Location) :
    after.tree.lookup location = before.tree.lookup location ∨
      top.within location = true ∧ before.tree.lookup location = none ∧
        after.tree.lookup location = some .directory := by
  by_cases changed : after.tree.lookup location = before.tree.lookup location
  · exact .inl changed
  refine .inr ⟨makes.above location changed, ?_⟩
  cases old : before.tree.lookup location with
  | some entry => exact absurd ((makes.kept.lookup old).trans old.symm) changed
  | none =>
    refine ⟨rfl, ?_⟩
    cases new : after.tree.lookup location with
    | none => exact absurd (new.trans old.symm) changed
    | some entry =>
      cases entry with
      | directory => rfl
      | file object => exact nomatch old.symm.trans (makes.files new)

end MakesAbove

/-- A path has the same place wherever relative paths start at the same directory. -/
theorem place_congr (same : after.workingDirectory = before.workingDirectory) (path : String) :
    after.place path = before.place path := by
  rw [place, place, startOf, startOf, same]

/-- Making a directory at a plain path makes directories above its place, and there. -/
theorem makesAbove_of_makeDirectories (plain : Path.Plain directory)
    {result : Except FileError Unit}
    (made : before.makeDirectories directory = (result, after)) :
    MakesAbove (before.place directory) before after := by
  have chain : MakesAbove (before.place directory) before
      (before.makeDirectories directory).2 := by
    refine makeDirectoryChain_induction
      (fun storage => MakesAbove.refl (storage.place directory) storage) ?_ ?_ before
    · intro first second third early late
      rw [place_congr early.kept.workingDirectory] at late
      exact early.trans late
    · intro path listed spelled first second made
      have leads := plain.ancestors path listed spelled
      rw [makeDirectory_plain leads.toPlain made]
      exact .addDirectory first (place_within leads plain first)
  rwa [made] at chain

end Storage

end Heartbeat
