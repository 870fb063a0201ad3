/-!
# The directory tree

The names of a file system: which locations exist, and whether each is a directory or a file.  A
location is the list of names on the way from the root, and a file is known by the number of the
object that holds its bytes, so a mapping of that object does not care what becomes of the name.

Three rules hold in every tree and are part of the type: no location occurs twice, everything lies
in a directory, and no two locations name the same object.  Each operation is total, and where its
condition fails it leaves the tree alone.  `lookup_add`, `lookup_prune` and `lookup_clear` say what
an operation does to the one view that everything else uses, `Tree.lookup`.
-/

set_option autoImplicit false

namespace Heartbeat

/-- The names on the way from the root to a directory or a file. -/
abbrev Location := List String

/-- The number of the object that holds a file's bytes. -/
abbrev ObjectId := Nat

/-- What a location is. -/
inductive Entry where
  /-- A directory. -/
  | directory
  /-- A file, with the object that holds its bytes. -/
  | file (object : ObjectId)
  deriving DecidableEq, Repr

namespace Location

/-- Whether a location is another one or lies below it. -/
def within (location top : Location) : Bool := location.take top.length = top

@[simp] theorem within_self (location : Location) : within location location = true := by
  simp [within]

theorem within_append (top rest : Location) : within (top ++ rest) top = true := by
  simp [within]

/-- A location is within whatever the directory that holds it is within. -/
theorem within_of_dropLast {location top : Location}
    (holder : within location.dropLast top = true) : within location top = true := by
  simp only [within, decide_eq_true_eq] at *
  have long : top.length ≤ location.dropLast.length := by
    have same := congrArg List.length holder
    simp only [List.length_take] at same
    omega
  rw [List.dropLast_eq_take, List.take_take] at holder
  rw [List.length_dropLast] at long
  rwa [Nat.min_eq_left long] at holder

/-- A location within another one that is not that one lies in a directory within it. -/
theorem within_dropLast {location top : Location} (inside : within location top = true)
    (other : location ≠ top) : within location.dropLast top = true := by
  simp only [within, decide_eq_true_eq] at *
  have longer : top.length < location.length := by
    have same := congrArg List.length inside
    simp only [List.length_take] at same
    rcases Nat.lt_or_ge top.length location.length with longer | short
    · exact longer
    · rw [List.take_of_length_le short] at inside
      exact absurd inside other
  rw [List.dropLast_eq_take, List.take_take, Nat.min_eq_left (by omega)]
  exact inside

theorem eq_append_of_within {location top : Location} (inside : within location top = true) :
    location = top ++ location.drop top.length := by
  simp only [within, decide_eq_true_eq] at inside
  have whole := List.take_append_drop top.length location
  rw [inside] at whole
  exact whole.symm

/-- The place of a location after the tree at `source` has moved to `target`. -/
def moved (source target location : Location) : Location :=
  if within location source then target ++ location.drop source.length else location

end Location

/-- A directory tree. -/
structure Tree where
  /-- Every location but the root, with what it is. -/
  entries : List (Location × Entry)
  /-- No location occurs twice. -/
  unique : (entries.map Prod.fst).Nodup
  /-- Everything lies in a directory. -/
  held : ∀ location entry, (location, entry) ∈ entries →
    location ≠ [] ∧ (location.dropLast = [] ∨ (location.dropLast, Entry.directory) ∈ entries)
  /-- No two locations name the same object. -/
  unshared : ∀ first second object, (first, Entry.file object) ∈ entries →
    (second, Entry.file object) ∈ entries → first = second

namespace Tree

/-- The tree that is only a root. -/
def empty : Tree where
  entries := []
  unique := List.nodup_nil
  held _ _ found := nomatch found
  unshared _ _ _ found := nomatch found

/-- What a list of entries has at a location. -/
def find : List (Location × Entry) → Location → Option Entry
  | [], _ => none
  | (place, entry) :: others, location =>
    if place = location then some entry else find others location

/-- What is at a location.  The root is a directory. -/
def lookup (tree : Tree) (location : Location) : Option Entry :=
  if location = [] then some .directory else find tree.entries location

theorem mem_of_find {entries : List (Location × Entry)} {location : Location} {entry : Entry}
    (found : find entries location = some entry) : (location, entry) ∈ entries := by
  induction entries with
  | nil => simp [find] at found
  | cons head others ih =>
    obtain ⟨place, there⟩ := head
    simp only [find] at found
    split at found
    · next same => simp_all
    · exact List.mem_cons_of_mem _ (ih found)

theorem find_of_mem {entries : List (Location × Entry)} {location : Location} {entry : Entry}
    (unique : (entries.map Prod.fst).Nodup) (found : (location, entry) ∈ entries) :
    find entries location = some entry := by
  induction entries with
  | nil => simp at found
  | cons head others ih =>
    obtain ⟨place, there⟩ := head
    simp only [List.map_cons, List.nodup_cons, List.mem_map, not_exists, not_and] at unique
    rcases List.mem_cons.1 found with same | later
    · cases same
      simp [find]
    · have apart : place ≠ location := fun same => unique.1 (location, entry) later same.symm
      simp [find, apart, ih unique.2 later]

/-- Something is in the list of entries exactly if it is at its location in the tree. -/
theorem mem_entries_iff {tree : Tree} {location : Location} {entry : Entry} :
    (location, entry) ∈ tree.entries ↔ location ≠ [] ∧ tree.lookup location = some entry := by
  constructor
  · intro found
    have below := (tree.held location entry found).1
    exact ⟨below, by rw [lookup, if_neg below, find_of_mem tree.unique found]⟩
  · rintro ⟨below, found⟩
    rw [lookup, if_neg below] at found
    exact mem_of_find found

@[simp] theorem lookup_root (tree : Tree) : tree.lookup [] = some .directory := rfl

/-- Whatever exists lies in a directory. -/
theorem lookup_dropLast {tree : Tree} {location : Location} {entry : Entry}
    (found : tree.lookup location = some entry) :
    tree.lookup location.dropLast = some .directory := by
  by_cases root : location = []
  · simp [root]
  · have listed := mem_entries_iff.2 ⟨root, found⟩
    rcases (tree.held _ _ listed).2 with top | held
    · simp [top]
    · exact (mem_entries_iff.1 held).2

/-- Nothing exists below a location that does not exist. -/
theorem lookup_eq_none_of_within {tree : Tree} {location top : Location}
    (missing : tree.lookup top = none) (inside : location.within top = true) :
    tree.lookup location = none := by
  induction length : location.length using Nat.strongRecOn generalizing location with
  | _ size ih =>
    by_cases same : location = top
    · exact same ▸ missing
    · match found : tree.lookup location with
      | none => rfl
      | some entry =>
        have holder := Location.within_dropLast inside same
        have shorter : location.dropLast.length < size := by
          have nonempty : location ≠ [] := by
            intro root
            subst root
            have top_root : top = [] := by
              have whole := Location.eq_append_of_within inside
              exact (List.append_eq_nil_iff.1 whole.symm).1
            exact same top_root.symm
          have positive := List.length_pos_iff.2 nonempty
          rw [List.length_dropLast]
          omega
        have absent := ih _ shorter holder rfl
        rw [lookup_dropLast found] at absent
        cases absent

/-- Whether a tree can take a new entry at a location: the place is free, in a directory, and a
new file's object has no name yet. -/
def accepts (tree : Tree) (location : Location) (entry : Entry) : Bool :=
  tree.lookup location = none && tree.lookup location.dropLast = some .directory &&
    (entry = .directory || tree.entries.all fun other => other.2 ≠ entry)

theorem accepts_iff {tree : Tree} {location : Location} {entry : Entry} :
    tree.accepts location entry = true ↔
      tree.lookup location = none ∧ tree.lookup location.dropLast = some .directory ∧
        (entry = .directory ∨ ∀ place, (place, entry) ∉ tree.entries) := by
  simp only [accepts, Bool.and_eq_true, decide_eq_true_eq, Bool.or_eq_true, List.all_eq_true,
    and_assoc]
  constructor
  · rintro ⟨free, held, fresh⟩
    refine ⟨free, held, fresh.imp_right fun other place listed => ?_⟩
    exact absurd rfl (other _ listed)
  · rintro ⟨free, held, fresh⟩
    refine ⟨free, held, fresh.imp_right fun other listed member => ?_⟩
    intro same
    exact other listed.1 (same ▸ member)

/-- Adds an entry at a free place in a directory. -/
def add (tree : Tree) (location : Location) (entry : Entry) : Tree :=
  if accepted : tree.accepts location entry then
    { entries := (location, entry) :: tree.entries
      unique := by
        have free := (accepts_iff.1 accepted).1
        refine List.nodup_cons.2 ⟨fun listed => ?_, tree.unique⟩
        obtain ⟨⟨place, there⟩, member, same⟩ := List.mem_map.1 listed
        have found := (mem_entries_iff.1 member).2
        rw [show place = location from same, free] at found
        cases found
      held := by
        obtain ⟨free, holder, _⟩ := accepts_iff.1 accepted
        intro place there listed
        rcases List.mem_cons.1 listed with same | member
        · cases same
          refine ⟨fun root => ?_, ?_⟩
          · rw [root, lookup_root] at free
            cases free
          · by_cases top : location.dropLast = []
            · exact .inl top
            · exact .inr (List.mem_cons_of_mem _ (mem_entries_iff.2 ⟨top, holder⟩))
        · obtain ⟨below, above⟩ := tree.held _ _ member
          exact ⟨below, above.imp_right (List.mem_cons_of_mem _)⟩
      unshared := by
        obtain ⟨_, _, fresh⟩ := accepts_iff.1 accepted
        intro first second object here there
        rcases List.mem_cons.1 here with one | one <;> rcases List.mem_cons.1 there with two | two
        · cases one
          cases two
          rfl
        · cases one
          exact absurd two (fresh.elim (fun kind => nomatch kind) fun other => other second)
        · cases two
          exact absurd one (fresh.elim (fun kind => nomatch kind) fun other => other first)
        · exact tree.unshared _ _ _ one two }
  else tree

/-- What an accepted entry does to the view. -/
theorem lookup_add {tree : Tree} {location : Location} {entry : Entry}
    (accepted : tree.accepts location entry = true) (place : Location) :
    (tree.add location entry).lookup place =
      if place = location then some entry else tree.lookup place := by
  have free := (accepts_iff.1 accepted).1
  have below : location ≠ [] := by
    intro root
    rw [root, lookup_root] at free
    cases free
  rw [add, dif_pos accepted]
  by_cases root : place = []
  · subst root
    simp [Ne.symm below]
  · by_cases same : place = location
    · simp [lookup, find, below, same]
    · simp [lookup, find, root, same, Ne.symm same]

/-- Removes a set of locations that holds everything below each of its members. -/
def without (tree : Tree) (gone : Location → Bool)
    (downward : ∀ location, gone location.dropLast = true → gone location = true) : Tree where
  entries := tree.entries.filter fun entry => !gone entry.1
  unique := List.Nodup.sublist (List.Sublist.map _ List.filter_sublist) tree.unique
  held := by
    intro location entry listed
    obtain ⟨member, stays⟩ := List.mem_filter.1 listed
    obtain ⟨below, above⟩ := tree.held _ _ member
    refine ⟨below, above.imp_right fun holder => List.mem_filter.2 ⟨holder, ?_⟩⟩
    simp only [Bool.not_eq_true', Bool.eq_false_iff, ne_eq] at stays ⊢
    exact fun leaves => stays (downward location leaves)
  unshared := fun first second object here there =>
    tree.unshared first second object (List.mem_filter.1 here).1 (List.mem_filter.1 there).1

theorem lookup_without (tree : Tree) (gone : Location → Bool)
    (downward : ∀ location, gone location.dropLast = true → gone location = true)
    (place : Location) :
    (tree.without gone downward).lookup place =
      if place ≠ [] ∧ gone place = true then none else tree.lookup place := by
  by_cases root : place = []
  · simp [root]
  · have kept : ∀ entries : List (Location × Entry),
        find (entries.filter fun entry => !gone entry.1) place =
          if gone place = true then none else find entries place := by
      intro entries
      induction entries with
      | nil => simp [find]
      | cons head others ih =>
        obtain ⟨first, there⟩ := head
        by_cases leaves : gone first = true <;> by_cases here : first = place
        · subst here
          simp [leaves, ih]
        · simp [leaves, ih, find, here]
        · subst here
          simp [leaves, find]
        · simp [leaves, ih, find, here]
    simp [lookup, root, without, kept]

/-- Removes a location and everything below it. -/
def prune (tree : Tree) (top : Location) : Tree :=
  tree.without (fun location => location.within top) fun _ => Location.within_of_dropLast

/-- Pruning removes what is within a location and nothing else. -/
theorem lookup_prune (tree : Tree) (top place : Location) :
    (tree.prune top).lookup place =
      if place ≠ [] ∧ place.within top = true then none else tree.lookup place :=
  lookup_without tree _ _ place

/-- Removes everything below a location and keeps the location. -/
def clear (tree : Tree) (top : Location) : Tree :=
  tree.without (fun location => location.within top && location ≠ top) <| by
    intro location holder
    simp only [Bool.and_eq_true, decide_eq_true_eq] at holder ⊢
    refine ⟨Location.within_of_dropLast holder.1, fun same => ?_⟩
    have whole := Location.eq_append_of_within holder.1
    have shorter := congrArg List.length whole
    rw [same, List.length_append, List.length_dropLast] at shorter
    have empty : top = [] := by
      apply List.length_eq_zero_iff.1
      omega
    exact holder.2 (by rw [same, empty]; rfl)

/-- Clearing removes what is below a location and nothing else. -/
theorem lookup_clear (tree : Tree) (top place : Location) :
    (tree.clear top).lookup place =
      if place.within top = true ∧ place ≠ top then none else tree.lookup place := by
  rw [clear, lookup_without]
  by_cases root : place = []
  · have whole : place.within top = true → place = top := by
      intro inside
      have split := Location.eq_append_of_within inside
      rw [root] at split ⊢
      exact (List.append_eq_nil_iff.1 split.symm).1.symm
    simp only [Bool.and_eq_true, decide_eq_true_eq]
    rw [if_neg (fun both => both.1 root), if_neg (fun both => both.2 (whole both.1))]
  · simp [root]

/-- Whether the tree at `source` can move to `target`: something other than the root is there, the
target is free and in a directory, and that directory does not move. -/
def movable (tree : Tree) (source target : Location) : Bool :=
  source ≠ [] && tree.lookup source ≠ none && tree.lookup target = none &&
    tree.lookup target.dropLast = some .directory && !Location.within target.dropLast source

theorem movable_iff {tree : Tree} {source target : Location} :
    tree.movable source target = true ↔
      source ≠ [] ∧ tree.lookup source ≠ none ∧ tree.lookup target = none ∧
        tree.lookup target.dropLast = some .directory ∧
          Location.within target.dropLast source = false := by
  simp [movable, and_assoc]

theorem moved_injective {tree : Tree} {source target : Location}
    (free : tree.lookup target = none) {first second : Location}
    (here : tree.lookup first ≠ none) (there : tree.lookup second ≠ none)
    (same : Location.moved source target first = Location.moved source target second) :
    first = second := by
  unfold Location.moved at same
  by_cases one : first.within source = true <;> by_cases two : second.within source = true
  · simp only [one, two, if_true] at same
    rw [Location.eq_append_of_within one, Location.eq_append_of_within two,
      List.append_cancel_left same]
  · rw [if_pos one, if_neg two] at same
    exact absurd (lookup_eq_none_of_within free (same ▸ Location.within_append target _)) there
  · rw [if_neg one, if_pos two] at same
    exact absurd (lookup_eq_none_of_within free (same ▸ Location.within_append target _)) here
  · simpa [one, two] using same

theorem moved_dropLast {source target location : Location} (other : location ≠ source)
    (inside : location.within source = true) :
    (Location.moved source target location).dropLast =
      Location.moved source target location.dropLast := by
  have whole := Location.eq_append_of_within inside
  have below : location.drop source.length ≠ [] := by
    intro empty
    rw [empty, List.append_nil] at whole
    exact other whole
  simp only [Location.moved, inside, Location.within_dropLast inside other, if_true]
  rw [List.dropLast_append_of_ne_nil below]
  congr 1
  rw [List.dropLast_eq_take, List.dropLast_eq_take, List.drop_take, List.length_drop]
  congr 1
  omega

/-- Moves a location and everything below it to a free place in a directory. -/
def move (tree : Tree) (source target : Location) : Tree :=
  if accepted : tree.movable source target then
    { entries := tree.entries.map fun entry => (Location.moved source target entry.1, entry.2)
      unique := by
        obtain ⟨_, _, free, _, _⟩ := movable_iff.1 accepted
        rw [List.map_map]
        have distinct := tree.unique
        rw [List.nodup_iff_pairwise_ne, List.pairwise_map] at distinct ⊢
        refine List.Pairwise.imp_of_mem ?_ distinct
        intro first second here there apart same
        obtain ⟨_, foundFirst⟩ := mem_entries_iff.1 here
        obtain ⟨_, foundSecond⟩ := mem_entries_iff.1 there
        exact apart (moved_injective free (by simp [foundFirst]) (by simp [foundSecond]) same)
      held := by
        obtain ⟨below, _, free, holder, apart⟩ := movable_iff.1 accepted
        intro location entry listed
        obtain ⟨⟨place, kind⟩, member, same⟩ := List.mem_map.1 listed
        obtain ⟨rfl, rfl⟩ := Prod.mk.inj same
        have targetBelow : target ≠ [] := by
          intro root
          rw [root, lookup_root] at free
          cases free
        have stays : ∀ top : Location, top.within source = false →
            tree.lookup top = some .directory → top = [] ∨ (top, Entry.directory) ∈
              tree.entries.map fun entry => (Location.moved source target entry.1, entry.2) := by
          intro top outside found
          by_cases root : top = []
          · exact .inl root
          · refine .inr (List.mem_map.2 ⟨_, mem_entries_iff.2 ⟨root, found⟩, ?_⟩)
            simp [Location.moved, outside]
        obtain ⟨placeBelow, _⟩ := tree.held _ _ member
        have found := (mem_entries_iff.1 member).2
        by_cases inside : place.within source = true
        · by_cases whole : place = source
          · subst whole
            have arrived : Location.moved place target place = target := by
              simp [Location.moved]
            simp only [arrived]
            exact ⟨targetBelow, stays _ apart holder⟩
          · refine ⟨?_, ?_⟩
            · simp only [Location.moved, inside, if_true]
              exact fun empty => targetBelow (List.append_eq_nil_iff.1 empty).1
            · simp only [moved_dropLast whole inside]
              have above := Location.within_dropLast inside whole
              have aboveBelow : place.dropLast ≠ [] := by
                intro root
                rw [root] at above
                have split := Location.eq_append_of_within above
                exact below (List.append_eq_nil_iff.1 split.symm).1
              exact .inr (List.mem_map.2
                ⟨_, mem_entries_iff.2 ⟨aboveBelow, lookup_dropLast found⟩, rfl⟩)
        · have outside : Location.within place.dropLast source = false := by
            rw [Bool.eq_false_iff]
            exact fun held => inside (Location.within_of_dropLast held)
          have unmoved : Location.moved source target place = place := by
            simp [Location.moved, inside]
          simp only [unmoved]
          exact ⟨placeBelow, stays _ outside (lookup_dropLast found)⟩
      unshared := by
        intro first second object here there
        obtain ⟨⟨one, _⟩, memberOne, sameOne⟩ := List.mem_map.1 here
        obtain ⟨⟨two, _⟩, memberTwo, sameTwo⟩ := List.mem_map.1 there
        obtain ⟨rfl, rfl⟩ := Prod.mk.inj sameOne
        obtain ⟨rfl, rfl⟩ := Prod.mk.inj sameTwo
        rw [tree.unshared one two _ memberOne memberTwo] }
  else tree

/-- The objects that have a name. -/
def objects (tree : Tree) : List ObjectId :=
  tree.entries.filterMap fun entry =>
    match entry.2 with
    | .file object => some object
    | .directory => none

theorem mem_objects_iff {tree : Tree} {object : ObjectId} :
    object ∈ tree.objects ↔ ∃ location, (location, Entry.file object) ∈ tree.entries := by
  simp only [objects, List.mem_filterMap]
  constructor
  · rintro ⟨⟨location, entry⟩, member, named⟩
    cases entry with
    | directory => simp at named
    | file other =>
      simp only [Option.some.injEq] at named
      exact ⟨location, named ▸ member⟩
  · rintro ⟨location, member⟩
    exact ⟨_, member, rfl⟩

end Tree

end Heartbeat
