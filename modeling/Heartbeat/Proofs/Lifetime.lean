import Heartbeat.Proofs.Handling

/-!
# The life of a handle

A mapping is there as long as it has holders, and a handle with a mapping of its own undoes it
without counting them.  That nobody is left with a view of nothing rests on three facts about all
that a caller holds (`Caller.Sound`): every mapping counts exactly those who keep it in place,
whoever has one to himself is its only holder, and every handle is marked as closed exactly if it
has no region, and has one only if that can carry its layout and is the mapping it holds.

`Caller.Sound.becomes` says once what each step does, every step keeps the three facts
(`Caller.Becomes.sound`), and so does every run (`Caller.Ran.sound`).  From that follows the life of
a handle, whoever made it and whatever else its caller does (`Caller.Ran.handle_lives`).
-/

set_option autoImplicit false

namespace Heartbeat

/-! ## Who keeps what in place -/

namespace Holding

/-- The mapping that is kept in place by something held. -/
def kept? : Holding → Option Nat
  | reference mapping => some mapping
  | managed handle mapping => if handle.view.isSome then mapping else none
  | dropped => none

/-- A mapping is kept in place by something held. -/
def keeps (mapping : Nat) (holding : Holding) : Bool := holding.kept? = some mapping

/-- A mapping belongs to a handle. -/
def Owns (mapping : Nat) : Holding → Prop
  | managed handle known => known = some mapping ∧ ∃ region, handle.view = some ⟨region, .owned⟩
  | _ => False

variable {holding : Holding} {mapping other : Nat}

theorem keeps_iff : holding.keeps mapping = true ↔ holding.kept? = some mapping := by
  rw [keeps, decide_eq_true_iff]

theorem keeps_iff_of_kept (kept : holding.kept? = some mapping) :
    holding.keeps other = true ↔ mapping = other := by
  rw [keeps_iff, kept, Option.some.injEq]

theorem not_keeps_of_kept (kept : holding.kept? = none) (mapping : Nat) :
    ¬ holding.keeps mapping = true := by
  rw [keeps_iff, kept]
  exact nofun

theorem keeps_of_owns (owns : holding.Owns mapping) : holding.keeps mapping = true := by
  cases holding with
  | managed handle known =>
    obtain ⟨rfl, region, seen⟩ := owns
    rw [keeps_iff, kept?, seen]
    rfl
  | _ => exact owns.elim

end Holding

/-- Every mapping shows what it showed. -/
def Mapping.Lasts (before after : List Mapping) : Prop :=
  ∀ (number : Nat) (known : Mapping), before[number]? = some known →
    ∃ later : Mapping, after[number]? = some later ∧ later.region = known.region

namespace Mapping.Lasts

variable {before : List Mapping}

theorem refl (before : List Mapping) : Lasts before before := fun _ known found =>
  ⟨known, found, rfl⟩

theorem modify (before : List Mapping) (number : Nat) (holders : Mapping → Nat) :
    Lasts before (before.modify number fun known => { known with holders := holders known }) := by
  intro other known found
  rw [List.getElem?_modify, found]
  refine ⟨_, rfl, ?_⟩
  split <;> rfl

theorem append (before : List Mapping) (new : Mapping) : Lasts before (before ++ [new]) := by
  intro number known found
  exact ⟨known, by rw [List.getElem?_append_left (List.getElem?_eq_some_iff.1 found).1, found], rfl⟩

end Mapping.Lasts

/-- What is so of every handle that a caller holds. -/
structure Handle.Held (handle : Handle) (mapping : Option Nat) (mappings : List Mapping) :
    Prop where
  /-- It is marked as closed exactly if it has no region. -/
  marked : handle.Marked
  /-- Its region can carry its layout. -/
  fit : ∀ view, handle.view = some view → handle.layout.check view.region = .ok ()
  /-- Its region is a mapping, unless it is memory of the caller's. -/
  external : ∀ view, handle.view = some view → (view.backing = .external ↔ mapping = none)
  /-- That is the mapping that it holds. -/
  shows : ∀ view, handle.view = some view → ∀ number, mapping = some number →
    ∃ known, mappings[number]? = some known ∧ known.region = view.region

/-- What is so of everything that a caller holds. -/
def Holding.Sound (mappings : List Mapping) : Holding → Prop
  | reference mapping => ∃ known, mappings[mapping]? = some known
  | managed handle mapping => handle.Held mapping mappings
  | dropped => True

namespace Holding.Sound

variable {holding : Holding} {mappings later : List Mapping} {mapping : Nat}

/-- What is kept in place was mapped. -/
theorem exists_of_keeps (sound : holding.Sound mappings) (keeps : holding.keeps mapping = true) :
    ∃ known, mappings[mapping]? = some known := by
  rw [keeps_iff] at keeps
  cases holding with
  | reference _ =>
    cases keeps
    exact sound
  | managed handle number =>
    simp only [kept?] at keeps
    split at keeps
    · next seen =>
      obtain ⟨view, seen⟩ := Option.isSome_iff_exists.1 seen
      obtain ⟨known, found, -⟩ := sound.shows view seen mapping keeps
      exact ⟨known, found⟩
    · cases keeps
  | dropped => cases keeps

theorem mono (sound : holding.Sound mappings) (lasts : Mapping.Lasts mappings later) :
    holding.Sound later := by
  cases holding with
  | reference _ =>
    obtain ⟨known, found⟩ := sound
    obtain ⟨still, found, -⟩ := lasts _ known found
    exact ⟨still, found⟩
  | managed handle mapping =>
    refine ⟨sound.marked, sound.fit, sound.external, fun view seen number same => ?_⟩
    obtain ⟨known, found, shows⟩ := sound.shows view seen number same
    obtain ⟨still, found, same⟩ := lasts _ known found
    exact ⟨still, found, same.trans shows⟩
  | dropped => trivial

/-- A handle without a region keeps nothing in place. -/
theorem shut {handle : Handle} {mapping : Option Nat} (mappings : List Mapping) :
    (Holding.managed handle.shut mapping).Sound mappings where
  marked := rfl
  fit _ seen := nomatch seen
  external _ seen := nomatch seen
  shows _ seen := nomatch seen

end Holding.Sound

/-! ### Handles that were just made -/

namespace Handle.Fresh

variable {handle : Handle} {backing : Backing} {region : Region}
  (fresh : handle.Fresh backing region)
include fresh

theorem marked : handle.Marked := by
  rw [Marked, fresh.closed, fresh.view]
  rfl

/-- A new handle is sound if its region is what the mapping shows that it comes with. -/
theorem sound {mapping : Option Nat} {mappings : List Mapping}
    (external : backing = .external ↔ mapping = none)
    (shows : ∀ number, mapping = some number →
      ∃ known, mappings[number]? = some known ∧ known.region = region) :
    (Holding.managed handle mapping).Sound mappings := by
  have only (view : View) (seen : handle.view = some view) : view = ⟨region, backing⟩ :=
    Option.some.inj (seen.symm.trans fresh.view)
  refine ⟨fresh.marked, fun view seen => ?_, fun view seen => ?_, fun view seen => ?_⟩
  · rw [only view seen]
    exact fresh.fit
  · rw [only view seen]
    exact external
  · rw [only view seen]
    exact shows

theorem kept (mapping : Option Nat) : (Holding.managed handle mapping).kept? = mapping := by
  rw [Holding.kept?, fresh.view]
  rfl

/-- A mapping belongs to a new handle only if the handle has mapped it itself. -/
theorem backing_of_owns {known : Option Nat} {mapping : Nat}
    (owns : (Holding.managed handle known).Owns mapping) : backing = .owned := by
  obtain ⟨-, _, seen⟩ := owns
  cases seen.symm.trans fresh.view
  rfl

end Handle.Fresh

namespace Caller

/-- What is so of every caller. -/
structure Sound (caller : Caller) : Prop where
  /-- Everything that is held is sound. -/
  each : ∀ holding ∈ caller.holdings, holding.Sound caller.mappings
  /-- A mapping counts those who keep it in place. -/
  counted : ∀ (mapping : Nat) (known : Mapping), caller.mappings[mapping]? = some known →
    known.holders = caller.holdings.countP (·.keeps mapping)
  /-- A handle that a mapping belongs to is the only one who keeps it in place. -/
  alone : ∀ (number other mapping : Nat) (owner holding : Holding),
    caller.holdings[number]? = some owner → owner.Owns mapping →
    caller.holdings[other]? = some holding → holding.keeps mapping = true → other = number

variable {caller next : Caller} {number mapping : Nat} {holding old new : Holding}
  {mappings : List Mapping} {handle : Handle} {region : Region}

theorem sound_empty : empty.Sound where
  each _ listed := absurd listed List.not_mem_nil
  counted _ _ found := nomatch found
  alone _ _ _ _ _ found := nomatch found

namespace Sound

variable (sound : caller.Sound)
include sound

/-- What is kept in place is there. -/
theorem isMapped (listed : holding ∈ caller.holdings) (keeps : holding.keeps mapping = true) :
    caller.isMapped mapping = true := by
  obtain ⟨known, found⟩ := (sound.each holding listed).exists_of_keeps keeps
  have counted := sound.counted mapping known found
  have some : 0 < caller.holdings.countP (·.keeps mapping) :=
    List.countP_pos_iff.2 ⟨holding, listed, keeps⟩
  rw [Caller.isMapped, found]
  exact decide_eq_true (counted ▸ some)

/-- One more thing is held. -/
theorem add_of (fits : new.Sound mappings) (lasts : Mapping.Lasts caller.mappings mappings)
    (counts : ∀ (mapping : Nat) (known : Mapping), mappings[mapping]? = some known →
      known.holders =
        caller.holdings.countP (·.keeps mapping) + if new.keeps mapping then 1 else 0)
    (others : ∀ mapping, new.keeps mapping = true → ∀ owner ∈ caller.holdings,
      ¬ owner.Owns mapping)
    (alone : ∀ mapping, new.Owns mapping → ∀ other ∈ caller.holdings,
      ¬ other.keeps mapping = true) : (⟨mappings, caller.holdings ++ [new]⟩ : Caller).Sound where
  each holding listed := by
    rcases List.mem_append.1 listed with earlier | last
    · exact (sound.each holding earlier).mono lasts
    · rwa [List.mem_singleton.1 last]
  counted mapping known found := by
    rw [counts mapping known found, List.countP_append, List.countP_singleton]
  alone number other mapping owner holding := by
    intro found owns found' keeps
    rw [List.getElem?_append] at found found'
    split at found <;> split at found'
    · exact sound.alone number other mapping owner holding found owns found' keeps
    · have last := List.mem_singleton.1 (List.mem_of_getElem? found')
      exact absurd owns (others mapping (last ▸ keeps) owner (List.mem_of_getElem? found))
    · have last := List.mem_singleton.1 (List.mem_of_getElem? found)
      exact absurd keeps (alone mapping (last ▸ owns) holding (List.mem_of_getElem? found'))
    · have first := (List.getElem?_eq_some_iff.1 found).1
      have second := (List.getElem?_eq_some_iff.1 found').1
      simp only [List.length_singleton] at first second
      omega

/-- Under a number something is held now that keeps no mapping in place. -/
theorem put_of (held : caller.holdings[number]? = some old) (fits : new.Sound mappings)
    (lasts : Mapping.Lasts caller.mappings mappings) (keptNow : new.kept? = none)
    (counts : ∀ (mapping : Nat) (known : Mapping), mappings[mapping]? = some known →
      known.holders + (if old.keeps mapping then 1 else 0) =
        caller.holdings.countP (·.keeps mapping)) :
    (⟨mappings, caller.holdings.set number new⟩ : Caller).Sound where
  each holding listed := by
    rcases List.mem_or_eq_of_mem_set listed with earlier | rfl
    · exact (sound.each holding earlier).mono lasts
    · exact fits
  counted mapping known found := by
    obtain ⟨inside, same⟩ := List.getElem?_eq_some_iff.1 held
    have counts := counts mapping known found
    rw [List.countP_set inside, same, if_neg (Holding.not_keeps_of_kept keptNow mapping)]
    omega
  alone first second mapping owner holding := by
    intro found owns found' keeps
    -- Whatever keeps a mapping in place was held under the same number before.
    have before {index : Nat} {now : Holding}
        (there : (caller.holdings.set number new)[index]? = some now)
        (keeps : now.keeps mapping = true) : caller.holdings[index]? = some now := by
      by_cases same : number = index
      · subst same
        rw [List.getElem?_set_self (List.getElem?_eq_some_iff.1 held).1] at there
        cases there
        exact absurd keeps (Holding.not_keeps_of_kept keptNow mapping)
      · rwa [List.getElem?_set_ne same] at there
    exact sound.alone first second mapping owner holding
      (before found (Holding.keeps_of_owns owns)) owns (before found' keeps) keeps

/-- A new mapping has one holder. -/
theorem add_new (fits : new.Sound (caller.mappings ++ [⟨region, 1⟩]))
    (kept : new.kept? = some caller.mappings.length) : ((caller.map region).add new).Sound := by
  have only {mapping : Nat} (keeps : new.keeps mapping = true) :
      caller.mappings.length = mapping := (Holding.keeps_iff_of_kept kept).1 keeps
  have unknown (holding : Holding) (listed : holding ∈ caller.holdings) :
      ¬ holding.keeps caller.mappings.length = true := by
    intro keeps
    obtain ⟨_, found⟩ := (sound.each holding listed).exists_of_keeps keeps
    exact Nat.lt_irrefl _ (List.getElem?_eq_some_iff.1 found).1
  refine sound.add_of fits (.append _ _) (fun mapping known found => ?_)
    (fun mapping keeps owner listed owns => ?_) (fun mapping owns other listed => ?_)
  · rw [show (caller.map region).mappings = caller.mappings ++ [⟨region, 1⟩] from rfl,
      List.getElem?_append] at found
    split at found
    · next old =>
      have others : new.keeps mapping ≠ true := fun keeps => Nat.ne_of_gt old (only keeps)
      rw [sound.counted mapping known found, if_neg others, Nat.add_zero]
    · next new' =>
      obtain ⟨inside, rfl⟩ := List.getElem?_eq_some_iff.1 found
      obtain rfl : mapping = caller.mappings.length := by
        simp only [List.length_singleton] at inside
        omega
      have none : caller.holdings.countP (·.keeps caller.mappings.length) = 0 :=
        List.countP_eq_zero.2 unknown
      simp [none, Holding.keeps_iff.2 kept]
  · exact unknown owner listed (only keeps ▸ Holding.keeps_of_owns owns)
  · exact only (Holding.keeps_of_owns owns) ▸ unknown other listed

/-- A mapping that the caller has a reference to has one more holder. -/
theorem add_held (held : caller.holdings[number]? = some (.reference mapping))
    (fits : new.Sound (caller.hold mapping).mappings) (kept : new.kept? = some mapping)
    (shared : ∀ mapping, ¬ new.Owns mapping) : ((caller.hold mapping).add new).Sound := by
  refine sound.add_of fits (.modify _ _ _) (fun other known found => ?_)
    (fun other keeps owner listed owns => ?_) (fun other owns => absurd owns (shared other))
  · simp only [hold, List.getElem?_modify, Option.map_eq_map, Option.map_eq_some_iff] at found
    obtain ⟨old, found, rfl⟩ := found
    simp only [Holding.keeps_iff_of_kept kept]
    split
    · exact congrArg (· + 1) (sound.counted other old found)
    · exact sound.counted other old found
  · -- The caller's reference keeps the mapping in place, so it belongs to no handle.
    obtain rfl : mapping = other := (Holding.keeps_iff_of_kept kept).1 keeps
    obtain ⟨index, found⟩ := List.mem_iff_getElem?.1 listed
    obtain rfl := sound.alone index number mapping owner _ found owns held (Holding.keeps_iff.2 rfl)
    cases held.symm.trans found
    exact owns

/-- One more thing that keeps no mapping in place. -/
theorem add_apart (fits : new.Sound caller.mappings) (kept : new.kept? = none) :
    (caller.add new).Sound := by
  have nothing := Holding.not_keeps_of_kept kept
  refine sound.add_of fits (.refl _) (fun mapping known found => ?_)
    (fun mapping keeps => absurd keeps (nothing mapping))
    (fun mapping owns => absurd (Holding.keeps_of_owns owns) (nothing mapping))
  rw [if_neg (nothing mapping), Nat.add_zero, sound.counted mapping known found]

/-- A mapping has one holder fewer. -/
theorem put_released (held : caller.holdings[number]? = some old)
    (kept : old.kept? = some mapping) (fits : new.Sound (caller.release mapping).mappings)
    (keptNow : new.kept? = none) : ((caller.release mapping).put number new).Sound := by
  refine sound.put_of held fits (.modify _ _ _) keptNow fun other known found => ?_
  simp only [release, List.getElem?_modify, Option.map_eq_map, Option.map_eq_some_iff] at found
  obtain ⟨known, found, rfl⟩ := found
  simp only [Holding.keeps_iff_of_kept kept]
  have counted := sound.counted other known found
  split
  · next same =>
    have keeps : old.keeps other = true := (Holding.keeps_iff_of_kept kept).2 same
    have some : 0 < caller.holdings.countP (·.keeps other) :=
      List.countP_pos_iff.2 ⟨old, List.mem_of_getElem? held, keeps⟩
    simp only
    omega
  · exact counted

/-- What keeps no mapping in place is replaced by something of that kind. -/
theorem put_apart (held : caller.holdings[number]? = some old) (kept : old.kept? = none)
    (fits : new.Sound caller.mappings) (keptNow : new.kept? = none) :
    (caller.put number new).Sound := by
  refine sound.put_of held fits (.refl _) keptNow fun mapping known found => ?_
  rw [if_neg (Holding.not_keeps_of_kept kept mapping), Nat.add_zero,
    sound.counted mapping known found]

/-- To undo a mapping of one's own is to be one holder fewer, since there is no other. -/
theorem unmap_eq_release (held : caller.holdings[number]? = some old)
    (owns : old.Owns mapping) : caller.unmap mapping = caller.release mapping := by
  obtain ⟨inside, same⟩ := List.getElem?_eq_some_iff.1 held
  have none : (caller.holdings.set number .dropped).countP (·.keeps mapping) = 0 := by
    refine List.countP_eq_zero.2 fun holding listed keeps => ?_
    obtain ⟨other, found⟩ := List.mem_iff_getElem?.1 listed
    by_cases apart : number = other
    · subst apart
      rw [List.getElem?_set_self inside] at found
      cases found
      exact nomatch keeps
    · rw [List.getElem?_set_ne apart] at found
      exact apart (sound.alone number other mapping old holding held owns found keeps).symm
  have keeps : caller.holdings[number].keeps mapping = true :=
    same ▸ Holding.keeps_of_owns owns
  rw [List.countP_set inside, if_pos keeps] at none
  have counted := sound.counted mapping
  unfold unmap release
  congr 1
  refine List.ext_getElem? fun other => ?_
  rw [List.getElem?_modify, List.getElem?_modify]
  cases found : caller.mappings[other]? with
  | none => rfl
  | some known =>
    by_cases here : mapping = other
    · subst here
      have last : known.holders - 1 = 0 := by
        rw [counted known found]
        omega
      simp only [Option.map_eq_map, Option.map_some, if_true, last]
    · simp only [Option.map_eq_map, Option.map_some, if_neg here]

/-- A handle loses its region, and nobody else loses anything. -/
theorem loseView {view : View} {handle : Handle} {known : Option Nat}
    (held : caller.holdings[number]? = some (.managed handle known))
    (seen : handle.view = some view) (fits : ∀ mappings, new.Sound mappings)
    (keptNow : new.kept? = none) : ((caller.loseView view known).put number new).Sound := by
  have external := (sound.each _ (List.mem_of_getElem? held)).external view seen
  obtain ⟨region, backing⟩ := view
  have kept : (Holding.managed handle known).kept? = known := by
    simp only [Holding.kept?, seen, Option.isSome_some, if_true]
  cases known with
  | none =>
    cases backing with
    | external => exact sound.put_apart held kept (fits _) keptNow
    | owned | shared => exact nomatch external.2 rfl
  | some mapping =>
    cases backing with
    | owned =>
      change ((caller.unmap mapping).put number new).Sound
      rw [sound.unmap_eq_release held ⟨rfl, region, seen⟩]
      exact sound.put_released held kept (fits _) keptNow
    | shared => exact sound.put_released held kept (fits _) keptNow
    | external => exact nomatch external.1 rfl

/-- Nobody who goes to the region of a handle finds that it is gone. -/
theorem isMapped_all {known : Option Nat}
    (held : caller.holdings[number]? = some (.managed handle known))
    (seen : handle.view.isSome = true) : known.all caller.isMapped = true := by
  cases known with
  | none => rfl
  | some mapping =>
    refine sound.isMapped (List.mem_of_getElem? held) (Holding.keeps_iff.2 ?_)
    rw [Holding.kept?, if_pos seen]

/-- A handle of the caller has in view what it had in view by itself. -/
theorem region_of_managed {known : Option Nat}
    (held : caller.holdings[number]? = some (.managed handle known)) :
    caller.region number = handle.region := by
  unfold Caller.region
  rw [held]
  simp only
  cases given : handle.region with
  | error _ => rfl
  | ok region =>
    have seen : handle.view.isSome = true := by
      unfold Handle.region at given
      split at given
      · cases given
      · next seen => rw [seen]; rfl
    exact if_pos (sound.isMapped_all held seen)

/-- A reference of the caller's shows what was mapped. -/
theorem region_of_reference (held : caller.holdings[number]? = some (.reference mapping)) :
    ∃ known, caller.mappings[mapping]? = some known ∧ caller.region number = .ok known.region := by
  have there := sound.isMapped (List.mem_of_getElem? held) (Holding.keeps_iff.2 rfl)
  obtain ⟨known, found⟩ := sound.each _ (List.mem_of_getElem? held)
  refine ⟨known, found, ?_⟩
  rw [Caller.isMapped, found] at there
  unfold Caller.region
  rw [held]
  simp only [found]
  exact if_pos (of_decide_eq_true there)

/-- A use of a handle is a use of it by itself. -/
theorem use_eq {known : Option Nat}
    (held : caller.holdings[number]? = some (.managed handle known)) (use : Handle.Use)
    (rounds : Nat) : caller.use rounds number use =
      use.activity rounds handle >>= fun answer =>
        pure (answer.1, caller.settle number handle known answer.2) := by
  have safe : (use.goesToRegion && handle.view.isSome && !known.all caller.isMapped) = false := by
    cases seen : handle.view.isSome with
    | false => rw [Bool.and_false, Bool.false_and]
    | true =>
      rw [sound.isMapped_all held seen]
      exact Bool.and_false _
  unfold Caller.use
  rw [held]
  simp only [safe, Bool.false_eq_true, if_false]

end Sound

/-! ## What a step does -/

@[simp] theorem holdings_loseView (caller : Caller) (view : View) (known : Option Nat) :
    (caller.loseView view known).holdings = caller.holdings := by
  unfold loseView
  split <;> rfl

theorem settle_self {known : Option Nat}
    (held : caller.holdings[number]? = some (.managed handle known)) :
    caller.settle number handle known handle = caller := by
  have same : caller.put number (.managed handle known) = caller := by
    obtain ⟨inside, same⟩ := List.getElem?_eq_some_iff.1 held
    rw [put, ← same, List.set_getElem_self]
  unfold settle
  split
  · next seen none => exact nomatch seen.symm.trans none
  · exact same

theorem settle_shut {view : View} (seen : handle.view = some view) (known : Option Nat) :
    caller.settle number handle known handle.shut =
      (caller.loseView view known).put number (.managed handle.shut known) := by
  unfold settle
  rw [seen]
  rfl

/-- What the steps of a caller make of it. -/
inductive Becomes (caller : Caller) : Step → Caller → Prop where
  /-- A handle from a path comes with a mapping that belongs to it. -/
  | receives {acquisition : Acquisition} {handle : Handle} {region : Region}
      (fresh : handle.Fresh .owned region) :
      caller.Becomes (.acquires acquisition)
        ((caller.map region).add (.managed handle (some caller.mappings.length)))
  /-- The caller has the first reference to a new mapping. -/
  | refers (region : Region) :
      caller.Becomes (.maps region)
        ((caller.map region).add (.reference caller.mappings.length))
  /-- A mapping has one more reference. -/
  | copies {number mapping : Nat} (held : caller.holdings[number]? = some (.reference mapping)) :
      caller.Becomes (.copies number) ((caller.hold mapping).add (.reference mapping))
  /-- A handle holds a mapping that the caller has a reference to. -/
  | shares {number mapping : Nat} {known : Mapping} {layout : Layout} {handle : Handle}
      (held : caller.holdings[number]? = some (.reference mapping))
      (found : caller.mappings[mapping]? = some known)
      (fresh : handle.Fresh .shared known.region) :
      caller.Becomes (.shares number layout)
        ((caller.hold mapping).add (.managed handle (some mapping)))
  /-- A handle has memory in view that is none of the mappings. -/
  | lends {region : Region} {layout : Layout} {handle : Handle}
      (fresh : handle.Fresh .external region) :
      caller.Becomes (.lends region layout) (caller.add (.managed handle none))
  /-- A handle is closed and lets go of its region. -/
  | closes {number : Nat} {handle : Handle} {mapping : Option Nat} {view : View}
      (held : caller.holdings[number]? = some (.managed handle mapping))
      (seen : handle.view = some view) :
      caller.Becomes (.uses number .close)
        ((caller.loseView view mapping).put number (.managed handle.shut mapping))
  /-- A handle with a region is dropped. -/
  | dropsOpen {number : Nat} {handle : Handle} {mapping : Option Nat} {view : View}
      (held : caller.holdings[number]? = some (.managed handle mapping))
      (seen : handle.view = some view) :
      caller.Becomes (.drops number) ((caller.loseView view mapping).put number .dropped)
  /-- A reference is dropped. -/
  | dropsReference {number mapping : Nat}
      (held : caller.holdings[number]? = some (.reference mapping)) :
      caller.Becomes (.drops number) ((caller.release mapping).put number .dropped)
  /-- Something is dropped that keeps no mapping in place. -/
  | dropsOther {number : Nat} {old : Holding} (held : caller.holdings[number]? = some old)
      (kept : old.kept? = none) : caller.Becomes (.drops number) (caller.put number .dropped)
  /-- Nothing changes, unless an open handle is to be closed. -/
  | rests {step : Step} (unclosed : ∀ (number : Nat) (handle : Handle) (mapping : Option Nat),
      step = .uses number .close → caller.holdings[number]? = some (.managed handle mapping) →
      handle.view = none) : caller.Becomes step caller

namespace Sound

variable (sound : caller.Sound)
include sound

/-- A use closes the handle if that is what it is for, and changes nothing else. -/
theorem becomes_use (use : Handle.Use) (rounds : Nat) (environment : Environment) :
    ((caller.use rounds number use).run environment).Gives fun answer _ =>
      caller.Becomes (.uses number use) answer.2 := by
  have idle (nobody : ∀ (handle : Handle) (mapping : Option Nat),
      caller.holdings[number]? ≠ some (.managed handle mapping)) :
      caller.Becomes (.uses number use) caller :=
    .rests fun _ handle mapping same held => by
      cases same
      exact absurd held (nobody handle mapping)
  cases held : caller.holdings[number]? with
  | none =>
    unfold Caller.use
    rw [held]
    exact idle fun _ _ => by rw [held]; exact nofun
  | some holding =>
    cases holding with
    | reference _ | dropped =>
      unfold Caller.use
      rw [held]
      exact idle fun _ _ => by rw [held]; exact nofun
    | managed handle mapping =>
      have inside := sound.each _ (List.mem_of_getElem? held)
      rw [sound.use_eq held]
      cases seen : handle.view with
      | none =>
        have ensures := use.ensures_activity_of_closed inside.marked seen rounds environment
        refine .bind ensures.gives fun answer _ ended => ?_
        change caller.Becomes _ (caller.settle number handle mapping answer.2)
        rw [ended.1, settle_self held]
        refine .rests fun _ other known same found => ?_
        cases same
        cases held.symm.trans found
        exact seen
      | some view =>
        have ensures := use.ensures_activity_of_open inside.marked (Handle.fields_of_view seen)
          (inside.fit view seen) rounds environment
        refine .bind ensures.gives fun answer _ ended => ?_
        change caller.Becomes _ (caller.settle number handle mapping answer.2)
        rw [ended.1]
        cases use with
        | close =>
          change caller.Becomes _ (caller.settle number handle mapping handle.shut)
          rw [settle_shut seen]
          exact .closes held seen
        | _ =>
          change caller.Becomes _ (caller.settle number handle mapping handle)
          rw [settle_self held]
          exact .rests fun _ _ _ same => nomatch same

/-- To close a handle never fails, and leaves the world as it is. -/
theorem run_close {known : Option Nat}
    (held : caller.holdings[number]? = some (.managed handle known)) (rounds : Nat)
    (environment : Environment) :
    ∃ reports, (caller.use rounds number .close).run environment =
      .returned (.done, caller.settle number handle known handle.shut)
        (environment.reporting reports) := by
  obtain ⟨reports, closes⟩ :=
    (sound.each _ (List.mem_of_getElem? held)).marked.run_close environment
  refine ⟨reports, ?_⟩
  rw [sound.use_eq held]
  simp only [Handle.Use.activity]
  rw [Activity.run_bind_assoc, Activity.run_bind_of_returned _ closes]
  rfl

/-- What each step does. -/
theorem becomes (step : Step) (rounds : Nat) (environment : Environment) :
    ((step.activity rounds caller).run environment).Gives fun answer _ =>
      caller.Becomes step answer.2 := by
  have idle {step : Step} (use : ∀ number, step ≠ .uses number .close) :
      caller.Becomes step caller := .rests fun number _ _ same => absurd same (use number)
  cases step with
  | acquires acquisition =>
    refine .bind (acquisition.gives_fresh rounds environment) fun handle _ ⟨region, fresh⟩ => ?_
    change caller.Becomes _ (caller.receive handle)
    unfold receive
    rw [fresh.view]
    exact .receives fresh
  | maps region => exact .refers region
  | copies number =>
    change caller.Becomes _ (caller.copy number)
    unfold copy
    split
    · next held => exact .copies held
    · exact idle nofun
  | shares number layout =>
    refine .bind (Activity.gives_ofExcept environment (caller.share number layout))
      fun next _ given => ?_
    change caller.Becomes _ next
    unfold share at given
    split at given
    · next mapping held =>
      obtain ⟨known, found, shown⟩ := sound.region_of_reference held
      rw [shown] at given
      simp only at given
      split at given
      · cases given
      · next handle made =>
        cases given
        exact .shares held found (Handle.fresh_of_ofView made)
    · cases given
      exact idle nofun
  | lends region layout =>
    refine .bind (Activity.gives_ofExcept environment (caller.lend region layout))
      fun next _ given => ?_
    change caller.Becomes _ next
    unfold lend at given
    split at given
    · cases given
    · next handle made =>
      cases given
      exact .lends (Handle.fresh_of_ofView made)
  | uses number use => exact sound.becomes_use use rounds environment
  | drops number =>
    change caller.Becomes _ (caller.drop number)
    unfold drop
    split
    · next mapping held => exact .dropsReference held
    · next held => exact .dropsOpen held rfl
    · next others open' =>
      cases held : caller.holdings[number]? with
      | none =>
        have same : caller.put number .dropped = caller := by
          rw [put, List.set_eq_of_length_le (List.getElem?_eq_none_iff.1 held)]
        rw [same]
        exact idle nofun
      | some old =>
        refine .dropsOther held ?_
        cases old with
        | reference mapping => exact absurd held (others mapping)
        | dropped => rfl
        | managed handle mapping =>
          obtain ⟨_, _, _, _ | view, _⟩ := handle
          · rfl
          · exact absurd held (open' _ _ _ _ _ _)

end Sound

namespace Becomes

variable {step : Step} (becomes : caller.Becomes step next)
include becomes

/-- A sound caller stays sound. -/
theorem sound (sound : caller.Sound) : next.Sound := by
  cases becomes with
  | receives fresh =>
    refine sound.add_new (fresh.sound (iff_of_false nofun nofun) ?_) (fresh.kept _)
    rintro _ ⟨⟩
    exact ⟨_, List.getElem?_concat_length, rfl⟩
  | refers region => exact sound.add_new ⟨_, List.getElem?_concat_length⟩ rfl
  | copies held =>
    refine sound.add_held held ?_ rfl fun _ => id
    exact (sound.each _ (List.mem_of_getElem? held)).mono (.modify _ _ _)
  | shares held found fresh =>
    refine sound.add_held held (fresh.sound (iff_of_false nofun nofun) ?_) (fresh.kept _)
      fun _ owns => nomatch fresh.backing_of_owns owns
    rintro _ ⟨⟩
    exact Mapping.Lasts.modify _ _ _ _ _ found
  | lends fresh =>
    exact sound.add_apart (fresh.sound (iff_of_true rfl rfl) nofun) (fresh.kept _)
  | closes held seen => exact sound.loseView held seen .shut rfl
  | dropsOpen held seen => exact sound.loseView held seen (fun _ => trivial) rfl
  | dropsReference held => exact sound.put_released held rfl trivial rfl
  | dropsOther held kept => exact sound.put_apart held kept trivial rfl
  | rests => exact sound

/-- What is held under other numbers than the one that a step is about stays as it is. -/
theorem getElem?_eq {number : Nat} (inside : number < caller.holdings.length)
    (unclosed : step ≠ .uses number .close) (undropped : step ≠ .drops number) :
    next.holdings[number]? = caller.holdings[number]? := by
  have added (caller : Caller) (inside : number < caller.holdings.length) (new : Holding) :
      (caller.add new).holdings[number]? = caller.holdings[number]? :=
    List.getElem?_append_left inside
  have apart {other : Nat} (caller : Caller) (new : Holding) (apart : other ≠ number) :
      (caller.put other new).holdings[number]? = caller.holdings[number]? :=
    List.getElem?_set_ne apart
  cases becomes with
  | receives | refers | copies | shares | lends => exact added _ inside _
  | closes =>
    rw [apart _ _ fun same => unclosed (same ▸ rfl), holdings_loseView]
  | dropsOpen =>
    rw [apart _ _ fun same => undropped (same ▸ rfl), holdings_loseView]
  | dropsReference =>
    rw [apart _ _ fun same => undropped (same ▸ rfl)]
    rfl
  | dropsOther => rw [apart _ _ fun same => undropped (same ▸ rfl)]
  | rests => rfl

/-- A handle that is to be closed is closed then, whether it was before or not. -/
theorem shut_of_close {known : Option Nat} (marked : handle.Marked)
    (held : caller.holdings[number]? = some (.managed handle known))
    (closes : step = .uses number .close) :
    next.holdings[number]? = some (.managed handle.shut known) := by
  cases becomes with
  | closes held' seen =>
    cases closes
    cases held.symm.trans held'
    refine List.getElem?_set_self ?_
    rw [show (caller.loseView _ known).holdings = caller.holdings from holdings_loseView ..]
    exact (List.getElem?_eq_some_iff.1 held).1
  | rests unclosed => rw [marked.shut_of_view (unclosed _ _ _ closes held), held]
  | _ => exact nomatch closes

/-- A handle that a step brings about was just made. -/
theorem fresh {known : Option Nat}
    (given : next.holdings[caller.holdings.length]? = some (.managed handle known)) :
    ∃ backing region, handle.Fresh backing region := by
  have nobody {holdings : List Holding} (same : holdings.length = caller.holdings.length)
      (given : holdings[caller.holdings.length]? = some (.managed handle known)) : False :=
    Nat.lt_irrefl _ (same ▸ (List.getElem?_eq_some_iff.1 given).1)
  have last {caller : Caller} {new : Holding}
      (given : (caller.add new).holdings[caller.holdings.length]? = some (.managed handle known)) :
      new = .managed handle known :=
    Option.some.inj (List.getElem?_concat_length.symm.trans given)
  cases becomes with
  | receives fresh | lends fresh =>
    cases last given
    exact ⟨_, _, fresh⟩
  | shares _ _ fresh =>
    cases last given
    exact ⟨_, _, fresh⟩
  | refers | copies => exact nomatch last given
  | closes | dropsOpen =>
    exact (nobody (List.length_set.trans (congrArg _ (holdings_loseView ..))) given).elim
  | dropsReference | dropsOther => exact (nobody List.length_set given).elim
  | rests => exact (nobody rfl given).elim

end Becomes

/-! ## Runs -/

/-- What a caller can be after some steps.  Each of them has an environment of its own, since
others act in between, and a step that fails leaves the caller as it was. -/
inductive Ran (start : Caller) : List Step → Caller → Prop where
  /-- At the beginning. -/
  | nothing : start.Ran [] start
  /-- After a step that returned. -/
  | returned {steps : List Step} {now next : Caller} {step : Step} {rounds : Nat}
      {environment after : Environment} {reply : Handle.Reply} (ran : start.Ran steps now)
      (returns : (step.activity rounds now).run environment = .returned (reply, next) after) :
      start.Ran (steps ++ [step]) next
  /-- After a step that failed. -/
  | failed {steps : List Step} {now : Caller} {step : Step} {rounds : Nat}
      {environment after : Environment} {failure : Failure} (ran : start.Ran steps now)
      (fails : (step.activity rounds now).run environment = .failed failure after) :
      start.Ran (steps ++ [step]) now

namespace Ran

variable {start now : Caller} {steps : List Step}

theorem sound (ran : start.Ran steps now) (first : start.Sound) : now.Sound := by
  induction ran with
  | nothing => exact first
  | returned _ returns ih =>
    exact ((ih.becomes _ _ _).of_eq returns).sound ih
  | failed _ _ ih => exact ih

/-- A handle that is never dropped is what it was until it is closed, and closed from then on. -/
theorem managed {known : Option Nat} (ran : start.Ran steps now) (first : start.Sound)
    (given : start.holdings[number]? = some (.managed handle known))
    (kept : .drops number ∉ steps) :
    (.uses number .close ∉ steps → now.holdings[number]? = some (.managed handle known)) ∧
      (.uses number .close ∈ steps →
        now.holdings[number]? = some (.managed handle.shut known)) := by
  have there {holdings : List Holding} {holding : Holding}
      (found : holdings[number]? = some holding) : number < holdings.length :=
    (List.getElem?_eq_some_iff.1 found).1
  induction ran with
  | nothing => exact ⟨fun _ => given, fun listed => absurd listed List.not_mem_nil⟩
  | @returned steps now next step _ _ _ _ ran returns ih =>
    obtain ⟨stays, gone⟩ := ih fun listed => kept (List.mem_append_left _ listed)
    have undropped : step ≠ .drops number := fun same =>
      kept (same ▸ List.mem_append_right _ (List.mem_singleton_self _))
    have becomes := ((ran.sound first).becomes _ _ _).of_eq returns
    simp only [List.mem_append, List.mem_singleton]
    refine ⟨fun unclosed => ?_, fun closes => ?_⟩
    · have before := stays fun listed => unclosed (.inl listed)
      have unclosed : step ≠ .uses number .close := fun same => unclosed (.inr same.symm)
      rw [becomes.getElem?_eq (there before) unclosed undropped, before]
    · by_cases same : step = .uses number .close
      · by_cases before : .uses number .close ∈ steps
        · have marked : handle.shut.Marked := rfl
          have again := becomes.shut_of_close marked (gone before) same
          exact again
        · have before := stays before
          have marked := ((ran.sound first).each _ (List.mem_of_getElem? before)).marked
          exact becomes.shut_of_close marked before same
      · have before := gone (closes.resolve_right fun closes => same closes.symm)
        rw [becomes.getElem?_eq (there before) same undropped, before]
  | @failed steps now step rounds environment _ _ ran fails ih =>
    obtain ⟨stays, gone⟩ := ih fun listed => kept (List.mem_append_left _ listed)
    simp only [List.mem_append, List.mem_singleton]
    refine ⟨fun unclosed => stays fun listed => unclosed (.inl listed), fun closes => ?_⟩
    rcases closes with closes | rfl
    · exact gone closes
    · -- To close a handle never fails.
      by_cases before : .uses number .close ∈ steps
      · exact gone before
      · obtain ⟨_, closes⟩ := (ran.sound first).run_close (stays before) rounds environment
        exact nomatch fails.symm.trans closes

end Ran

/-! ## The life of a handle -/

/-- Under a number there is an open handle, with a region that can carry its layout.  Whatever goes
to the region is answered, as long as it does not put bytes past the end. -/
structure Serves (caller : Caller) (number : Nat) (handle : Handle) (region : Region) :
    Prop where
  /-- The region is there. -/
  there : caller.region number = .ok region
  /-- It can carry the layout. -/
  fit : (⟨region, handle.layout⟩ : ControlFields).Fit
  /-- It is read and written. -/
  answers : ∀ (use : Handle.Use) (rounds : Nat) (environment : Environment), use.Accesses →
    (∀ offset bytes, use = .put offset bytes → offset + bytes.length ≤ region.capacity) →
    ∃ reply, (caller.use rounds number use).run environment = .returned (reply, caller)
        (environment.inside ⟨environment.clock,
          region.patched environment.storage (use.patch? handle.layout)⟩) ∧
      use.Answers ⟨region, handle.layout⟩ environment.storage reply

/-- Under a number there is a closed handle.  Whatever goes to the region is refused, the owner is
not alive, which takes no look at the clock, and to close the handle does nothing. -/
structure Refuses (caller : Caller) (number : Nat) : Prop where
  /-- The region is gone. -/
  gone : caller.region number = .error (.refused .closed)
  /-- It is not read and not written. -/
  refuses : ∀ (use : Handle.Use) (rounds : Nat) (environment : Environment), use.Accesses →
    (caller.use rounds number use).run environment = .failed (.refused .closed) environment
  /-- The owner is not alive. -/
  inactive : ∀ (handshake : Handshake) (rounds : Nat) (environment : Environment),
    (caller.use rounds number (.isActive handshake)).run environment =
      .returned (.answer false, caller) environment
  /-- Closing does nothing. -/
  idle : ∀ (rounds : Nat) (environment : Environment),
    (caller.use rounds number .close).run environment = .returned (.done, caller) environment

/-- To close the handle under a number touches no byte, and whatever else is held shows what it
showed. -/
structure Closes (caller : Caller) (number : Nat) (next : Caller) : Prop where
  /-- The world stays as it is. -/
  returns : ∀ (rounds : Nat) (environment : Environment), ∃ reports,
    (caller.use rounds number .close).run environment =
      .returned (.done, next) (environment.reporting reports)
  /-- Nothing else that is held changes. -/
  others : ∀ other, other ≠ number → next.holdings[other]? = caller.holdings[other]? ∧
    next.region other = caller.region other
  /-- All references of the caller's are good. -/
  references : ∀ (other mapping : Nat), caller.holdings[other]? = some (.reference mapping) →
    ∃ region, next.region other = .ok region
  /-- So are all other handles that are open. -/
  handles : ∀ (other : Nat) (handle : Handle) (mapping : Option Nat), other ≠ number →
    caller.holdings[other]? = some (.managed handle mapping) →
    ∀ view, handle.view = some view → next.Serves other handle view.region

theorem holdings_settle (caller : Caller) (number : Nat) (handle next : Handle)
    (known : Option Nat) : (caller.settle number handle known next).holdings =
      caller.holdings.set number (.managed next known) := by
  unfold settle
  split
  · rw [put, holdings_loseView]
  · rfl

/-- Whoever lets go of a region leaves every mapping what it shows. -/
theorem lasts_settle (caller : Caller) (number : Nat) (handle next : Handle)
    (known : Option Nat) : Mapping.Lasts caller.mappings
      (caller.settle number handle known next).mappings := by
  unfold settle
  split
  · change Mapping.Lasts caller.mappings (caller.loseView _ known).mappings
    unfold loseView
    split
    · exact .modify _ _ _
    · exact .modify _ _ _
    · exact .refl _
  · exact .refl _

namespace Sound

variable (sound : caller.Sound)
include sound

/-- What is still held shows what it showed. -/
theorem region_eq (later : next.Sound) (lasts : Mapping.Lasts caller.mappings next.mappings)
    (same : next.holdings[number]? = caller.holdings[number]?) :
    next.region number = caller.region number := by
  cases held : caller.holdings[number]? with
  | none =>
    rw [Caller.region, Caller.region, same, held]
  | some holding =>
    cases holding with
    | reference mapping =>
      obtain ⟨known, found, shown⟩ := sound.region_of_reference held
      obtain ⟨still, found', shown'⟩ := later.region_of_reference (same.trans held)
      obtain ⟨_, found'', shows⟩ := lasts mapping known found
      cases found'.symm.trans found''
      rw [shown, shown', shows]
    | managed handle mapping =>
      rw [sound.region_of_managed held, later.region_of_managed (same.trans held)]
    | dropped =>
      rw [Caller.region, Caller.region, same, held]

variable {known : Option Nat} (held : caller.holdings[number]? = some (.managed handle known))
include held

/-- A use that the handle by itself answers is answered. -/
theorem run_use_of_returned {use : Handle.Use} {rounds : Nat} {environment after : Environment}
    {reply : Handle.Reply} (returns : (use.activity rounds handle).run environment =
      .returned (reply, handle) after) :
    (caller.use rounds number use).run environment = .returned (reply, caller) after := by
  rw [sound.use_eq held, Activity.run_bind_of_returned _ returns, settle_self held]
  rfl

/-- A use that the handle by itself refuses is refused. -/
theorem run_use_of_failed {use : Handle.Use} {rounds : Nat} {environment after : Environment}
    {failure : Failure} (fails : (use.activity rounds handle).run environment =
      .failed failure after) :
    (caller.use rounds number use).run environment = .failed failure after := by
  rw [sound.use_eq held, Activity.run_bind_of_failed _ fails]

theorem serves {view : View} (seen : handle.view = some view) :
    caller.Serves number handle view.region := by
  have fit := (sound.each _ (List.mem_of_getElem? held)).fit view seen
  have on := Handle.fields_of_view seen
  refine ⟨?_, fit, fun use rounds environment accesses inside => ?_⟩
  · rw [sound.region_of_managed held, Handle.region, seen]
  · rcases Handle.Use.run_of_open on fit accesses rounds environment with
      ⟨reply, returns, answers⟩ | ⟨offset, bytes, _, puts, past, -⟩
    · exact ⟨reply, sound.run_use_of_returned held returns, answers⟩
    · exact absurd (inside offset bytes puts) (Nat.not_le_of_lt past)

theorem refuses (closed : handle.view = none) : caller.Refuses number := by
  have marked := (sound.each _ (List.mem_of_getElem? held)).marked
  refine ⟨?_, fun use rounds environment accesses => ?_, fun handshake rounds environment => ?_,
    fun rounds environment => ?_⟩
  · rw [sound.region_of_managed held]
    exact (Handle.refused_of_closed closed).1
  · exact sound.run_use_of_failed held (Handle.Use.run_of_closed closed accesses rounds environment)
  · refine sound.run_use_of_returned held ?_
    simp only [Handle.Use.activity]
    rw [Activity.run_bind_of_returned _ (Handle.run_isActive_of_closed closed ..)]
    rfl
  · refine sound.run_use_of_returned held ?_
    simp only [Handle.Use.activity]
    rw [Activity.run_bind_of_returned _
      (Handle.run_close_of_closed (marked.closed_of_view closed) environment)]
    rfl

theorem closes : caller.Closes number (caller.settle number handle known handle.shut) := by
  have later : (caller.settle number handle known handle.shut).Sound := by
    obtain ⟨_, closes⟩ := sound.run_close held 0 ⟨.ticking 0 1, .empty, []⟩
    exact ((sound.becomes_use .close _ _).of_eq closes).sound sound
  have kept {other : Nat} (apart : other ≠ number) :
      (caller.settle number handle known handle.shut).holdings[other]? =
        caller.holdings[other]? := by
    rw [holdings_settle, List.getElem?_set_ne (Ne.symm apart)]
  refine ⟨sound.run_close held, fun other apart => ⟨kept apart, ?_⟩,
    fun other mapping referred => ?_, fun other handle' mapping apart managed view seen => ?_⟩
  · exact sound.region_eq later (lasts_settle _ _ _ _ _) (kept apart)
  · have apart : other ≠ number := by
      rintro rfl
      exact nomatch held.symm.trans referred
    obtain ⟨_, -, shown⟩ := later.region_of_reference ((kept apart).trans referred)
    exact ⟨_, shown⟩
  · exact later.serves ((kept apart).trans managed) seen

/-- A use is a fault only if it puts bytes past the end of the region. -/
theorem past_of_fault {use : Handle.Use} {rounds : Nat} {environment after : Environment}
    {fault : Fault}
    (faults : (caller.use rounds number use).run environment = .failed (.fault fault) after) :
    ∃ region offset bytes, caller.region number = .ok region ∧ use = .put offset bytes ∧
      region.capacity < offset + bytes.length := by
  have marked := (sound.each _ (List.mem_of_getElem? held)).marked
  have faults : (use.activity rounds handle).run environment = .failed (.fault fault) after := by
    rw [sound.use_eq held, Activity.run_bind] at faults
    split at faults
    · cases faults
    · next ended =>
      cases faults
      exact ended
    · cases faults
  cases seen : handle.view with
  | none =>
    have ended := (use.ensures_activity_of_closed marked seen rounds environment).failed_of_eq
      faults
    exact absurd rfl (ended.1 fault)
  | some view =>
    have fit := (sound.each _ (List.mem_of_getElem? held)).fit view seen
    have ended := (use.ensures_activity_of_open marked (Handle.fields_of_view seen) fit rounds
      environment).failed_of_eq faults
    obtain ⟨offset, bytes, puts, past⟩ := ended.1 fault rfl
    exact ⟨view.region, offset, bytes, (sound.serves held seen).there, puts, past⟩

end Sound

namespace Ran

variable {earlier later : List Step} {before start now : Caller} {issuing : Step}
  {rounds : Nat} {environment after : Environment} {reply : Handle.Reply} {handle : Handle}
  {mapping : Option Nat}

/-- The life of a handle, whoever made it and whatever else the caller does.  Its layout, its
directory and its file never change.  It is open until it is closed, and marked as closed from then
on.  While it is open, whatever goes to its region is answered.  Once it is closed, that is refused
for good.  To close it takes nothing from anybody else, and no use of it is a fault but to put bytes
past the end of its region. -/
theorem handle_lives (ran : empty.Ran earlier before)
    (issues : (issuing.activity rounds before).run environment = .returned (reply, start) after)
    (given : start.holdings[before.holdings.length]? = some (.managed handle mapping))
    (goes : start.Ran later now) (kept : .drops before.holdings.length ∉ later) :
    let number := before.holdings.length
    ∃ (current : Handle) (next : Caller),
      now.holdings[number]? = some (.managed current mapping) ∧
      (current.layout = handle.layout ∧ current.directory = handle.directory ∧
        current.file = handle.file) ∧
      (∀ rounds environment, (now.use rounds number .isClosed).run environment =
        .returned (.answer current.isClosed, now) environment) ∧
      (current.isClosed = true ↔ .uses number .close ∈ later) ∧
      (.uses number .close ∉ later →
        ∃ region, handle.region = .ok region ∧ now.Serves number handle region) ∧
      (.uses number .close ∈ later → now.Refuses number) ∧
      now.Closes number next ∧
      ∀ use rounds environment fault after,
        (now.use rounds number use).run environment = .failed (.fault fault) after →
        ∃ region offset bytes, now.region number = .ok region ∧ use = .put offset bytes ∧
          region.capacity < offset + bytes.length := by
  intro number
  have early := ran.sound sound_empty
  have becomes := (early.becomes _ _ _).of_eq issues
  obtain ⟨backing, region, fresh⟩ := becomes.fresh given
  have first := becomes.sound early
  have late := goes.sound first
  obtain ⟨stays, gone⟩ := goes.managed first given kept
  have asked {current : Handle}
      (held : now.holdings[number]? = some (.managed current mapping))
      (rounds : Nat) (environment : Environment) :
      (now.use rounds number .isClosed).run environment =
        .returned (.answer current.isClosed, now) environment :=
    late.run_use_of_returned held rfl
  by_cases closed : .uses number .close ∈ later
  · have held := gone closed
    exact ⟨handle.shut, _, held, ⟨rfl, rfl, rfl⟩, asked held, iff_of_true rfl closed,
      fun never => absurd closed never, fun _ => late.refuses held rfl, late.closes held,
      fun _ _ _ _ _ faults => late.past_of_fault held faults⟩
  · have held := stays closed
    have unmarked : handle.isClosed ≠ true := by
      rw [Handle.isClosed, fresh.closed]
      exact nofun
    have shown : handle.region = .ok region := by
      rw [Handle.region, fresh.view]
    exact ⟨handle, _, held, ⟨rfl, rfl, rfl⟩, asked held, iff_of_false unmarked closed,
      fun _ => ⟨region, shown, late.serves held fresh.view⟩, fun listed => absurd listed closed,
      late.closes held, fun _ _ _ _ _ faults => late.past_of_fault held faults⟩

/-- A handle on the file of a live owner, beside a reference to another mapping of the file.  The
handle writes one more heartbeat and is closed.  Its mapping is gone then, and the other one shows
what it showed. -/
theorem handle_lives_beside_reference :
    let region : Region := .mapping 0 0 16
    let handle : Handle := ⟨Handshake.ofOwned.layout, some "/run", some "/run/cnc",
      some ⟨region, .owned⟩, false⟩
    let before : Caller := ⟨[⟨region, 1⟩], [.reference 0]⟩
    let start : Caller := ⟨[⟨region, 1⟩, ⟨region, 1⟩], [.reference 0, .managed handle (some 1)]⟩
    let later : List Step := [.uses 1 (.beat 130), .uses 1 .close, .uses 1 .readTimestamp]
    ∃ now, empty.Ran [.maps region] before ∧ start.Ran later now ∧ .drops 1 ∉ later ∧
      now.isMapped 1 = false ∧ now.Refuses 1 ∧ now.region 0 = .ok region := by
  intro region handle before start later
  let environment : Environment := ⟨.ticking 120 1, .owned, []⟩
  let shut : Caller :=
    ⟨[⟨region, 1⟩, ⟨region, 0⟩], [.reference 0, .managed handle.shut (some 1)]⟩
  let fields : ControlFields := ⟨region, Handshake.ofOwned.layout⟩
  have fit : fields.Fit :=
    ControlFields.fit_ofFile (by decide) (by decide) (by decide) 0 (Nat.le_refl 16)
  have maps : ((Step.maps region).activity 0 empty).run environment =
    .returned (.done, before) environment := rfl
  have adopts : ((Step.acquires (.adoption Handshake.ofOwned "/run/cnc" 16 false)).activity 0
    before).run environment = .returned (.done, start) _ := rfl
  have beats : ((Step.uses 1 (.beat 130)).activity 0 start).run environment =
      .returned (.done, start) (environment.inside ⟨environment.clock,
        fields.region.put .owned fields.layout.timestampOffset (130 : Milliseconds)⟩) := by
    change ((Handle.Use.activity 0 handle (.beat 130) >>= fun answer =>
      pure (answer.1, start.settle 1 handle (some 1) answer.2)).run environment) = _
    simp only [Handle.Use.activity]
    rw [Activity.run_bind_assoc, Activity.run_bind, Activity.run_change,
      Handle.beat_eq_ok rfl fit]
    rfl
  have closes : ((Step.uses 1 .close).activity 0 start).run environment =
    .returned (.done, shut) _ := rfl
  have fails : ((Step.uses 1 .readTimestamp).activity 0 shut).run environment =
    .failed (.refused .closed) environment := rfl
  have ran : empty.Ran [.maps region] before := .returned .nothing maps
  have goes : start.Ran later shut := .failed (.returned (.returned .nothing beats) closes) fails
  have kept : .drops 1 ∉ later := by
    simp only [later, List.mem_cons, reduceCtorEq, List.not_mem_nil, or_self, not_false_eq_true]
  have listed : .uses 1 .close ∈ later := List.mem_cons_of_mem _ (List.mem_cons_self ..)
  obtain ⟨_, _, _, _, _, _, _, refuses, _⟩ := handle_lives ran adopts rfl goes kept
  exact ⟨shut, ran, goes, kept, rfl, refuses listed, rfl⟩

/-- If the caller had a reference to the mapping of such a handle, which no step brings about, then to
close the handle would leave the caller with a view of nothing. -/
example :
    let region : Region := .mapping 0 0 16
    let handle : Handle := ⟨Handshake.ofOwned.layout, none, none, some ⟨region, .owned⟩, false⟩
    let shared : Caller := ⟨[⟨region, 2⟩], [.reference 0, .managed handle (some 0)]⟩
    (shared.settle 1 handle (some 0) handle.shut).region 0 = .error (.fault .unmapped) := rfl

end Ran

end Caller

end Heartbeat
