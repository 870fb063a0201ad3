import Heartbeat.Proofs.Adoption

/-!
# A live owner outlasts every attempt to take over

Others may try to take a region over again and again, by creation or by adoption, with any settings
but the layout, while the owner goes on writing.  As long as each attempt that gets to see a
heartbeat sees one that is young for it, and no creation is kept from seeing what the file holds,
none of them succeeds, and all that is left of them in the end are zero bytes that adoptions may
have added to the end of the file (`Siege.owner_survives`).

One attempt is refused whatever it finds: a version that is still zero, a version that it does not
accept, a young heartbeat, a file that cannot be sized or mapped (`Attempt.is_refused`).  What a run
of attempts and acts keeps is that the storage shares the file with the storage that the owner's
acts alone would have left (`SharesFile`).

A creation that may not open the file, or may not map the control fields, is the exception.  It
takes the file for one without an owner and deletes it (`Attempt.creation_deletes_unseen`).
-/

set_option autoImplicit false

namespace Heartbeat

/-- The place of a file with control fields, and the object that holds its bytes. -/
structure Site where
  /-- The directory. -/
  directory : String
  /-- The name of the file in it. -/
  filename : String
  /-- Where the control fields lie. -/
  layout : Layout
  /-- The object of the file. -/
  object : ObjectId

namespace Site

/-- The path of the file. -/
def path (site : Site) : String := Path.join site.directory site.filename

/-- The directory is there, and in it the file with room for the control fields. -/
structure Stands (site : Site) (storage : Storage) : Prop where
  /-- The directory is there. -/
  directory : storage.isDirectory site.directory = true
  /-- The file is there. -/
  has : storage.HasFields site.path site.layout site.object

/-- An act that the owner of the file does, or the setting of a clock. -/
abbrev OwnerAct (site : Site) : Act → Prop := Heartbeat.OwnerAct site.path site.layout

/-- The storage differs from another one only in what was added to the end of the file. -/
abbrev Shared (site : Site) : Storage → Storage → Prop :=
  SharesFile site.path site.layout site.object

/-- A site goes on standing while every name is kept and the file has room for the control fields.
-/
theorem Stands.of_namesKept {site : Site} {before after : Storage} (stands : site.Stands before)
    (kept : Storage.NamesKept before after)
    (has : after.HasFields site.path site.layout site.object) : site.Stands after :=
  ⟨Storage.isDirectory_of_namesKept kept stands.directory, has⟩

end Site

/-! ## Attempts -/

/-- The two ways to take a region over. -/
inductive Approach where
  /-- Creation in the directory, without waiving the test for a live owner. -/
  | creation
  /-- Adoption of the file, which is meant to exist already. -/
  | adoption

/-- An attempt to take a region over. -/
structure Attempt where
  /-- The settings. -/
  handshake : Handshake
  /-- The way. -/
  approach : Approach
  /-- The length that the region shall have. -/
  length : Nat
  /-- The clock, with all that others do at its readings. -/
  clock : Clock
  /-- The rounds granted for each wait. -/
  rounds : Nat

namespace Attempt

variable {attempt : Attempt} {site : Site} {storage : Storage}

/-- What an attempt does. -/
def activity (attempt : Attempt) (site : Site) : Activity Handle :=
  match attempt.approach with
  | .creation => attempt.handshake.createInDirectory site.directory site.filename attempt.length
      false attempt.rounds
  | .adoption => attempt.handshake.createOrAdopt site.path attempt.length true

/-- How an attempt on a storage ends. -/
def run (attempt : Attempt) (site : Site) (storage : Storage) : Outcome Handle :=
  (attempt.activity site).run ⟨attempt.clock, storage, []⟩

/-- An attempt with the layout of a site, during which nobody acts but the owner. -/
structure On (attempt : Attempt) (site : Site) : Prop where
  /-- The settings have the layout of the site. -/
  layout : attempt.handshake.layout = site.layout
  /-- What happens at the readings of the clock is done by the owner. -/
  acts : ∀ reading, ∀ act ∈ attempt.clock.script reading, site.OwnerAct act

/-- An attempt gets the control fields in view.  Its length is one that the configuration allows,
and the system lets a creation map the fields, or an adoption size and map the file. -/
def Views (attempt : Attempt) (site : Site) (storage : Storage) : Prop :=
  attempt.handshake.layout.checkMappedLength attempt.length = .ok () ∧
    match attempt.approach with
    | .creation => storage.system.GrantsFields site.path site.layout site.object
    | .adoption => ∃ region held, storage.mapKeeping site.path attempt.length = (.ok region, held)

/-- A creation whose length the configuration allows gets the control fields in view. -/
def Unhindered (attempt : Attempt) (site : Site) (storage : Storage) : Prop :=
  attempt.approach = .creation →
    attempt.handshake.layout.checkMappedLength attempt.length = .ok () →
    storage.system.GrantsFields site.path site.layout site.object

/-- The heartbeat that an attempt reads, if it gets to read one, is not zero, and its age at the
time that the attempt then reads is below the timeout.

An attempt that does not get the control fields in view reads none.  Otherwise a creation reads the
heartbeat that ends its second wait, an adoption the one that it finds, and neither reads the time
if the version check refuses the version. -/
def Timely (attempt : Attempt) (site : Site) (storage : Storage) : Prop :=
  let fields : ControlFields :=
    .ofFile site.layout site.object (storage.content site.object).size
  attempt.Views site storage →
    match attempt.approach with
    | .creation => ∀ version timestamp sighted,
        attempt.handshake.Sights fields ⟨attempt.clock, storage⟩ version timestamp sighted →
        attempt.handshake.check version = .ok () →
        timestamp ≠ 0 ∧ heartbeatAge sighted.shown timestamp < attempt.handshake.timeout
    | .adoption =>
        attempt.handshake.checkPublished (fields.versionIn storage) = .ok () →
        fields.timestampIn storage ≠ 0 ∧
          heartbeatAge (World.shown ⟨attempt.clock, storage⟩) (fields.timestampIn storage) <
            attempt.handshake.timeout

/-- An attempt is refused, and leaves the file as it was, except that it may have added zero bytes
to its end before the first of the owner's acts. -/
def Spares (attempt : Attempt) (site : Site) (storage : Storage) : Outcome Handle → Prop
  | .returned _ _ => False
  | .failed failure after =>
    (∃ refusal, failure = .refused refusal) ∧ ∃ held readings, site.Shared storage held ∧
      after.clock.reads = attempt.clock.reads + readings ∧
      after.storage = held.afterActs (attempt.clock.upcoming readings)
  | .pending => True

theorem Spares.of_ticks {failure : Failure} {after : Environment} {held : Storage}
    (readings : Nat) (refused : ∃ refusal, failure = .refused refusal)
    (shared : site.Shared storage held)
    (moved : after.world = World.ticks ⟨attempt.clock, held⟩ readings) :
    attempt.Spares site storage (.failed failure after) := by
  refine ⟨refused, held, readings, shared, ?_, ?_⟩
  · exact (congrArg (fun world => world.clock.reads) moved).trans (World.reads_ticks _ _)
  · exact (congrArg World.storage moved).trans (World.storage_ticks _ _)

/-- A creation is refused. -/
theorem creation_is_refused (creates : attempt.approach = .creation)
    (representable : site.layout.Representable) (stands : site.Stands storage)
    (on : attempt.On site) (unhindered : attempt.Unhindered site storage)
    (timely : attempt.Timely site storage) :
    attempt.Spares site storage (attempt.run site storage) := by
  have shared : site.Shared storage storage := .refl stands.has
  have course : attempt.run site storage =
      (attempt.handshake.createInDirectory site.directory site.filename attempt.length false
        attempt.rounds : Activity Handle).run ⟨attempt.clock, storage, []⟩ := by
    simp only [run, activity, creates]
  rw [course]
  cases fits : attempt.handshake.layout.checkMappedLength attempt.length with
  | error failure =>
    rw [Handshake.run_createInDirectory_of_unfit fits]
    exact .of_ticks 0 (Layout.unfit_is_refused (on.layout ▸ representable) fits) shared rfl
  | ok =>
    obtain ⟨_, _, versionAligned, timestampAligned⟩ := Layout.checkMappedLength_eq_ok_iff.1 fits
    have grants := unhindered creates fits
    have shows : (⟨attempt.clock, storage, []⟩ : Environment).storage.ShowsFields
        (Path.join site.directory site.filename) attempt.handshake.layout site.object :=
      on.layout ▸ ⟨stands.has, grants⟩
    obtain ⟨reports, goes⟩ := Handshake.run_createInDirectory_of_fields fits stands.directory
      shows attempt.rounds
    have fit := ControlFields.fit_ofFile (on.layout ▸ representable) versionAligned
      timestampAligned site.object shows.has.2
    rw [goes]
    rcases Handshake.run_isActive fit attempt.rounds
      (Environment.reporting ⟨attempt.clock, storage, []⟩ reports) with
      pending | ⟨answer, after, further, decides, ended⟩
    · rw [show _ = Outcome.pending from pending]
      trivial
    · obtain ⟨readings, moved⟩ := decides.ticks
      rw [show _ = Outcome.ofExcept answer _ from ended]
      cases answer with
      | error failure =>
        refine .of_ticks readings ?_ shared moved
        rcases decides.refusal with same | same | ⟨_, _, _, _, same⟩ <;> exact ⟨_, same⟩
      | ok active =>
        cases active with
        | true => exact .of_ticks readings ⟨_, rfl⟩ shared moved
        | false =>
          -- Only a heartbeat that is too old would let the creation go on.
          generalize verdict : (Except.ok false : Except Failure Bool) = answer at decides
          cases decides with
          | notInitialized _ | noHeartbeat _ _ | rejected _ _ => cases verdict
          | @decided version timestamp sighted sights accepts =>
            rw [on.layout] at sights
            simp only [Timely, Views, creates] at timely
            have young := (timely ⟨fits, grants⟩ _ _ _ sights accepts).2
            have stale : isFresh (heartbeatAge sighted.shown timestamp)
                attempt.handshake.timeout = false := (Except.ok.inj verdict).symm
            exact absurd (Int64.le_of_lt young) (of_decide_eq_false stale)

/-- An adoption is refused. -/
theorem adoption_is_refused (adopts : attempt.approach = .adoption)
    (representable : site.layout.Representable) (stands : site.Stands storage)
    (on : attempt.On site) (timely : attempt.Timely site storage) :
    attempt.Spares site storage (attempt.run site storage) := by
  have shared : site.Shared storage storage := .refl stands.has
  have course : attempt.run site storage =
      (attempt.handshake.createOrAdopt site.path attempt.length true : Activity Handle).run
        ⟨attempt.clock, storage, []⟩ := by
    simp only [run, activity, adopts]
  rw [course]
  cases fits : attempt.handshake.layout.checkMappedLength attempt.length with
  | error failure =>
    have refused : (attempt.handshake.createOrAdopt site.path attempt.length true :
        Activity Handle).run ⟨attempt.clock, storage, []⟩ =
          .failed failure ⟨attempt.clock, storage, []⟩ :=
      Handshake.run_createOrAdopt_of_unfit fits
    rw [refused]
    exact .of_ticks 0 (Layout.unfit_is_refused (on.layout ▸ representable) fits) shared rfl
  | ok =>
    obtain ⟨_, room, versionAligned, timestampAligned⟩ := Layout.checkMappedLength_eq_ok_iff.1 fits
    have has : (⟨attempt.clock, storage, []⟩ : Environment).storage.HasFields site.path
        attempt.handshake.layout site.object := on.layout ▸ stands.has
    obtain ⟨held, shares, course⟩ := Handshake.run_createOrAdopt_of_fields fits has
    have same : site.Shared storage held := by
      rw [on.layout] at shares
      exact shares
    rcases course with ⟨cause, -, refused⟩ | ⟨mapped, goes⟩
    · rw [refused]
      exact .of_ticks 0 ⟨_, rfl⟩ same rfl
    · have fit := ControlFields.fit_ofFile (on.layout ▸ representable) versionAligned
        timestampAligned site.object room
      have version : (ControlFields.ofFile attempt.handshake.layout site.object
          attempt.length).versionIn held = (ControlFields.ofFile site.layout site.object
            (storage.content site.object).size).versionIn storage := by
        rw [on.layout, same.versionIn, ControlFields.versionIn_ofFile]
      have timestamp : (ControlFields.ofFile attempt.handshake.layout site.object
          attempt.length).timestampIn held = (ControlFields.ofFile site.layout site.object
            (storage.content site.object).size).timestampIn storage := by
        rw [on.layout, same.timestampIn, ControlFields.timestampIn_ofFile]
      have ended := Handshake.run_requireStale fit attempt.handshake site.path
        (Environment.inside ⟨attempt.clock, storage, []⟩ ⟨attempt.clock, held⟩)
      simp only [Environment.storage_inside, Environment.world_inside, version, timestamp] at ended
      rw [goes, Activity.run_bind, ended]
      simp only [Timely, Views, adopts] at timely
      cases checked : attempt.handshake.checkPublished ((ControlFields.ofFile site.layout
          site.object (storage.content site.object).size).versionIn storage) with
      | error refusal => exact .of_ticks 0 ⟨_, rfl⟩ same rfl
      | ok =>
        -- The time of the one reading does not depend on what was added to the file.
        have seen := timely ⟨fits, _, held, mapped⟩ checked
        have young := seen.2
        rw [World.shown_eq _ _ held] at young
        simp only
        rw [if_pos]
        · exact .of_ticks 1 ⟨_, rfl⟩ same rfl
        · rw [Bool.and_eq_true, decide_eq_true_eq]
          exact ⟨seen.1, decide_eq_true young⟩

/-- An attempt on a live owner's file is refused. -/
theorem is_refused (representable : site.layout.Representable) (stands : site.Stands storage)
    (on : attempt.On site) (unhindered : attempt.Unhindered site storage)
    (timely : attempt.Timely site storage) :
    attempt.Spares site storage (attempt.run site storage) := by
  cases way : attempt.approach with
  | creation => exact creation_is_refused way representable stands on unhindered timely
  | adoption => exact adoption_is_refused way representable stands on timely

end Attempt

/-! ## Runs -/

/-- What a run of attempts and acts leads to, with the attempts that have ended, the acts that were
done, and the storage that is left. -/
inductive Siege (site : Site) (start : Storage) :
    List (Attempt × Except Failure Handle) → List Act → Storage → Prop where
  /-- Nothing has happened yet. -/
  | nothing : Siege site start [] [] start
  /-- The owner acts while nobody attempts anything. -/
  | act {trials : List (Attempt × Except Failure Handle)} {acts : List Act} {storage : Storage}
      {act : Act} (siege : Siege site start trials acts storage) (owner : site.OwnerAct act) :
      Siege site start trials (acts ++ [act]) (storage.afterActs [act])
  /-- What the system grants becomes another. -/
  | system {trials : List (Attempt × Except Failure Handle)} {acts : List Act} {storage : Storage}
      (siege : Siege site start trials acts storage) (system : System) :
      Siege site start trials acts (storage.under system)
  /-- An attempt is made, which the owner's acts at its readings of the clock accompany. -/
  | attempt {trials : List (Attempt × Except Failure Handle)} {acts : List Act} {storage : Storage}
      {attempt : Attempt} {result : Except Failure Handle} {after : Environment}
      (siege : Siege site start trials acts storage) (on : attempt.On site)
      (unhindered : attempt.Unhindered site storage) (timely : attempt.Timely site storage)
      (ended : attempt.run site storage = .ofExcept result after) :
      Siege site start (trials ++ [(attempt, result)])
        (acts ++ attempt.clock.upcoming (after.clock.reads - attempt.clock.reads)) after.storage

namespace Siege

variable {site : Site} {start final : Storage} {trials : List (Attempt × Except Failure Handle)}
  {acts : List Act}

/-- Every act of a siege is the owner's. -/
theorem owner_acts (siege : Siege site start trials acts final) :
    ∀ act ∈ acts, site.OwnerAct act := by
  induction siege with
  | nothing => exact fun _ listed => absurd listed List.not_mem_nil
  | act _ owner ih =>
    intro act listed
    rcases List.mem_append.1 listed with earlier | last
    · exact ih act earlier
    · exact List.mem_singleton.1 last ▸ owner
  | system _ _ ih => exact ih
  | attempt _ on _ _ _ ih =>
    intro act listed
    rcases List.mem_append.1 listed with earlier | later
    · exact ih act earlier
    · obtain ⟨reading, _, done⟩ := List.mem_flatMap.1 later
      exact on.acts reading act done

/-- What a siege keeps: the storage shares the file with the one that the acts alone leave, and
every attempt so far was refused. -/
theorem shared_and_refused (representable : site.layout.Representable)
    (stands : site.Stands start) (siege : Siege site start trials acts final) :
    site.Shared (start.afterActs acts) final ∧
      ∀ trial ∈ trials, ∃ refusal, trial.2 = .error (.refused refusal) := by
  induction siege with
  | nothing => exact ⟨.refl stands.has, fun _ listed => absurd listed List.not_mem_nil⟩
  | @act trials acts storage act siege owner ih =>
    obtain ⟨shared, refused⟩ := ih
    rw [Storage.afterActs_append]
    refine ⟨shared.afterActs ?_, refused⟩
    intro other listed
    exact List.mem_singleton.1 listed ▸ owner
  | system _ system ih => exact ⟨ih.1.under system, ih.2⟩
  | @attempt trials acts storage attempt result after siege on unhindered timely ended ih =>
    -- The site still stands, since nothing has happened to it but acts and lengthenings.
    obtain ⟨shared, refused⟩ := ih
    have others := (afterActs_sameBut stands.has siege.owner_acts).1
    have still : site.Stands storage :=
      stands.of_namesKept (others.trans shared.same).namesKept shared.hasFields
    have spared := attempt.is_refused representable still on unhindered timely
    rw [ended] at spared
    cases result with
    | ok handle => exact spared.elim
    | error failure =>
      obtain ⟨⟨refusal, rfl⟩, held, readings, lengthened, reads, left⟩ := spared
      have owner : ∀ act ∈ attempt.clock.upcoming readings, site.OwnerAct act := by
        intro act listed
        obtain ⟨reading, _, done⟩ := List.mem_flatMap.1 listed
        exact on.acts reading act done
      rw [reads, Nat.add_sub_cancel_left, left, Storage.afterActs_append]
      refine ⟨(shared.trans lengthened).afterActs owner, ?_⟩
      intro trial listed
      rcases List.mem_append.1 listed with earlier | last
      · exact refused trial earlier
      · rw [List.mem_singleton.1 last]
        exact ⟨refusal, rfl⟩

/-- A live owner outlasts every attempt to take over.

In a run of attempts on an existing file, by creation or by adoption, with the owner's acts before,
between and during them and with a system that grants now more and now less, let every attempt that
reads a heartbeat read one that is not zero and young for its timeout, and let no creation be kept
from opening the file and mapping its control fields.  Then each attempt that has ended was refused,
every directory and file is where it was, no other file has changed, and the file itself holds what
the owner's acts alone would have left in it, with nothing but zero bytes after that. -/
theorem owner_survives (representable : site.layout.Representable)
    (stands : site.Stands start) (siege : Siege site start trials acts final) :
    (∀ trial ∈ trials, ∃ refusal, trial.2 = .error (.refused refusal)) ∧
      Storage.SameBut site.object start final ∧
      (start.content site.object).size ≤ (final.content site.object).size ∧
      ((start.afterActs acts).content site.object).Lengthens (final.content site.object) := by
  obtain ⟨shared, refused⟩ := siege.shared_and_refused representable stands
  obtain ⟨others, size⟩ := afterActs_sameBut stands.has siege.owner_acts
  refine ⟨refused, others.trans shared.same, ?_, shared.longer⟩
  rw [← size]
  exact shared.longer.size

end Siege

/-! ## An attempt on the owned file -/

/-- The site of the owned file. -/
def Site.ofOwned : Site := ⟨"/run", "cnc", Handshake.ofOwned.layout, 0⟩

/-- The heartbeat of that owner at 110 ms. -/
def Act.beatOfOwned : Act :=
  .files (.overwrite Site.ofOwned.path 8 (StoredWord.toBytes (110 : Milliseconds)))

/-- A creation at 120 ms in the place of the owned file. -/
def Attempt.onOwned : Attempt := ⟨.ofOwned, .creation, 32, .ticking 120 1, 2⟩

theorem Siege.owner_survives_owned :
    ∃ result acts final, Siege .ofOwned .owned [(.onOwned, result)] (.beatOfOwned :: acts) final ∧
      (∃ refusal, result = .error (.refused refusal)) ∧ Storage.SameBut 0 .owned final := by
  have stands : Site.ofOwned.Stands .owned := ⟨rfl, rfl, by decide⟩
  have siege : Siege .ofOwned .owned [] [.beatOfOwned] (Storage.owned.afterActs [.beatOfOwned]) :=
    .act .nothing (.beat 110)
  have on : Attempt.onOwned.On .ofOwned :=
    ⟨rfl, fun _ _ listed => absurd listed List.not_mem_nil⟩
  have timely : Attempt.onOwned.Timely .ofOwned (Storage.owned.afterActs [.beatOfOwned]) := by
    intro _ version timestamp sighted sights _
    obtain ⟨published, waits, beats⟩ := sights.waited
    obtain ⟨-, rfl⟩ := waits.unique (@Waits.found _ _ _ _ 1 rfl)
    obtain ⟨same, rfl⟩ := beats.unique (@Waits.found _ _ _ _ 110 rfl)
    obtain rfl := Option.some.inj same
    decide +kernel
  have ends : ∃ result after, Attempt.onOwned.run .ofOwned
      (Storage.owned.afterActs [.beatOfOwned]) = .ofExcept result after := by
    have terminates : (match Attempt.onOwned.run .ofOwned
        (Storage.owned.afterActs [.beatOfOwned]) with
      | .pending => false
      | _ => true) = true := by rfl
    cases ended : Attempt.onOwned.run .ofOwned (Storage.owned.afterActs [.beatOfOwned]) with
    | returned handle after => exact ⟨.ok handle, after, rfl⟩
    | failed failure after => exact ⟨.error failure, after, rfl⟩
    | pending =>
      rw [ended] at terminates
      cases terminates
  obtain ⟨result, after, ended⟩ := ends
  have whole := siege.attempt on (fun _ _ => System.grantsFields_generous ..) timely ended
  obtain ⟨refused, same, -⟩ := owner_survives (by decide) stands whole
  exact ⟨result, _, _, whole, refused _ (List.mem_singleton.2 rfl), same⟩

/-- A system that does not let one file be opened. -/
def System.closedTo (path : String) : System := fun demand =>
  if demand = .opening path then some .permissionDenied else none

/-- The owned file, which was beaten at 100 ms, may not be opened by somebody who comes at 120 ms,
and its directory may be deleted.  So the creation deletes both without a look at the clock, and
succeeds. -/
theorem Attempt.creation_deletes_unseen :
    let storage := Storage.owned.under (.closedTo Site.ofOwned.path)
    let fields : ControlFields := .ofFile Site.ofOwned.layout Site.ofOwned.object 16
    Site.ofOwned.Stands storage ∧ Attempt.onOwned.On .ofOwned ∧
      Attempt.onOwned.Timely .ofOwned storage ∧ fields.timestampIn storage = 100 ∧
      heartbeatAge (World.shown ⟨Attempt.onOwned.clock, storage⟩) 100 <
        Attempt.onOwned.handshake.timeout ∧
      ∃ handle after, Attempt.onOwned.run .ofOwned storage = .returned handle after ∧
        after.clock.reads = 0 ∧
        (after.storage.openFile Site.ofOwned.path).toOption ≠ some Site.ofOwned.object := by
  intro storage fields
  have ran : (match Attempt.onOwned.run .ofOwned storage with
      | .returned _ after => decide (after.clock.reads = 0 ∧
          (after.storage.openFile Site.ofOwned.path).toOption ≠ some Site.ofOwned.object)
      | _ => false) = true := by decide +kernel
  refine ⟨⟨rfl, rfl, by decide⟩, ⟨rfl, fun _ _ listed => absurd listed List.not_mem_nil⟩, ?unread,
    by decide +kernel, by decide +kernel, ?_⟩
  case unread =>
    rintro ⟨_, opens, _⟩
    exact absurd opens (by decide)
  split at ran
  · next handle after ended => exact ⟨handle, after, ended, of_decide_eq_true ran⟩
  · cases ran

end Heartbeat
