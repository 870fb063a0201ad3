import Heartbeat.Proofs.Guard

/-!
# Three ways to ask whether an owner is alive

Whether a file has a live owner is asked in three places.  A creation asks it of a mapping of the
control span, seen through the rebased layout.  A caller of `Handshake.isActive` asks it of a
mapping of the file, and a caller of `Handle.isActive` of an open handle, which goes by its own
layout whatever the layout of the settings is.

All three run alike, from every environment and through every schedule of foreign acts
(`liveness_paths_agree`): they give the same answer or fail with the same failure, and leave the
same clock behind.  The span path has the longest way to go.  Its offsets are new, so that neither
of them needs to be a multiple of the field's size, and only the addresses tell that the fields are
aligned.
-/

set_option autoImplicit false

namespace Heartbeat

namespace Handle

variable {handshake : Handshake} {region : Region}

/-- A handle goes by its own layout. -/
theorem run_isActive (fit : (⟨region, handshake.layout⟩ : ControlFields).Fit)
    (directory file : Option String) (backing : Backing) (other : Layout) (rounds : Nat)
    (environment : Environment) :
    ((⟨handshake.layout, directory, file, some ⟨region, backing⟩, false⟩ : Handle).isActive
        { handshake with layout := other } rounds : Activity Bool).run environment =
      (handshake.isActive (some region) rounds : Activity Bool).run environment :=
  (Handshake.run_isActive_of_fit fit rounds environment).symm

end Handle

namespace Handshake

variable {handshake : Handshake} {environment : Environment} {directory filename : String}
  {object : ObjectId}

/-- The test before a deletion, the decision on a mapping of the file and the decision on a handle
agree.

If a file has room for the control fields, then their span passes the test of the rebased layout,
which asks for exactly its length.  The decision on it runs like the decision on a mapping of the
file of any sufficient length, and like the decision on a handle on that mapping, whatever layout
the settings have.  And if the system lets the span be mapped, it is what the test before a deletion
maps, and its decision is the one that the test goes by. -/
theorem liveness_paths_agree (representable : handshake.layout.Representable)
    (versionAligned : handshake.layout.versionOffset % versionSize = 0)
    (timestampAligned : handshake.layout.timestampOffset % timestampSize = 0)
    (has : environment.storage.HasFields (Path.join directory filename) handshake.layout object) :
    let grants := environment.storage.system.GrantsFields (Path.join directory filename)
      handshake.layout object
    ∃ (length : Nat) (span : Region),
      handshake.layout.controlSpan = .ok (handshake.layout.versionOffset, length) ∧
      (grants → environment.storage.mapSpan (Path.join directory filename)
        handshake.layout.versionOffset length = .ok (.ok span)) ∧
      environment.storage.mapWhole (Path.join directory filename) =
        .ok (.mapping object 0 (environment.storage.content object).size) ∧
      handshake.layout.rebased.versionOffset + versionSize ≤
        handshake.layout.rebased.timestampOffset ∧
      handshake.layout.rebased.requiredLength = .ok length ∧ span.capacity = length ∧
      handshake.layout.rebased.check span = .ok () ∧
      (∀ (start : Environment) (rounds capacity : Nat),
        handshake.layout.timestampOffset + timestampSize ≤ capacity →
        let decision := (handshake.isActive (some (.mapping object 0 capacity)) rounds :
          Activity Bool).run start
        (handshake.isActiveOn ⟨span, handshake.layout.rebased⟩ rounds : Activity Bool).run start =
            decision ∧
          ∀ (holder file : Option String) (backing : Backing) (other : Layout),
            ((⟨handshake.layout, holder, file, some ⟨.mapping object 0 capacity, backing⟩, false⟩ :
                Handle).isActive { handshake with layout := other } rounds :
              Activity Bool).run start = decision) ∧
      (grants → ∀ rounds : Nat, ∃ reports,
        (handshake.protectLiveOwner directory filename rounds : Activity Unit).run environment =
          match (handshake.isActiveOn ⟨span, handshake.layout.rebased⟩ rounds :
              Activity Bool).run (environment.reporting reports) with
          | .returned true after =>
            .failed (.refused (.activeOwner (Path.join directory filename))) after
          | .returned false after => .returned () after
          | .failed failure after => .failed failure after
          | .pending => .pending) := by
  intro grants
  refine ⟨_, (ControlFields.ofSpan handshake.layout object).region,
    Layout.controlSpan_eq_ok representable, ?mapped, ?whole, handshake.layout.rebased.ordered,
    Layout.requiredLength_rebased representable, rfl,
    ControlFields.fit_ofSpan representable versionAligned timestampAligned object, ?decided,
    ?tested⟩
  case mapped => exact fun grants => Storage.mapSpan_of_shows representable ⟨has, grants⟩
  case whole => rw [Storage.mapWhole, has.1]
  case decided =>
    intro start rounds capacity room
    have whole := run_isActive_whole representable versionAligned timestampAligned
      object rounds room start
    have fit := ControlFields.fit_ofFile representable versionAligned timestampAligned object room
    exact ⟨whole.symm, fun holder file backing other =>
      Handle.run_isActive fit holder file backing other rounds start⟩
  case tested =>
    intro grants rounds
    obtain ⟨reports, tested⟩ := run_protectLiveOwner_of_fields representable versionAligned
      timestampAligned rounds ⟨has, grants⟩
    refine ⟨reports, tested.trans ?_⟩
    rw [run_isActive_whole representable versionAligned timestampAligned object rounds has.2]
    rfl

/-- Behind a version field at offset 4 the rebased timestamp field has offset 4 as well, and yet the
span passes the test. -/
theorem liveness_paths_agree_owned :
    let settings : Handshake := { layout := ⟨4, 8, by decide⟩ }
    ∃ span : Region, settings.layout.rebased.timestampOffset = 4 ∧
      settings.layout.rebased.check span = .ok () ∧
      ∀ (start : Environment) (rounds : Nat),
        (settings.isActiveOn ⟨span, settings.layout.rebased⟩ rounds : Activity Bool).run start =
          (settings.isActive (some (.mapping 0 0 16)) rounds : Activity Bool).run start := by
  intro settings
  have has : (⟨.ticking 120 1, .owned, []⟩ : Environment).storage.HasFields
      (Path.join "/run" "cnc") settings.layout 0 := ⟨rfl, by decide⟩
  have representable : settings.layout.Representable := by decide
  have versionAligned : settings.layout.versionOffset % versionSize = 0 := by decide
  have timestampAligned : settings.layout.timestampOffset % timestampSize = 0 := by decide
  obtain ⟨_, span, _, _, _, _, _, _, fits, agree, _⟩ :=
    liveness_paths_agree representable versionAligned timestampAligned has
  exact ⟨span, rfl, fits, fun start rounds => (agree start rounds 16 (by decide)).1⟩

end Handshake

end Heartbeat
