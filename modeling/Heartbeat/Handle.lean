import Heartbeat.ControlFields
import Heartbeat.Text.Quoted

/-!
# Handles

A handle holds a region with the layout of its control fields, and knows the directory and the file
if it came from a path.  It is made only for a region that can carry its layout.

Whether a handle was closed and whether it has a region in view are two things that it keeps apart.
What goes to the region asks for the view, and closing asks for the mark, sets it and takes the view
away.  That the two always agree is a fact about all that can be done with a handle, and none of
these definitions says so.
-/

set_option autoImplicit false

namespace Heartbeat

/-- What keeps the bytes of a region in place. -/
inductive Backing where
  /-- A mapping of the handle's own, which it unmaps when it is closed. -/
  | owned
  /-- A mapping that others hold, too.  The handle lets go of it when it is closed, and whoever is
  the last to let go of it unmaps it. -/
  | shared
  /-- Memory that whoever made the handle keeps in place as long as the handle is used. -/
  | external
  deriving DecidableEq, Repr

/-- The region that a handle has in view. -/
structure View where
  /-- The region. -/
  region : Region
  /-- What keeps its bytes in place. -/
  backing : Backing
  deriving DecidableEq, Repr

/-- A region under management. -/
structure Handle where
  /-- Where the control fields lie. -/
  layout : Layout
  /-- The directory that holds the file, if the handle came from a path. -/
  directory : Option String
  /-- The path of the file, if the handle came from one. -/
  file : Option String
  /-- The region, until it is taken away. -/
  view : Option View
  /-- The mark of a handle that was closed. -/
  closed : Bool
  deriving DecidableEq, Repr

namespace Handle

/-- A handle on a region, if the region can carry the layout. -/
def ofView (view : View) (layout : Layout) (directory file : Option String) :
    Except Failure Handle :=
  match layout.check view.region with
  | .error failure => .error failure
  | .ok () => .ok ⟨layout, directory, file, some view, false⟩

/-- A handle on a region, or the reason why the region cannot carry the layout. -/
theorem ofView_eq (view : View) (layout : Layout) (directory file : Option String) :
    ofView view layout directory file =
      (layout.check view.region).map fun _ =>
        ⟨layout, directory, file, some view, false⟩ := by
  unfold ofView
  cases layout.check view.region <;> rfl

/-- A handle on a region that its maker has already: a mapping that they share from now on, or
memory. -/
def ofRegion (region : Region) (backing : Backing) (layout : Layout) : Except Failure Handle :=
  ofView ⟨region, backing⟩ layout none none

/-- Whether a handle was closed. -/
def isClosed (handle : Handle) : Bool := handle.closed

/-- What closing makes of a handle that was not closed. -/
def shut (handle : Handle) : Handle := { handle with view := none, closed := true }

/-- The region that a handle has in view. -/
def region (handle : Handle) : Except Failure Region :=
  match handle.view with
  | none => .error (.refused .closed)
  | some view => .ok view.region

/-- A new handle is one on its region. -/
theorem region_of_ofView {view : View} {layout : Layout} {directory file : Option String}
    {handle : Handle} (given : ofView view layout directory file = .ok handle) :
    handle.region = .ok view.region := by
  unfold ofView at given
  split at given <;> cases given
  rfl

/-- The control fields that a handle has in view. -/
def fields (handle : Handle) : Except Failure ControlFields :=
  match handle.region with
  | .error failure => .error failure
  | .ok region => .ok ⟨region, handle.layout⟩

/-- The published version, which is zero before the first publication. -/
def version (handle : Handle) (storage : Storage) : Except Failure Int32 :=
  match handle.fields with
  | .error failure => .error failure
  | .ok fields => Failure.ofFault (fields.version storage)

/-- The last heartbeat, which is zero before the first one. -/
def timestamp (handle : Handle) (storage : Storage) : Except Failure Milliseconds :=
  match handle.fields with
  | .error failure => .error failure
  | .ok fields => Failure.ofFault (fields.timestamp storage)

/-- Publishes a version, after everything else in the region was written. -/
def signalReady (handle : Handle) (storage : Storage) (version : Int32) :
    Except Failure Storage :=
  match handle.fields with
  | .error failure => .error failure
  | .ok fields => Failure.ofFault (fields.publish storage version)

/-- Writes a heartbeat. -/
def beat (handle : Handle) (storage : Storage) (time : Milliseconds) : Except Failure Storage :=
  match handle.fields with
  | .error failure => .error failure
  | .ok fields => Failure.ofFault (fields.beat storage time)

/-- The handle as a diagnostic shows it. -/
def description (handle : Handle) : String :=
  "CncFile \x7b layout: ControlLayout \x7b version_offset: " ++
    toString handle.layout.versionOffset ++
    ", timestamp_offset: " ++ toString handle.layout.timestampOffset ++
    " \x7d, file: " ++ Text.quotedOption handle.file ++
    ", closed: " ++ toString handle.isClosed ++ ", .. \x7d"

end Handle

end Heartbeat
