import Heartbeat.Layout
import Heartbeat.Timestamp

/-!
# The two control fields of a region

Reading and writing the version and the timestamp of a region.  Whether the region can carry the
layout is not tested here: an access to a field that does not fit is a fault.

An owner writes its payload, then the version, which publishes the region, and then its heartbeats.
A watcher reads the version, where zero says that nothing is published yet, and then the timestamp.
-/

set_option autoImplicit false

namespace Heartbeat

/-- The control fields that a layout gives to a region. -/
structure ControlFields where
  /-- The region. -/
  region : Region
  /-- Where the fields lie in it. -/
  layout : Layout
  deriving DecidableEq, Repr

namespace ControlFields

/-- The value of the version field. -/
def version (fields : ControlFields) (storage : Storage) : Except Fault Int32 :=
  fields.region.load storage fields.layout.versionOffset

/-- The value of the timestamp field. -/
def timestamp (fields : ControlFields) (storage : Storage) : Except Fault Milliseconds :=
  fields.region.load storage fields.layout.timestampOffset

/-- Publishes a version. -/
def publish (fields : ControlFields) (storage : Storage) (version : Int32) :
    Except Fault Storage :=
  fields.region.store storage fields.layout.versionOffset version

/-- Writes a heartbeat. -/
def beat (fields : ControlFields) (storage : Storage) (time : Milliseconds) :
    Except Fault Storage :=
  fields.region.store storage fields.layout.timestampOffset time

end ControlFields

end Heartbeat
