import Heartbeat.Refusal

/-!
# Checks of an observed version

A version check is asked about the value of a version field that is not zero, and either lets it
pass or gives the refusal that the asking operation then reports.
-/

set_option autoImplicit false

namespace Heartbeat

/-- A rule about which versions are acceptable. -/
abbrev VersionCheck := Int32 → Except Refusal Unit

namespace VersionCheck

/-- Every version is acceptable. -/
def any : VersionCheck := fun _ => .ok ()

/-- A version is acceptable if its major number is the expected one. -/
def sameMajor (expected : SemanticVersion) : VersionCheck := fun field =>
  let actual := SemanticVersion.unpack field
  if actual.major = expected.major then .ok ()
  else .error (.incompatibleVersion expected actual)

/-- One value is acceptable, and others are refused for a reason. -/
def only (accepted : Int32) (reason : String) : VersionCheck := fun field =>
  if field = accepted then .ok () else .error (.versionRejected field reason)

end VersionCheck

end Heartbeat
