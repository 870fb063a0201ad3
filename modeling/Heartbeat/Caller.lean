import Heartbeat.Activity
import Heartbeat.Takeover

/-!
# What a caller holds

A caller is a process that makes handles and mappings and holds them.  A mapping is there as long as
somebody holds it: the caller, who may have several references to it, or handles that were made for
it.  A handle that mapped its file itself does not ask who else holds the mapping.  When it lets go
of its region the mapping is gone, whoever has it in view, and whoever goes to a region that is gone
has committed a fault.

`Caller.Step` lists all that a caller can do with what it holds, and `Caller.Step.activity` what
comes of it.  That no step leaves anybody with a view of a mapping that is gone is proved elsewhere.
-/

set_option autoImplicit false

namespace Heartbeat

namespace Handle

/-! ## Uses of a handle -/

/-- What can be asked of a handle.  The two kinds of load that there are for each field differ in
what they guarantee between processors and not in the bytes that they load, so they are one use. -/
inductive Use where
  /-- To publish a version. -/
  | publish (version : Int32)
  /-- To write a heartbeat. -/
  | beat (time : Milliseconds)
  /-- To read the version. -/
  | readVersion
  /-- To read the heartbeat. -/
  | readTimestamp
  /-- To get at the whole region. -/
  | buffer
  /-- To put bytes into the region at an offset. -/
  | put (offset : Nat) (bytes : List UInt8)
  /-- To decide whether the owner is alive. -/
  | isActive (handshake : Handshake)
  /-- To ask whether the handle was closed. -/
  | isClosed
  /-- To close the handle. -/
  | close
  /-- To delete the directory of the file. -/
  | deleteDirectory (ignoresFailures : Bool)

/-- What a use answers if it does not fail. -/
inductive Reply where
  /-- It was done. -/
  | done
  /-- A version. -/
  | version (value : Int32)
  /-- A heartbeat. -/
  | timestamp (value : Milliseconds)
  /-- The region. -/
  | region (value : Region)
  /-- Yes or no. -/
  | answer (value : Bool)

namespace Use

/-- What a use does, and the handle that remains. -/
def activity (rounds : Nat) (handle : Handle) : Use → Activity (Reply × Handle)
  | publish version => do
    Worker.change fun storage => handle.signalReady storage version
    pure (.done, handle)
  | beat time => do
    Worker.change fun storage => handle.beat storage time
    pure (.done, handle)
  | readVersion => do
    let value ← Observer.look handle.version
    pure (.version value, handle)
  | readTimestamp => do
    let value ← Observer.look handle.timestamp
    pure (.timestamp value, handle)
  | buffer => do
    let region ← Observer.ofExcept handle.region
    pure (.region region, handle)
  | put offset bytes => do
    let region ← Observer.ofExcept handle.region
    Worker.change fun storage => Failure.ofFault (region.storeBytes storage offset bytes)
    pure (.done, handle)
  | isActive handshake => do
    let alive ← handle.isActive handshake rounds
    pure (.answer alive, handle)
  | isClosed => pure (.answer handle.isClosed, handle)
  | close => do
    let closed ← handle.close
    pure (.done, closed)
  | deleteDirectory ignoresFailures => do
    handle.deleteDirectory ignoresFailures
    pure (.done, handle)

/-- Whether a use goes to the region that a handle has in view, if it has one. -/
def goesToRegion : Use → Bool
  | publish _ | beat _ | readVersion | readTimestamp | buffer | put _ _ | isActive _ => true
  | isClosed | close | deleteDirectory _ => false

end Use

end Handle

/-! ## Mappings and their holders -/

/-- A mapping. -/
structure Mapping where
  /-- What it shows. -/
  region : Region
  /-- How many hold it.  It is gone when nobody does. -/
  holders : Nat
  deriving DecidableEq, Repr

/-- One of the things that a caller holds. -/
inductive Holding where
  /-- A reference of the caller's to a mapping. -/
  | reference (mapping : Nat)
  /-- A handle, and the mapping that its region is, unless that is memory of the caller's. -/
  | managed (handle : Handle) (mapping : Option Nat)
  /-- What was dropped. -/
  | dropped
  deriving DecidableEq, Repr

/-- The mappings of a caller and what it holds, both by number. -/
structure Caller where
  /-- All mappings that there ever were. -/
  mappings : List Mapping
  /-- All that was ever held. -/
  holdings : List Holding
  deriving DecidableEq, Repr

namespace Caller

/-- A caller that holds nothing yet. -/
def empty : Caller := ⟨[], []⟩

/-- A mapping is there. -/
def isMapped (caller : Caller) (mapping : Nat) : Bool :=
  caller.mappings[mapping]?.any fun known => 0 < known.holders

/-- One more holds a mapping. -/
def hold (caller : Caller) (mapping : Nat) : Caller :=
  { caller with mappings := caller.mappings.modify mapping fun known =>
      { known with holders := known.holders + 1 } }

/-- One fewer holds a mapping. -/
def release (caller : Caller) (mapping : Nat) : Caller :=
  { caller with mappings := caller.mappings.modify mapping fun known =>
      { known with holders := known.holders - 1 } }

/-- A mapping is undone, whoever holds it. -/
def unmap (caller : Caller) (mapping : Nat) : Caller :=
  { caller with mappings := caller.mappings.modify mapping fun known =>
      { known with holders := 0 } }

/-- One more thing is held. -/
def add (caller : Caller) (holding : Holding) : Caller :=
  { caller with holdings := caller.holdings ++ [holding] }

/-- Something else is held under a number. -/
def put (caller : Caller) (number : Nat) (holding : Holding) : Caller :=
  { caller with holdings := caller.holdings.set number holding }

/-- A new mapping, which one holds. -/
def map (caller : Caller) (region : Region) : Caller :=
  { caller with mappings := caller.mappings ++ [⟨region, 1⟩] }

/-- A handle loses its region. -/
def loseView (caller : Caller) (view : View) (mapping : Option Nat) : Caller :=
  match view.backing, mapping with
  | .owned, some mapping => caller.unmap mapping
  | .shared, some mapping => caller.release mapping
  | _, _ => caller

/-! ## What a caller does -/

/-- The region that is in view under a number.  It is a fault to go there when the mapping is
gone. -/
def region (caller : Caller) (number : Nat) : Except Failure Region :=
  match caller.holdings[number]? with
  | some (.reference mapping) =>
    match caller.mappings[mapping]? with
    | some known => if 0 < known.holders then .ok known.region else .error (.fault .unmapped)
    | none => .error (.fault .unmapped)
  | some (.managed handle mapping) =>
    match handle.region with
    | .error failure => .error failure
    | .ok region => if mapping.all caller.isMapped then .ok region else .error (.fault .unmapped)
  | _ => .error (.fault .unmapped)

/-- The caller maps a file. -/
def refer (caller : Caller) (region : Region) : Caller :=
  (caller.map region).add (.reference caller.mappings.length)

/-- The caller takes over a handle that mapped its file itself. -/
def receive (caller : Caller) (handle : Handle) : Caller :=
  match handle.view with
  | some view => (caller.map view.region).add (.managed handle (some caller.mappings.length))
  | none => caller.add (.managed handle none)

/-- The caller gives a handle a reference to a mapping. -/
def share (caller : Caller) (number : Nat) (layout : Layout) : Except Failure Caller :=
  match caller.holdings[number]? with
  | some (.reference mapping) =>
    match caller.region number with
    | .error failure => .error failure
    | .ok region =>
      match Handle.ofRegion region .shared layout with
      | .error failure => .error failure
      | .ok handle => .ok ((caller.hold mapping).add (.managed handle (some mapping)))
  | _ => .ok caller

/-- The caller gives a handle memory that it keeps in place. -/
def lend (caller : Caller) (region : Region) (layout : Layout) : Except Failure Caller :=
  match Handle.ofRegion region .external layout with
  | .error failure => .error failure
  | .ok handle => .ok (caller.add (.managed handle none))

/-- The caller makes one more reference to a mapping. -/
def copy (caller : Caller) (number : Nat) : Caller :=
  match caller.holdings[number]? with
  | some (.reference mapping) => (caller.hold mapping).add (.reference mapping)
  | _ => caller

/-- The caller drops what it holds. -/
def drop (caller : Caller) (number : Nat) : Caller :=
  match caller.holdings[number]? with
  | some (.reference mapping) => (caller.release mapping).put number .dropped
  | some (.managed ⟨_, _, _, some view, _⟩ mapping) =>
    (caller.loseView view mapping).put number .dropped
  | _ => caller.put number .dropped

/-- A handle is another one after a use.  If it has lost its region, so has whoever held the mapping
through it. -/
def settle (caller : Caller) (number : Nat) (handle : Handle) (mapping : Option Nat)
    (next : Handle) : Caller :=
  match handle.view, next.view with
  | some view, none => (caller.loseView view mapping).put number (.managed next mapping)
  | _, _ => caller.put number (.managed next mapping)

/-- The caller uses a handle. -/
def use (rounds : Nat) (caller : Caller) (number : Nat) (use : Handle.Use) :
    Activity (Handle.Reply × Caller) :=
  match caller.holdings[number]? with
  | some (.managed handle mapping) =>
    if use.goesToRegion && handle.view.isSome && !mapping.all caller.isMapped then
      Activity.fail (.fault .unmapped)
    else do
      let (reply, next) ← use.activity rounds handle
      pure (reply, caller.settle number handle mapping next)
  | _ => pure (.done, caller)

end Caller

/-- The ways to get a handle from a path. -/
inductive Acquisition where
  /-- To create the file in a fresh directory. -/
  | creation (handshake : Handshake) (directory filename : String) (length : Nat) (force : Bool)
  /-- To adopt the file, or to make it. -/
  | adoption (handshake : Handshake) (path : String) (length : Nat) (shouldPreExist : Bool)
  /-- To wait for the owner of the file. -/
  | attachment (handshake : Handshake) (directory filename : String)

/-- What it takes to get the handle. -/
def Acquisition.activity (rounds : Nat) : Acquisition → Activity Handle
  | creation handshake directory filename length force =>
    handshake.createInDirectory directory filename length force rounds
  | adoption handshake path length shouldPreExist =>
    handshake.createOrAdopt path length shouldPreExist
  | attachment handshake directory filename => handshake.openExisting directory filename rounds

namespace Caller

/-- What a caller can do.  A number under which nothing of the kind is held has no effect. -/
inductive Step where
  /-- To get a handle from a path. -/
  | acquires (acquisition : Acquisition)
  /-- To map a file. -/
  | maps (region : Region)
  /-- To make one more reference to a mapping. -/
  | copies (number : Nat)
  /-- To make a handle for a mapping. -/
  | shares (number : Nat) (layout : Layout)
  /-- To make a handle for memory. -/
  | lends (region : Region) (layout : Layout)
  /-- To use a handle. -/
  | uses (number : Nat) (use : Handle.Use)
  /-- To drop a handle or a reference. -/
  | drops (number : Nat)

/-- What a step does, and the caller that remains. -/
def Step.activity (rounds : Nat) (caller : Caller) : Step → Activity (Handle.Reply × Caller)
  | acquires acquisition => do
    let handle ← acquisition.activity rounds
    pure (.done, caller.receive handle)
  | maps region => pure (.done, caller.refer region)
  | copies number => pure (.done, caller.copy number)
  | shares number layout => do
    let next ← Observer.ofExcept (caller.share number layout)
    pure (.done, next)
  | lends region layout => do
    let next ← Observer.ofExcept (caller.lend region layout)
    pure (.done, next)
  | uses number use => caller.use rounds number use
  | drops number => pure (.done, caller.drop number)

end Caller

end Heartbeat
