import Heartbeat.Program.Owner
import Heartbeat.Program.Watcher
import Std.Time.DateTime.Timestamp

/-!
# The command line

The first argument says which program runs, `owner` or `watcher`, and the second one may be the path
of a configuration.  An owner stops when its standard input ends.

The programs are written against a storage.  On a real disk they run with a picture of the places
that they touch: the configuration, the directory of the region and the file in it.  The picture is
taken again before every look, and the disk follows it after every piece of work.
-/

set_option autoImplicit false

namespace Heartbeat.Main

/-! ## The picture of the disk -/

/-- What a program runs with on a real disk. -/
structure Machine where
  /-- The paths that it touches. -/
  places : List String
  /-- What lies there. -/
  picture : IO.Ref Storage
  /-- Whether diagnostic events of little interest are printed too. -/
  verbose : Bool

/-- A storage in which one path is as on the disk. -/
def refreshPlace (storage : Storage) (path : String) : IO Storage := do
  let place := (← IO.currentDir) / path
  if ← place.isDir then return (storage.makeDirectories path).2
  else if ← place.pathExists then
    let bytes := (← IO.FS.readBinFile place).toList
    let held := (storage.makeDirectories ((Path.parent? path).getD "")).2
    match held.overwriteFile path 0 bytes with
    | .error _ => return held
    | .ok written => return ((written.setLength path bytes.length).toOption).getD written
  else return (storage.remove path).2

/-- What lies at a path. -/
inductive Found where
  /-- Nothing. -/
  | nothing
  /-- A directory. -/
  | directory
  /-- A file with these bytes. -/
  | file (bytes : List UInt8)

/-- What lies at a path in a storage. -/
def found (storage : Storage) (path : String) : Found :=
  if storage.isDirectory path then .directory
  else
    match storage.fileBytes path with
    | .ok bytes => .file bytes
    | .error _ => .nothing

/-- Makes the disk follow a storage at one path.  Only what lay there before is ever deleted.  A
file keeps its place on the disk while its length stays, so that others who have it open see the
change. -/
def settlePlace (before after : Storage) (path : String) : IO Unit := do
  let place := (← IO.currentDir) / path
  match found before path, found after path with
  | .nothing, .nothing | .directory, .directory => pure ()
  | _, .directory => IO.FS.createDirAll place
  | .file old, .file new =>
    if old.length ≠ new.length then IO.FS.writeBinFile place ⟨new.toArray⟩
    else if old ≠ new then (← IO.FS.Handle.mk place .readWrite).write ⟨new.toArray⟩
  | _, .file new => IO.FS.writeBinFile place ⟨new.toArray⟩
  | .directory, .nothing => IO.FS.removeDirAll place
  | .file _, .nothing => if ← place.pathExists then IO.FS.removeFile place

namespace Machine

/-- Takes the picture again. -/
def refresh (machine : Machine) : IO Storage := do
  let storage ← machine.places.foldlM refreshPlace (← machine.picture.get)
  machine.picture.set storage
  return storage

/-- Gives a new picture, and the disk what is new in it. -/
def settle (machine : Machine) (after : Storage) : IO Unit := do
  let before ← machine.picture.get
  machine.places.forM (settlePlace before after)
  machine.picture.set after

/-- Prints a diagnostic event. -/
def print (machine : Machine) : Report → IO Unit
  | .event severity text details =>
    if severity ≠ .debug || machine.verbose then
      let shown := details.map fun
        | (name, .number value) => s!" {name}={value}"
        | (name, .text value) => s!" {name}={value}"
      IO.println (text ++ String.join shown)
    else pure ()
  | _ => pure ()

end Machine

/-- A computation on a real disk. -/
abbrev OnDisk (α : Type) : Type := ReaderT Machine (ExceptT Failure IO) α

/-- An action on the disk as such a computation. -/
def onDisk {α : Type} (action : IO α) : OnDisk α := fun _ => ExceptT.lift action

/-- A result that may be a failure. -/
def settled {α : Type} : Except Failure α → OnDisk α
  | .ok value => pure value
  | .error failure => throw failure

instance : Worker OnDisk where
  now := onDisk do
    let now ← Std.Time.Timestamp.now
    return Int64.ofInt now.toMillisecondsSinceUnixEpoch.toInt
  pause milliseconds := onDisk (IO.sleep (UInt32.ofNat (min milliseconds 4294967295)))
  exhausted := onDisk (throw (IO.userError "no rounds are left"))
  look view := do
    let machine ← read
    let storage ← onDisk machine.refresh
    settled (view storage)
  fail := throw
  attempt process := fun machine => ExceptT.lift (process machine).run
  report report := do
    let machine ← read
    onDisk (machine.print report)
  work step := do
    let machine ← read
    let (result, after) := step (← onDisk machine.refresh)
    onDisk (machine.settle after)
    settled result

/-! ## Running a program -/

/-- More rounds than a wait on a real clock can take. -/
def rounds : Nat := 1 <<< 62

/-- The machine for a program with a configuration, or with the default one. -/
def machineFor (path : Option String) : IO Machine := do
  let here := (← IO.currentDir).toString
  let start := (Storage.empty.makeDirectories here).2
  let storage := { start with workingDirectory := Path.names here }
  let documents := path.toList
  let storage ← documents.foldlM refreshPlace storage
  let loaded : Except ConfigurationError Configuration :=
    match path with
    | none => .ok .default
    | some path => Configuration.load storage path
  let (places, verbose) :=
    match loaded with
    | .error _ => (documents, false)
    | .ok configuration =>
      (documents ++ [configuration.directory,
        Path.join configuration.directory configuration.filename],
        configuration.logLevel = "debug" || configuration.logLevel = "trace")
  return { places, picture := ← IO.mkRef storage, verbose }

/-- Writes heartbeats until something has ended. -/
partial def beatUntil {α : Type} (ended : Task α) (owner : Owner) : Program OnDisk Unit := do
  if ← IO.hasFinished ended then pure ()
  else
    owner.keepBeating 1
    beatUntil ended owner

/-- Reads and drops what is left of an input. -/
partial def drain (input : IO.FS.Stream) : IO Unit := do
  if (← input.getLine).isEmpty then pure () else drain input

/-- The number of this process, with which the system starts its report on the process. -/
def processNumber : IO Int64 := do
  let report ← IO.FS.readFile "/proc/self/stat"
  return Int64.ofNat ((decimal? (report.toList.takeWhile Char.isDigit)).getD 0)

/-- The owner program. -/
def ownerProgram (path : Option String) : Program OnDisk Unit := do
  let owner ← Owner.start path (← processNumber) rounds
  let ended ← IO.asTask (drain (← IO.getStdin))
  beatUntil ended owner
  owner.stop

/-- Runs a program and gives its exit code. -/
def runProgram (path : Option String) (program : Program OnDisk Unit) : IO UInt32 := do
  let machine ← machineFor path
  let ending : Except Complaint Unit :=
    match ← (program.run machine).run with
    | .ok ending => ending
    | .error failure => .error (.ofFailure failure)
  match ending with
  | .ok () => return 0
  | .error complaint =>
    IO.eprint complaint.text
    return 1

end Heartbeat.Main

open Heartbeat.Main in
/-- Runs the program that the arguments name. -/
def main (arguments : List String) : IO UInt32 := do
  match arguments with
  | "owner" :: rest => runProgram rest.head? (ownerProgram rest.head?)
  | "watcher" :: rest => runProgram rest.head? (Heartbeat.Watcher.run rest.head? rounds)
  | _ =>
    IO.eprintln "usage: heartbeat (owner | watcher) [CONFIGURATION]"
    return 2
