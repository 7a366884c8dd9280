/-
**The command on a real file system.**

Reads arguments and environment, lets the command work on the files of the system, and writes what it
said. The content of the open file is kept until it is closed. A program that was written is run on the
processor of this library.
-/

import StaticElf.CommandLine

namespace StaticElf.Shell

/-- A path or a value as text for the system. -/
def asText (bytes : Bytes) : String := Utf8.display bytes

/-- The number behind a failure of the system. -/
def errnoOf : IO.Error → Errno
  | .noFileOrDirectory _ code _ | .permissionDenied _ code _ | .alreadyExists _ code _
  | .inappropriateType _ code _ | .invalidArgument _ code _ | .resourceExhausted _ code _ =>
    ⟨code.toNat⟩
  | .otherError code _ => ⟨code.toNat⟩
  | _ => ⟨5⟩

/-- Runs an action of the system and keeps its failure. -/
def attempt {α : Type} (action : IO α) : IO (Except Errno α) := do
  try
    return .ok (← action)
  catch error =>
    return .error (errnoOf error)

/-- The open file: its path, its content so far and the position. -/
abbrev Opened := IO.Ref (Bytes × OpenFile)

/-- What stands at a path. A directory cannot be read as a file. -/
def kindAt (path : Bytes) : IO (Except Errno FileKind) := do
  match ← attempt (IO.FS.readBinFile (asText path)) with
  | .ok _ => return .ok .file
  | .error errno => return if errno = .isDirectory then .ok .directory else .error errno

/-- Whether a directory stands at a path that ends in a name. A link there is not followed. -/
def holdsDirectory (path : Bytes) : IO Bool := do
  let entry : IO.FS.DirEntry := {
    root := asText (Path.directory path)
    fileName := asText (path.drop (Path.uptoLastSlash path).length) }
  match ← attempt entry.path.symlinkMetadata with
  | .ok found => return found.type == .dir
  | .error _ => return false

/-- The rights of a file that everybody can read and run and its owner can write. -/
def executableRights : IO.FileRight :=
  { user := { read := true, write := true, execution := true }
    group := { read := true, execution := true }
    other := { read := true, execution := true } }

/-- The files of the system for the command. -/
def host (opened : Opened) : FileHost IO where
  kindAt := kindAt
  holdsDirectory := holdsDirectory
  makeDirectory path := attempt (IO.FS.createDir (asText path))
  create path := do
    opened.set (path, {})
    attempt (IO.FS.writeBinFile (asText path) .empty)
  output := { perform := fun call => do
    let (path, file) ← opened.get
    let (answer, after) := file.perform call
    opened.set (path, after)
    return answer }
  makeExecutable := do
    let (path, _) ← opened.get
    return (← attempt (IO.setAccessRights (asText path) executableRights)).mapError Errno.text
  close := do
    let (path, file) ← opened.get
    let written ← attempt
      (IO.FS.writeBinFile (asText path) (ByteArray.mk file.file.toBytes.toArray))
    return written.mapError Errno.text
  isExecutable path := do
    return (← attempt (IO.FS.readBinFile (asText path))).isOk
  content path := do
    match ← attempt (IO.FS.readBinFile (asText path)) with
    | .ok bytes => return some (.ofBytes bytes.toList)
    | .error _ => return none

/-- A line that the system keeps about itself. -/
def systemLine (name : String) : IO Bytes := do
  return Utf8.ofString (← IO.FS.readFile ("/proc/sys/kernel/" ++ name)).trimAscii.toString

/-- What the system says about itself. -/
def uname : IO (Except Errno Uname) :=
  attempt do
    return {
      system := ← systemLine "ostype"
      release := ← systemLine "osrelease"
      machine := ← systemLine "arch" }

/-- The variables of the environment that matter. -/
def environment : IO Environment := do
  let found ← ["TACET_VERBOSE", "TACET_OUT", "TACET_TARGET"].mapM fun name => do
    return (← IO.getEnv name).map fun value => (name, Utf8.ofString value)
  return found.filterMap id

end StaticElf.Shell

open StaticElf in
/-- The command: says what it has to say and gives its status. -/
def main (arguments : List String) : IO UInt32 := do
  let opened ← IO.mkRef (([] : Bytes), ({} : OpenFile))
  let outcome ← runCommand (Shell.host opened) (← Shell.uname) (← Shell.environment)
    (arguments.map Utf8.ofString)
  (← IO.getStdout).write (ByteArray.mk outcome.stdout.toArray)
  (← IO.getStderr).write (ByteArray.mk outcome.stderr.toArray)
  return UInt32.ofNat outcome.status.toNat
