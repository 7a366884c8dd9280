/-
**The file system as the command uses it.**

* `FileHost` — the calls that writing an executable makes on a file system; each may fail. One file is
  open at a time.
* `makeDirectories` — makes a directory and those above it that are missing.
-/

import StaticElf.ByteFile
import StaticElf.Errno
import StaticElf.Path
import StaticElf.Text.Utf8

namespace StaticElf

/-- What stands at a path. -/
inductive FileKind where
  | directory
  | file
  deriving DecidableEq, Repr

/-- The calls on a file system. -/
structure FileHost (m : Type → Type) where
  /-- What stands at a path. -/
  kindAt : Bytes → m (Except Errno FileKind)
  /-- Whether a directory stands at a path. A link there is none, wherever it leads. -/
  holdsDirectory : Bytes → m Bool
  /-- Makes one directory. -/
  makeDirectory : Bytes → m (Except Errno Unit)
  /-- Opens a file for reading and writing, empty, making it if it is missing. -/
  create : Bytes → m (Except Errno Unit)
  /-- The open file. -/
  output : Elf.Output m
  /-- Lets everybody run the open file and its owner write it. -/
  makeExecutable : m (Except String Unit)
  /-- Closes the open file. -/
  close : m (Except String Unit)
  /-- Whether what stands at a path can be run. -/
  isExecutable : Bytes → m Bool
  /-- The content of the file at a path. -/
  content : Bytes → m (Option ByteFile)

/-- A file that could not be opened, and why. -/
structure OpenError where
  path : Bytes
  errno : Errno
  deriving DecidableEq, Repr

/-- What is said about a file that could not be opened. -/
def OpenError.text (error : OpenError) : String :=
  s!"open {Utf8.display error.path}: {error.errno.text}"

/-- A directory that could not be made, and why. -/
structure DirectoryError where
  path : Bytes
  errno : Errno
  deriving DecidableEq, Repr

/-- What is said about a directory that could not be made. -/
def DirectoryError.text (error : DirectoryError) : String :=
  s!"mkdir {Utf8.display error.path}: {error.errno.text}"

/-- Makes the first directory of a list, and before it those of the rest that are missing; the list
goes upwards. A directory that is already there is left alone, and so is one that is there by the time it
would be made, if it is no link. -/
def makeDirectories {m : Type → Type} [Monad m] (host : FileHost m) :
    List Bytes → m (Except DirectoryError Unit)
  | [] => return .ok ()
  | path :: upwards => do
    match ← host.kindAt path with
    | .ok .directory => return .ok ()
    | .ok .file => return .error ⟨path, .notDirectory⟩
    | .error _ =>
      match ← makeDirectories host upwards with
      | .error error => return .error error
      | .ok () =>
        match ← host.makeDirectory path with
        | .ok () => return .ok ()
        | .error errno =>
          if ← host.holdsDirectory path then return .ok () else return .error ⟨path, errno⟩

end StaticElf
