/-
**The file system in which executables are written.**

The working directory lies in the root.

* `FileTree.kindAt`, `makeDirectory`, `create`, `perform`, … — the calls on the file system.
* `FileTree.host` — the tree as a file system for the command.
* `FileTree.listing` — everything below the working directory, in the byte order of paths, if all of
  it can be read.
-/

import StaticElf.FileHost
import StaticElf.FileSystem

namespace StaticElf

/-- A directory, or a file with its content and permission bits. -/
inductive Entry where
  | directory
  | file (content : ByteFile) (mode : Nat)
  deriving DecidableEq, Repr

/-- Whether the owner may read an entry. -/
def Entry.readable : Entry → Bool
  | .directory => true
  | .file _ mode => FileMode.permits mode FileMode.ownerRead

/-- A file system, and the file that is open, with its position. -/
structure FileTree where
  system : FileSystem ByteFile := .empty
  opened : Option (Nat × Nat) := none
  deriving Repr

namespace FileTree

/-! ### Following paths -/

/-- A path that can be asked for: no byte of it is zero. -/
def checkedPath (path : Bytes) : Except Errno Bytes :=
  if path.contains 0 then .error .invalidArgument else .ok path

/-- Follows a path from the working directory up to its last name. -/
def resolve (tree : FileTree) (path : Bytes) : Except Errno FileSystem.Target := do
  tree.system.resolve {} FileSystem.start (← checkedPath path)

/-- The number of what stands at a path. -/
def find (tree : FileTree) (path : Bytes) : Except Errno Nat := do
  tree.system.find {} FileSystem.start (← checkedPath path)

/-- A node as an entry. What is neither a file nor a directory has no entry. -/
def entryOf (node : FileNode ByteFile) : Option Entry :=
  match node.kind with
  | .directory .. => some .directory
  | .file content => some (.file content node.mode)
  | .link _ => none

/-- What stands at a path. -/
def entryAt (tree : FileTree) (path : Bytes) : Except Errno Entry := do
  match (tree.system.node? (← tree.find path)).bind entryOf with
  | some entry => return entry
  | none => throw .noEntry

/-! ### Calls -/

/-- What stands at a path, without its content. -/
def kindAt (tree : FileTree) (path : Bytes) : Except Errno FileKind := do
  match ← tree.entryAt path with
  | .directory => return .directory
  | .file .. => return .file

/-- Whether a directory stands at a path. A link there is not followed. -/
def holdsDirectory (tree : FileTree) (path : Bytes) : Bool :=
  match checkedPath path >>= tree.system.find { through := false } FileSystem.start with
  | .error _ => false
  | .ok number => (tree.system.node? number).bind entryOf = some .directory

/-- Makes a directory. -/
def makeDirectory (tree : FileTree) (path : Bytes) : Except Errno FileTree := do
  match ← tree.resolve path with
  | .directory _ => throw .alreadyThere
  | .named parent name _ =>
    match ← tree.system.lookup parent name with
    | some _ => throw .alreadyThere
    | none =>
      return { tree with system := (tree.system.makeDirectory parent name FileMode.executable).1 }

/-- Changes the content and the permission bits of a file. -/
def setFile (tree : FileTree) (number : Nat) (content : ByteFile) (mode : Nat) : FileTree :=
  { tree with system := tree.system.modify number fun _ => ⟨.file content, mode⟩ }

/-- Empties the file at a path, which has to have the needed permission bits, or makes an empty one that
can be run, and gives its number. -/
def createAt (tree : FileTree) (needed : Nat) (path : Bytes) : Except Errno (FileTree × Nat) := do
  match ← tree.resolve path with
  | .directory _ => throw .isDirectory
  | .named parent name slashed =>
    if slashed then
      throw .isDirectory
    match ← tree.system.lookup parent name with
    | none =>
      let (system, number) := tree.system.create parent name ⟨.file {}, FileMode.executable⟩
      return ({ tree with system }, number)
    | some number =>
      match (tree.system.node? number).bind entryOf with
      | some (.file _ mode) =>
        if FileMode.permits mode needed then return (tree.setFile number {} mode, number)
        else throw .permissionDenied
      | _ => throw .isDirectory

/-- Opens the file at a path for reading and writing, empty. -/
def create (tree : FileTree) (path : Bytes) : Except Errno FileTree := do
  let (tree, number) ← tree.createAt (FileMode.ownerRead ||| FileMode.ownerWrite) path
  return { tree with opened := some (number, 0) }

/-- What is said about a call on a file that is not open. -/
def notOpen : String := "file already closed"

/-- A call on the open file. -/
def perform (tree : FileTree) (call : Elf.Call) : Except String Unit × FileTree :=
  match tree.opened with
  | none => (.error notOpen, tree)
  | some (number, position) =>
    match (tree.system.node? number).bind entryOf with
    | some (.file content mode) =>
      let (answer, after) := OpenFile.perform ⟨content, position⟩ call
      (answer,
        { tree.setFile number after.file mode with opened := some (number, after.position) })
    | _ => (.error notOpen, tree)

/-- Lets everybody run the open file. -/
def makeExecutable (tree : FileTree) : Except String Unit × FileTree :=
  match tree.opened with
  | none => (.error notOpen, tree)
  | some (number, _) =>
    match (tree.system.node? number).bind entryOf with
    | some (.file content _) => (.ok (), tree.setFile number content FileMode.executable)
    | _ => (.error notOpen, tree)

/-- Closes the open file. -/
def close (tree : FileTree) : Except String Unit × FileTree :=
  match tree.opened with
  | none => (.error notOpen, tree)
  | some _ => (.ok (), { tree with opened := none })

/-- Whether what stands at a path can be run: a directory can be entered, a file needs the bit. -/
def isExecutable (tree : FileTree) (path : Bytes) : Bool :=
  match tree.entryAt path with
  | .ok .directory => true
  | .ok (.file _ mode) => FileMode.permits mode FileMode.ownerRun
  | .error _ => false

/-- The content of the file at a path. -/
def content (tree : FileTree) (path : Bytes) : Option ByteFile :=
  match tree.entryAt path with
  | .ok (.file content _) => some content
  | _ => none

/-- Sees whether what stands at a path can be read. -/
def openToRead (tree : FileTree) (path : Bytes) : Except OpenError Unit :=
  match tree.entryAt path with
  | .error errno => .error ⟨path, errno⟩
  | .ok entry => if entry.readable then .ok () else .error ⟨path, .permissionDenied⟩

/-- Whether what stands at a path is a terminal. It has to be readable, and there is no terminal in a
tree. -/
def isTerminal (tree : FileTree) (path : Bytes) : Except OpenError Bool :=
  (tree.openToRead path).map fun _ => false

/-- Writes a whole file and sets its permission bits. -/
def put (tree : FileTree) (path : Bytes) (bytes : Bytes) (mode : Nat) :
    Except OpenError FileTree :=
  match tree.createAt FileMode.ownerWrite path with
  | .error errno => .error ⟨path, errno⟩
  | .ok (tree, number) => .ok (tree.setFile number (.ofBytes bytes) (mode &&& 0o777))

/-- A change of the tree that may be refused, as a call. -/
def changing (change : FileTree → Except Errno FileTree) : StateM FileTree (Except Errno Unit) :=
  fun tree =>
    match change tree with
    | .ok after => (.ok (), after)
    | .error errno => (.error errno, tree)

/-- The tree as a file system for the command. -/
def host : FileHost (StateM FileTree) where
  kindAt path := fun tree => (tree.kindAt path, tree)
  holdsDirectory path := fun tree => (tree.holdsDirectory path, tree)
  makeDirectory path := changing (·.makeDirectory path)
  create path := changing (·.create path)
  output := { perform := fun call tree => tree.perform call }
  makeExecutable := makeExecutable
  close := close
  isExecutable path := fun tree => (tree.isExecutable path, tree)
  content path := fun tree => (tree.content path, tree)

/-! ### Listing -/

/-- Everything below a directory, each with the names on the way to it, the last first. The names in a
directory are in byte order. Directories lie at most `depth` deep in each other. -/
def walk (tree : FileTree) : (depth : Nat) → (above : List Bytes) → (directory : Nat) →
    List (List Bytes × Entry)
  | 0, _, _ => []
  | depth + 1, above, directory =>
    let names := (tree.system.namesIn directory).mergeSort fun left right =>
      !byteBefore right.1 left.1
    names.flatMap fun (name, number) =>
      match (tree.system.node? number).bind entryOf with
      | none => []
      | some .directory => (name :: above, .directory) :: tree.walk depth (name :: above) number
      | some entry => [(name :: above, entry)]

/-- Everything below the working directory, in the byte order of paths. The first file on the walk that
cannot be read is told instead. -/
def listing (tree : FileTree) : Except OpenError (List (Bytes × Entry)) := do
  let entries ← (tree.walk tree.system.nodes.size [] FileSystem.start).mapM fun (names, entry) =>
    let path := Path.join names.reverse
    if entry.readable then .ok (path, entry) else .error ⟨path, .permissionDenied⟩
  return entries.mergeSort fun left right => !byteBefore right.1 left.1

end FileTree

/-- The first bytes of the rows of sixteen that a file's extents touch, in order. -/
def ByteFile.touchedRows (file : ByteFile) : List Nat :=
  ((file.extents.flatMap fun extent =>
    (List.range ((extent.start + extent.bytes.size + 15) / 16 - extent.start / 16)).map
      fun row => extent.start / 16 + row).mergeSort).eraseReps

/-- The rows of sixteen bytes that are not all zero, each with the place of its first byte. The last
row may be shorter. -/
def ByteFile.rows (file : ByteFile) : List (Nat × Bytes) :=
  (file.touchedRows.map fun row => (16 * row, file.read (16 * row) 16)).filter
    fun (_, bytes) => bytes.any (· != 0)

end StaticElf
