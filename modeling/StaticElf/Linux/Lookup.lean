/-
**Paths of a program.**

* `Kernel.findAt` — the node that a path leads to, from a directory that a file descriptor stands for.
* `Kernel.newNameAt`, `Kernel.oldNameAt` — a name that is to be made, and one that is to be taken away.
* `Kernel.makeNode` — makes a node with a name.
-/

import StaticElf.Linux.Arguments

namespace StaticElf.Linux

/-- What stands for the working directory in place of a file descriptor. -/
def currentDirectory : UInt64 := 0xffffffffffffff9c

namespace Kernel

/-! ### Directories -/

/-- Whether a node is a directory. -/
def isDirectory (node : Nat) : Kernel Bool := do
  match (← files).kind? node with
  | some (.directory ..) => return true
  | _ => return false

/-- The file that a node is, if it is one. -/
def leafAt (node : Nat) : Kernel (Option Leaf) := do
  match (← files).kind? node with
  | some (.file leaf) => return some leaf
  | _ => return none

/-- Whether a node is a file with a content. -/
def isRegular (node : Nat) : Kernel Bool := do
  match ← leafAt node with
  | some (.regular _) => return true
  | _ => return false

/-- Whether a directory has lost its name. -/
def isRemoved (directory : Nat) : Kernel Bool := do
  let files ← files
  return directory ≠ FileSystem.root
    && !(files.namesIn (files.parentOf directory)).any fun (_, number) => number == directory

/-- Sees whether names in a directory can be changed. -/
def checkChangeable (directory : Nat) : Kernel Unit := do
  failIf (!(← files).permits directory (FileMode.ownerWrite ||| FileMode.ownerRun))
    .permissionDenied

/-- Whether a file descriptor stands for the working directory. -/
def isCurrent (descriptor : UInt64) : Bool := low descriptor = low currentDirectory

/-- The node behind a file descriptor, also if it is only a name. -/
def nodeOf (descriptor : UInt64) : Kernel (Option Nat) := do
  let description ← description (← binding (low descriptor)).description
  match description.opened with
  | .node node => return some node
  | .pipe number _ _ => return (← pipe number).node
  | _ => return none

/-- The directory behind a file descriptor. -/
def directoryOf (descriptor : UInt64) : Kernel Nat := do
  match ← nodeOf descriptor with
  | some node => if ← isDirectory node then return node else fail .notDirectory
  | none => fail .notDirectory

/-- The directory from which a path starts. -/
def startingFrom (descriptor : UInt64) (walk : Walk) (path : Bytes) : Kernel Nat := do
  if isCurrent descriptor || (Path.isRooted path && walk.scope ≠ .enclosed) then
    return (← place).directory
  directoryOf descriptor

/-! ### Names -/

/-- Follows a path up to its last name. -/
def resolveAt (descriptor : UInt64) (path : Bytes) (walk : Walk) : Kernel FileSystem.Target := do
  let start ← startingFrom descriptor walk path
  ofExcept ((← files).resolve walk start path)

/-- The node that a path leads to. A link at its end is followed if `through`. -/
def findAt (descriptor : UInt64) (path : Bytes) (through : Bool) : Kernel Nat := do
  let start ← startingFrom descriptor {} path
  ofExcept ((← files).find { through } start path)

/-- The directory that holds the last name of a path. -/
def parentAt (descriptor : UInt64) (path : Bytes) : Kernel (Nat × FileSystem.LastName) := do
  let start ← startingFrom descriptor {} path
  ofExcept ((← files).resolveParent {} start path)

/-- A name that does not stand for anything yet, and its directory. A slash behind it is only right for a
directory. -/
def newNameAt (descriptor : UInt64) (path : Bytes) (forDirectory : Bool) : Kernel (Nat × Bytes) := do
  match ← parentAt descriptor path with
  | (parent, .name name slashed) =>
    failIf (← isRemoved parent) .noEntry
    match ← ofExcept ((← files).lookup parent name) with
    | some _ => fail .alreadyThere
    | none =>
      failIf (slashed && !forDirectory) .noEntry
      return (parent, name)
  | _ => fail .alreadyThere

/-- A name in a directory with what it stands for. -/
structure Spot where
  parent : Nat
  name : Bytes
  slashed : Bool
  node : Nat

/-- What a name in a directory stands for. -/
def spotIn (parent : Nat) (name : Bytes) (slashed : Bool) : Kernel Spot := do
  failIf (← isRemoved parent) .noEntry
  let found ← ofExcept ((← files).lookup parent name)
  let node ← ofOption found .noEntry
  return { parent, name, slashed, node }

/-- Sees whether a name can be taken away from a directory or, if `isDirectory` does not hold, from
something else. -/
def checkRemovable (spot : Spot) (asDirectory : Bool) : Kernel Unit := do
  checkChangeable spot.parent
  let isDirectory ← isDirectory spot.node
  failIf (asDirectory && !isDirectory) .notDirectory
  failIf (!asDirectory && isDirectory) .isDirectory

/-! ### New nodes -/

/-- The permission bits of a fresh file. -/
def freshMode (mode : Nat) : Kernel Nat := do
  let mask := (← place).mask
  return (mode &&& 0o7777) - (mode &&& 0o7777 &&& mask)

/-- The permission bits of a fresh directory: one in which files take its group hands that on. -/
def freshDirectoryMode (parent mode : Nat) : Kernel Nat := do
  let inherited := if (← files).permits parent 0o2000 then 0o2000 else 0
  return (← freshMode (mode &&& 0o1777)) ||| inherited

/-- Makes a node with a name. -/
def makeNode (parent : Nat) (name : Bytes) (kind : NodeKind Leaf) (mode : Nat) : Kernel Nat := do
  checkChangeable parent
  modifyGet fun world =>
    let (files, number) := world.files.create parent name ⟨kind, mode⟩
    (number, { world with files })

/-- Whether a file is being run. -/
def isRunning (node : Nat) : Kernel Bool := do
  let world ← get
  return (List.range world.threads.size).any fun index =>
    world.isAlive index
      && (world.spaces.getD (world.threads.getD index {}).space {}).executable == node

/-- Takes away the permission bits by which a file runs as its owner or its group: its content changed. -/
def dropPrivileges (node : Nat) : Kernel Unit := do
  match (← files).node? node with
  | some { kind := .file _, mode } =>
    let dropped := 0o4000 ||| (if mode &&& 0o010 ≠ 0 then 0o2000 else 0)
    if mode &&& dropped ≠ 0 then
      modifyFiles (·.modify node ({ · with mode := mode - (mode &&& dropped) }))
  | _ => pure ()

end Kernel

end StaticElf.Linux
