/-
**Changing names.**

* `Service.makeDirectory`, `Service.makeSpecial`, `Service.symlink` — new nodes.
* `Service.unlink`, `Service.removeDirectory` — names less.
* `Service.rename`, `Service.link` — other names.
-/

import StaticElf.Linux.Service.Status

namespace StaticElf.Linux

namespace Kernel

/-! ### Renaming -/

/-- Whether a directory lies in another one, or is it. -/
def liesIn (files : FileSystem Leaf) (outer : Nat) : (steps : Nat) → (inner : Nat) → Bool
  | 0, _ => false
  | steps + 1, inner =>
    inner = outer || (inner ≠ FileSystem.root && liesIn files outer steps (files.parentOf inner))

/-- Whether a directory lies in a node, or is it. -/
def contains (node directory : Nat) : Kernel Bool := do
  let files ← files
  return liesIn files node files.nodes.size directory

/-- Gives a directory another directory above it. -/
def setParent (node parent : Nat) : Kernel Unit :=
  modifyFiles (·.modify node fun entry =>
    match entry.kind with
    | .directory _ names => { entry with kind := .directory parent names }
    | _ => entry)

/-- How names are to be changed. -/
structure RenameRequest where
  /-- Whether nothing may stand at the new name. -/
  keeps : Bool
  /-- Whether the two names are exchanged. -/
  exchanges : Bool
  /-- Whether something is left that says that the old name is not there. -/
  marks : Bool

/-- The request that the flags of a call stand for. -/
def renameRequest (flags : Nat) : Kernel RenameRequest := do
  failIf (7 < flags) .invalidArgument
  let request : RenameRequest := {
    keeps := flags &&& 1 ≠ 0
    exchanges := flags &&& 2 ≠ 0
    marks := flags &&& 4 ≠ 0 }
  failIf (request.exchanges && (request.keeps || request.marks)) .invalidArgument
  return request

/-- The name that a node is to get, and what stands there. -/
structure NewName where
  parent : Nat
  name : Bytes
  slashed : Bool
  node : Option Nat

/-- Sees whether the names in two places fit together. -/
def checkNames (old : Spot) (new : NewName) (request : RenameRequest) : Kernel Unit := do
  let isDirectory ← isDirectory old.node
  if request.exchanges then
    let other ← ofOption new.node .noEntry
    failIf (new.slashed && !(← Kernel.isDirectory other)) .notDirectory
  else failIf (new.slashed && !isDirectory) .notDirectory
  failIf (old.slashed && !isDirectory) .notDirectory
  failIf (← contains old.node new.parent) .invalidArgument
  match new.node with
  | some other =>
    failIf (← contains other old.parent)
      (if request.exchanges then .invalidArgument else .notEmpty)
  | none => pure ()

/-- Sees whether the owner may change the names. -/
def checkRename (old : Spot) (new : NewName) (request : RenameRequest) : Kernel Unit := do
  let isDirectory ← isDirectory old.node
  checkRemovable old isDirectory
  match new.node with
  | none => checkChangeable new.parent
  | some node =>
    let asDirectory ← if request.exchanges then Kernel.isDirectory node else pure isDirectory
    checkRemovable { parent := new.parent, name := new.name, slashed := new.slashed, node }
      asDirectory
  if old.parent ≠ new.parent then
    let moved := old.node :: if request.exchanges then new.node.toList else []
    for node in moved do
      if ← Kernel.isDirectory node then
        failIf (!(← files).permits node FileMode.ownerWrite) .permissionDenied
  let mounts := (← files).mounts
  failIf (mounts.contains old.node || new.node.any mounts.contains) .busy

/-- Exchanges what stands at two names. -/
def exchange (old : Spot) (new : NewName) (other : Nat) : Kernel Unit := do
  modifyFiles fun files =>
    (((files.remove old.parent old.name).remove new.parent new.name).enter
      old.parent old.name other).enter new.parent new.name old.node
  setParent old.node new.parent
  setParent other old.parent

/-- Gives a node another name. -/
def rename (old : Spot) (new : NewName) (request : RenameRequest) : Kernel Unit := do
  checkNames old new request
  if new.node = some old.node then return
  checkRename old new request
  match new.node with
  | some other =>
    if request.exchanges then return ← exchange old new other
    failIf (!((← files).namesIn other).isEmpty) .notEmpty
  | none => pure ()
  modifyFiles fun files =>
    ((files.remove old.parent old.name).remove new.parent new.name).enter
      new.parent new.name old.node
  setParent old.node new.parent
  if request.marks then
    let _ ← makeNode old.parent old.name (.file .whiteout) 0

end Kernel

namespace Service

open Kernel

/-! ### New nodes -/

def makeDirectoryAt (descriptor path : UInt64) (mode : Nat) : Kernel UInt64 := do
  let (parent, name) ← newNameAt descriptor (← readPath path) true
  let _ ← makeNode parent name (.directory parent []) (← freshDirectoryMode parent mode)
  return 0

def makeDirectory : Service := fun arguments =>
  makeDirectoryAt currentDirectory arguments.first (low arguments.second)

def makeDirectoryFrom : Service := fun arguments =>
  makeDirectoryAt arguments.first arguments.second (low arguments.third)

def symlinkAt (target descriptor path : UInt64) : Kernel UInt64 := do
  let text ← readPath target
  let (parent, name) ← newNameAt descriptor (← readPath path) false
  let _ ← makeNode parent name (.link text) 0o777
  return 0

def symlink : Service := fun arguments =>
  symlinkAt arguments.first currentDirectory arguments.second

def symlinkFrom : Service := fun arguments =>
  symlinkAt arguments.first arguments.second arguments.third

/-- Makes a file, a pipe or a socket with a name. A device can only be asked for. -/
def makeNodeAt (descriptor path : UInt64) (mode device : Nat) : Kernel UInt64 := do
  let kind := mode &&& 0o170000
  failIf (kind = 0o040000) .notPermitted
  failIf (!([0, 0o100000, 0o010000, 0o140000, 0o020000, 0o060000].contains kind)) .invalidArgument
  let (parent, name) ← newNameAt descriptor (← readPath path) false
  checkChangeable parent
  let isWhiteout := kind = 0o020000 && device = 0
  failIf ((kind = 0o020000 || kind = 0o060000) && !isWhiteout) .notPermitted
  let leaf ← if isWhiteout then pure Leaf.whiteout
    else if kind = 0o010000 then Leaf.pipe <$> addPipe {}
    else if kind = 0o140000 then pure (Leaf.socket 0xffffffff)
    else Leaf.regular <$> addContent {}
  let node ← makeNode parent name (.file leaf) (← freshMode mode)
  match leaf with
  | .pipe number => modifyPipe number ({ · with node := some node })
  | _ => pure ()
  return 0

def makeSpecial : Service := fun arguments =>
  makeNodeAt currentDirectory arguments.first (low arguments.second) (low arguments.third)

def makeSpecialFrom : Service := fun arguments =>
  makeNodeAt arguments.first arguments.second (low arguments.third) (low arguments.fourth)

/-! ### Names less -/

def removeDirectoryAt (descriptor path : UInt64) : Kernel UInt64 := do
  match ← parentAt descriptor (← readPath path) with
  | (_, .none) => fail .busy
  | (_, .here) => fail .invalidArgument
  | (_, .above) => fail .notEmpty
  | (parent, .name name slashed) =>
    let spot ← spotIn parent name slashed
    checkRemovable spot true
    failIf ((← files).mounts.contains spot.node) .busy
    failIf (!((← files).namesIn spot.node).isEmpty) .notEmpty
    modifyFiles (·.remove parent name)
    return 0

def removeDirectory : Service := fun arguments => removeDirectoryAt currentDirectory arguments.first

def unlinkAt (descriptor path : UInt64) : Kernel UInt64 := do
  match ← parentAt descriptor (← readPath path) with
  | (parent, .name name slashed) =>
    let spot ← spotIn parent name slashed
    if slashed then
      if ← isDirectory spot.node then fail .isDirectory else fail .notDirectory
    checkRemovable spot false
    modifyFiles (·.remove parent name)
    return 0
  | _ => fail .isDirectory

def unlink : Service := fun arguments => unlinkAt currentDirectory arguments.first

def unlinkFrom : Service := fun arguments => do
  let flags := low arguments.third
  failIf (flags ≠ 0 && flags ≠ 0x200) .invalidArgument
  if flags = 0x200 then removeDirectoryAt arguments.first arguments.second
  else unlinkAt arguments.first arguments.second

/-! ### Other names -/

def renameAt (oldDescriptor old newDescriptor new : UInt64) (flags : Nat) : Kernel UInt64 := do
  let request ← renameRequest flags
  let (oldParent, oldName) ← parentAt oldDescriptor (← readPath old)
  let (newParent, newName) ← parentAt newDescriptor (← readPath new)
  let files ← files
  failIf (files.deviceOf oldParent ≠ files.deviceOf newParent) .otherDevice
  match oldName, newName with
  | .name oldBytes oldSlashed, .name newBytes newSlashed =>
    let source ← spotIn oldParent oldBytes oldSlashed
    failIf (← isRemoved newParent) .noEntry
    let node ← ofExcept (files.lookup newParent newBytes)
    failIf (request.keeps && node.isSome) .alreadyThere
    Kernel.rename source { parent := newParent, name := newBytes, slashed := newSlashed, node } request
    return 0
  | .name .., _ => fail (if request.keeps then .alreadyThere else .busy)
  | _, _ => fail .busy

def rename : Service := fun arguments =>
  renameAt currentDirectory arguments.first currentDirectory arguments.second 0

def renameFrom : Service := fun arguments =>
  renameAt arguments.first arguments.second arguments.third arguments.fourth 0

def renameFromWith : Service := fun arguments =>
  renameAt arguments.first arguments.second arguments.third arguments.fourth (low arguments.fifth)

/-- The node that is to get another name, unless it lies on another device. -/
def linkSource (descriptor path : UInt64) (flags : Nat) : Kernel (Option Nat) := do
  let text ← readName path
  if text.isEmpty && flags &&& 0x1000 ≠ 0 then
    if isCurrent descriptor then some <$> (return (← place).directory) else nodeOf descriptor
  else
    failIf text.isEmpty .noEntry
    some <$> findAt descriptor text (flags &&& 0x400 ≠ 0)

def linkAt (oldDescriptor old newDescriptor new : UInt64) (flags : Nat) : Kernel UInt64 := do
  failIf (flags &&& 0x1400 ≠ flags) .invalidArgument
  let source ← linkSource oldDescriptor old flags
  let (parent, name) ← newNameAt newDescriptor (← readPath new) false
  let node ← ofOption source .otherDevice
  let files ← files
  failIf (files.deviceOfNode node ≠ files.deviceOf parent) .otherDevice
  checkChangeable parent
  failIf (← isDirectory node) .notPermitted
  failIf (linksOf files node = 0 && !(← notes (.node node)).linkable) .noEntry
  modifyFiles (·.enter parent name node)
  return 0

def link : Service := fun arguments =>
  linkAt currentDirectory arguments.first currentDirectory arguments.second 0

def linkFrom : Service := fun arguments =>
  linkAt arguments.first arguments.second arguments.third arguments.fourth (low arguments.fifth)

end Service

end StaticElf.Linux
