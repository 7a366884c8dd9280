/-
**What is told about files.**

* `Kernel.nodeStatus`, `Kernel.openStatus` — what is known about a node, and about an open file.
* `Service.status`, `Service.longStatus`, `Service.access`, `Service.readLink`, … — the system calls.
* `Service.changeDirectory`, `Service.listDirectory`, … — directories.
-/

import StaticElf.Linux.Service.Opening

namespace StaticElf.Linux

/-- What is told about a file. -/
structure FileStatus where
  mode : Nat
  size : Nat := 0
  node : Nat := 0
  links : Nat := 1
  /-- The device that the file stands for. -/
  device : Nat := 0
  /-- The device on which the file is. -/
  home : Nat := 0x801
  blocks : Nat := 0
  /-- Whether the times are only told to those who ask. -/
  hasFineTimes : Bool := true
  /-- The properties that it has, and those that it could have. -/
  properties : Nat := 0
  knownProperties : Nat := 0x303874
  times : FileTimes := {}

namespace FileStatus

/-- The time of a file of which none was set. -/
def usualTime : UInt64 × UInt64 := (1700000000, 0)

/-- The times of the last access and of the last changes, of the content and of anything. -/
def allTimes (status : FileStatus) : List (UInt64 × UInt64) :=
  [status.times.accessed.getD usualTime, status.times.modified.getD usualTime, usualTime]

/-- What is told about a file, as bytes. -/
def bytes (status : FileStatus) : ByteArray :=
  packNumbers ([result status.home, result (1000 + status.node), result status.links,
      result (status.mode + 0x100000000 * userNumber), result userNumber, result status.device,
      result status.size, 4096, result status.blocks]
    ++ status.allTimes.flatMap (fun (seconds, nanoseconds) => [seconds, nanoseconds])
    ++ [0, 0, 0])

/-- What is told about a file, as bytes, in the longer form. -/
def longBytes (status : FileStatus) (asked : Nat) : ByteArray :=
  let time (pair : UInt64 × UInt64) : ByteArray := wordBytes 8 pair.1 ++ wordBytes 8 pair.2
  let times := if status.hasFineTimes && asked &&& 0xc0 = 0 then 0 else 0xc0
  let told := 0x173f ||| (asked &&& 0x800) ||| times
  padded (wordBytes 4 (result told) ++ wordBytes 4 4096 ++ wordBytes 8 (result status.properties)
    ++ wordBytes 4 (result status.links) ++ wordBytes 4 (result userNumber)
    ++ wordBytes 4 (result userNumber)
    ++ wordBytes 4 (result status.mode) ++ wordBytes 8 (result (1000 + status.node))
    ++ wordBytes 8 (result status.size) ++ wordBytes 8 (result status.blocks)
    ++ wordBytes 8 (result status.knownProperties) ++ time (status.allTimes.getD 0 usualTime) ++ time usualTime
    ++ time usualTime ++ time (status.allTimes.getD 1 usualTime)
    ++ wordBytes 4 (result (status.device / 256)) ++ wordBytes 4 (result (status.device % 256))
    ++ wordBytes 4 (result (status.home / 256)) ++ wordBytes 4 (result (status.home % 256))) 256

end FileStatus

namespace Kernel

/-- How many names a node has. -/
def linksOf (files : FileSystem Leaf) (node : Nat) : Nat :=
  files.nodes.foldl
    (fun count entry =>
      match entry.kind with
      | .directory _ names => count + (names.filter (·.2 = node)).length
      | _ => count)
    0

/-- How many blocks of 512 bytes a content takes. -/
def blocksOf (content : Content) : Nat := 8 * content.pages.size

/-- What is told about a file of the file system. -/
def leafStatus (leaf : Leaf) (status : FileStatus) : Kernel FileStatus := do
  let device (number : Nat) : FileStatus :=
    { status with mode := 0o020000 ||| status.mode, device := number }
  match leaf with
  | .regular number =>
    let content ← content number
    return { status with
      mode := 0o100000 ||| status.mode, size := content.size, blocks := blocksOf content }
  | .null => return device 0x103
  | .zero => return device 0x105
  | .full => return device 0x107
  | .random => return device 0x109
  | .whiteout => return device 0
  | .pipe _ => return { status with mode := 0o010000 ||| status.mode }
  | .socket _ => return { status with mode := 0o140000 ||| status.mode }

/-- What is told about a node, apart from its device. -/
def entryStatus (node : Nat) : Kernel FileStatus := do
  let files ← files
  let entry ← ofOption (files.node? node) .noEntry
  let times := (← notes (.node node)).times
  match entry.kind with
  | .directory _ names =>
    let below := names.filter fun (_, number) =>
      match files.kind? number with
      | some (.directory ..) => true
      | _ => false
    let links := if ← isRemoved node then 0 else below.length + 2
    return { mode := 0o040000 ||| entry.mode, size := 4096, node, links, blocks := 8, times }
  | .link target =>
    return { mode := 0o120777, size := target.length, node, links := linksOf files node, times }
  | .file leaf => leafStatus leaf { mode := entry.mode, node, links := linksOf files node, times }

/-- What is told about a node. -/
def nodeStatus (node : Nat) : Kernel FileStatus := do
  let status ← entryStatus node
  let files ← files
  let device := files.deviceOfNode node
  if device = FileSystem.root then
    return { status with properties := (if node = FileSystem.root then 0x2000 else 0) }
  return { status with
    home := 5 + device
    properties := (if node = device then 0x2000 else 0)
    knownProperties := 0x203070 }

/-- What is told about an open file. -/
def openStatus (description : Description) : Kernel FileStatus := do
  let file ← fileKey description
  let notes ← notes file
  let times := notes.times
  match file with
  | .node node => nodeStatus node
  | .memory number =>
    let content ← content number
    return { mode := 0o100000 ||| notes.mode.getD 0o777, size := content.size,
             node := 5000 + number, links := 0, home := 1, blocks := blocksOf content,
             knownProperties := 0x203070, times }
  | .pipe number =>
    return { mode := 0o010000 ||| notes.mode.getD 0o600, node := 5000 + number, home := 15,
             hasFineTimes := false, knownProperties := 0x203000, times }
  | .socket number =>
    return { mode := 0o140000 ||| notes.mode.getD 0o777, node := 5000 + number, home := 9,
             hasFineTimes := false, knownProperties := 0x203000, times }
  | .shared =>
    return { mode := 0o600, node := 11, home := 16, hasFineTimes := false,
             knownProperties := 0x203000 }

/-- What is told about what a path and flags ask for. -/
def statusAt (descriptor path : UInt64) (flags : Nat) : Kernel FileStatus := do
  let byDescriptor := flags &&& 0x1000 ≠ 0
  let shown ← if byDescriptor && path = 0 then pure (.ok []) else attempt (readName path)
  let isEmpty := match shown with
    | .ok text => text.isEmpty
    | .error _ => false
  if isEmpty && byDescriptor && 0 ≤ lowSigned descriptor then
    return ← openStatus (← description (← binding (low descriptor)).description)
  failIf (flags &&& 0x7900 ≠ flags) .invalidArgument
  let text ← ofExcept shown
  if isEmpty && byDescriptor then
    failIf (!isCurrent descriptor) .badDescriptor
    nodeStatus (← place).directory
  else
    failIf isEmpty .noEntry
    match descriptorNamed? text with
    | some number => openStatus (← description (← binding number).description)
    | none => nodeStatus (← findAt descriptor text (flags &&& 0x100 = 0))

/-- The path of a directory, by its names upwards. -/
def pathOf (files : FileSystem Leaf) : (steps : Nat) → (directory : Nat) → List Bytes
  | 0, _ => []
  | steps + 1, directory =>
    if directory = FileSystem.root then []
    else
      let parent := files.parentOf directory
      let name := (files.namesIn parent).find? fun (_, number) => number == directory
      pathOf files steps parent ++ [(name.map (·.1)).getD []]

/-- What is told about the device of a file: its kind and its number. -/
def deviceOfFile (file : FileKey) : Nat × Nat :=
  match file with
  | .node _ => (0xef53, 0x801)
  | .memory _ => (0x01021994, 1)
  | .pipe _ => (0x50495045, 15)
  | .socket _ => (0x534f434b, 9)
  | .shared => (0x09041934, 16)

/-- What is told about a device, as bytes. -/
def deviceBytes (file : FileKey) : ByteArray :=
  let (kind, number) := deviceOfFile file
  let room : UInt64 := match file with
    | .node _ => 0x100000
    | _ => 0
  packNumbers [result kind, 4096, room, room, room, room, room, result number, 255, 4096, 0x20,
    0, 0, 0, 0]

end Kernel

namespace Service

open Kernel

/-! ### Files -/

/-- Tells what is known about a file. -/
def tellStatus (address : UInt64) (status : FileStatus) : Kernel UInt64 := do
  writeMemory address status.bytes
  return 0

def status : Service := fun arguments => do
  tellStatus arguments.second (← statusAt currentDirectory arguments.first 0)

def linkStatus : Service := fun arguments => do
  tellStatus arguments.second (← statusAt currentDirectory arguments.first 0x100)

def openedStatus : Service := fun arguments => do
  let binding ← binding (low arguments.first)
  tellStatus arguments.second (← openStatus (← description binding.description))

def statusFrom : Service := fun arguments => do
  tellStatus arguments.third (← statusAt arguments.first arguments.second (low arguments.fourth))

def longStatus : Service := fun arguments => do
  let flags := low arguments.third
  let asked := low arguments.fourth
  failIf (0x80000000 ≤ asked || flags &&& 0x6000 = 0x6000) .invalidArgument
  let status ← statusAt arguments.first arguments.second flags
  writeMemory arguments.fifth (status.longBytes asked)
  return 0

/-- Tells what is known about the device of a file. -/
def tellDevice (address : UInt64) (file : FileKey) : Kernel UInt64 := do
  writeMemory address (deviceBytes file)
  return 0

def deviceStatus : Service := fun arguments => do
  let node ← findAt currentDirectory (← readPath arguments.first) true
  tellDevice arguments.second (.node node)

def openedDeviceStatus : Service := fun arguments => do
  let description ← description (← binding (low arguments.first)).description
  tellDevice arguments.second (← fileKey description)

/-- The permission bits of what a path leads to. -/
def modeAt (descriptor path : UInt64) (flags : Nat) : Kernel Nat := do
  let text ← readName path
  if text.isEmpty && flags &&& 0x1000 ≠ 0 then
    if isCurrent descriptor then return (← nodeStatus (← place).directory).mode
    return (← openStatus (← description (← binding (low descriptor)).description)).mode
  failIf text.isEmpty .noEntry
  return (← nodeStatus (← findAt descriptor text (flags &&& 0x100 = 0))).mode

/-- Sees what may be done with a file. -/
def checkAccess (descriptor path : UInt64) (wanted flags : Nat) : Kernel UInt64 := do
  failIf (7 < wanted || flags &&& 0x1300 ≠ flags) .invalidArgument
  failIf (!FileMode.permits (← modeAt descriptor path flags) (wanted * 0o100)) .permissionDenied
  return 0

def access : Service := fun arguments =>
  checkAccess currentDirectory arguments.first (low arguments.second) 0

def accessFrom : Service := fun arguments =>
  checkAccess arguments.first arguments.second (low arguments.third) 0

def accessFromWith : Service := fun arguments =>
  checkAccess arguments.first arguments.second (low arguments.third) (low arguments.fourth)

/-- Tells where a link leads to. A link that is open needs no path. -/
def readLinkAt (descriptor path buffer : UInt64) (length : Int) : Kernel UInt64 := do
  failIf (length ≤ 0) .invalidArgument
  let text ← readName path
  let node ← if !text.isEmpty then some <$> findAt descriptor text false
    else if isCurrent descriptor then pure none
    else nodeOf descriptor
  match node.bind (← files).kind? with
  | some (.link target) =>
    let shown : ByteArray := ⟨(target.take length.toNat).toArray⟩
    writeMemory buffer shown
    return result shown.size
  | _ => fail (if text.isEmpty then .noEntry else .invalidArgument)

def readLink : Service := fun arguments => do
  let _ ← if lowSigned arguments.third ≤ 0 then fail .invalidArgument else readPath arguments.first
  readLinkAt currentDirectory arguments.first arguments.second (lowSigned arguments.third)

def readLinkFrom : Service := fun arguments =>
  readLinkAt arguments.first arguments.second arguments.third (lowSigned arguments.fourth)

/-! ### Directories -/

def tellDirectory : Service := fun arguments => do
  let files ← files
  let directory := (← place).directory
  failIf (← isRemoved directory) .noEntry
  let path := Path.slash :: Path.join (pathOf files files.nodes.size directory)
  let bytes : ByteArray := ⟨(path ++ [0]).toArray⟩
  failIf (arguments.second.toNat < bytes.size) .outOfRange
  writeMemory arguments.first bytes
  return result bytes.size

/-- Makes a directory the working directory. -/
def enterDirectory (node : Nat) : Kernel UInt64 := do
  failIf (!(← isDirectory node)) .notDirectory
  failIf (!(← files).permits node FileMode.ownerRun) .permissionDenied
  modifyPlace ({ · with directory := node })
  return 0

def changeDirectory : Service := fun arguments => do
  enterDirectory (← findAt currentDirectory (← readPath arguments.first) true)

def changeDirectoryTo : Service := fun arguments => do
  match ← nodeOf arguments.first with
  | some node => enterDirectory node
  | none => fail .notDirectory

/-- Another root can only be asked for: nobody here may have one. -/
def changeRoot : Service := fun arguments => do
  let node ← findAt currentDirectory (← readPath arguments.first) true
  failIf (!(← isDirectory node)) .notDirectory
  failIf (!(← files).permits node FileMode.ownerRun) .permissionDenied
  fail .notPermitted

def setMask : Service := fun arguments => do
  let old := (← place).mask
  modifyPlace ({ · with mask := low arguments.first &&& 0o777 })
  return result old

/-- The names in a directory, with what they stand for and of what kind that is. -/
def directoryNames (node : Nat) : Kernel (List (Bytes × Nat × Nat)) := do
  let files ← files
  let kindOf (number : Nat) : Nat := match files.kind? number with
    | some (.directory ..) => 4
    | some (.link _) => 10
    | some (.file (.regular _)) => 8
    | some (.file (.pipe _)) => 1
    | some (.file (.socket _)) => 12
    | _ => 2
  return (Path.here, node, 4) :: (Path.above, files.parentOf node, 4)
    :: (files.namesIn node).map fun (name, number) => (name, number, kindOf number)

/-- A name in a directory, as bytes. -/
def entryBytes (old : Bool) (place : Nat) (name : Bytes) (number kind : Nat) : ByteArray :=
  let head := wordBytes 8 (result (1000 + number)) ++ wordBytes 8 (result place)
  let text : ByteArray := ⟨name.toArray⟩
  if old then
    let length := (18 + name.length + 2 + 7) / 8 * 8
    padded (head ++ wordBytes 2 (result length) ++ text) (length - 1)
      ++ wordBytes 1 (result kind)
  else
    let length := (19 + name.length + 1 + 7) / 8 * 8
    padded (head ++ wordBytes 2 (result length) ++ wordBytes 1 (result kind) ++ text) length

/-- Lists a directory from its position on. -/
def listNames (old : Bool) (arguments : Arguments) : Kernel UInt64 := do
  let (number, description) ← opened (low arguments.first)
  let room := lowSigned arguments.third
  match description.opened with
  | .node node =>
    failIf (!(← isDirectory node)) .notDirectory
    failIf (← isRemoved node) .noEntry
    let names := (← directoryNames node).drop description.position
    let (bytes, count, _) := names.foldl
      (fun (bytes, count, full) (name, number, kind) =>
        let entry := entryBytes old (description.position + count + 1) name number kind
        if full || room < (bytes.size + entry.size : Nat) then (bytes, count, true)
        else (bytes ++ entry, count + 1, false))
      (ByteArray.empty, 0, false)
    failIf (count = 0 && !names.isEmpty) .invalidArgument
    writeMemory arguments.second bytes
    modifyDescription number ({ · with position := description.position + count })
    return result bytes.size
  | _ => fail .notDirectory

def listDirectoryOld : Service := listNames true

def listDirectory : Service := listNames false

end Service

end StaticElf.Linux
