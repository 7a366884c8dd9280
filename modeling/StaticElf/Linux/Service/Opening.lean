/-
**Opening files.**

* `OpenRequest` — how a file is to be opened, with `OpenRequest.check`.
* `Kernel.openAt` — opens a file by its path.
* `Service.open_`, `Service.openFrom`, `Service.openListed` — the system calls.
-/

import StaticElf.Linux.Lookup

namespace StaticElf.Linux

/-- How a file is to be opened. -/
structure OpenRequest where
  flags : Nat
  mode : Nat := 0
  walk : Walk := {}
  /-- Whether nothing may be waited for on the way. -/
  cached : Bool := false

namespace OpenFlags

/-- All flags that there are. -/
def known : Nat := 0x7fffc3

/-- The flags that a file can have of which only the name is asked for. -/
def ofPath : Nat := directory ||| noFollow ||| pathOnly ||| closeOnExec

/-- The flags that do not stay with an open file. -/
def passing : Nat := create ||| exclusive ||| 0o400 ||| truncate ||| closeOnExec

/-- The flags with which a file may be made. -/
def making : Nat := create ||| temporary

end OpenFlags

namespace OpenRequest

/-- Whether a flag is set. -/
def has (request : OpenRequest) (flag : Nat) : Bool := request.flags &&& flag != 0

/-- Whether a file is made if there is none. -/
def creates (request : OpenRequest) : Bool := request.has OpenFlags.create

/-- Whether there must not be a file before. -/
def exclusive (request : OpenRequest) : Bool := request.creates && request.has OpenFlags.exclusive

/-- Whether the file is asked for to be written, be it only to empty it. -/
def writes (request : OpenRequest) : Bool :=
  request.flags &&& 3 ≠ 0 || request.has OpenFlags.truncate

/-- Whether the file can be changed once it is open, or is emptied at once. -/
def changes (request : OpenRequest) : Bool :=
  request.flags &&& 3 = 1 || request.flags &&& 3 = 2 || request.has OpenFlags.truncate

/-- Whether what is asked for makes sense. -/
def check (request : OpenRequest) : Except Errno Unit := do
  if request.creates && request.has OpenFlags.directory then throw .invalidArgument
  if request.has OpenFlags.temporary
      && (!request.has OpenFlags.directory || request.flags &&& 3 = 0) then
    throw .invalidArgument
  if request.has OpenFlags.pathOnly && request.flags &&& OpenFlags.ofPath ≠ request.flags then
    throw .invalidArgument
  if request.cached && request.flags &&& (OpenFlags.making ||| OpenFlags.truncate) ≠ 0 then
    throw .tryAgain

/-- The flags that stay with the open file. -/
def kept (request : OpenRequest) : Nat :=
  let flags := request.flags - (request.flags &&& OpenFlags.passing)
  let flags := if request.has OpenFlags.synchronous then flags ||| OpenFlags.dataSynchronous else flags
  if request.has OpenFlags.pathOnly then flags else flags ||| OpenFlags.largeFile

/-- A request with flags of which those that are not known do not count. -/
def usual (flags mode : Nat) : OpenRequest :=
  let flags := flags &&& OpenFlags.known
  let flags := if flags &&& OpenFlags.pathOnly ≠ 0 then flags &&& OpenFlags.ofPath else flags
  let through := flags &&& OpenFlags.noFollow = 0
  { flags, mode := mode &&& 0o7777, walk := { through } }

end OpenRequest

namespace Kernel

/-- Opens a pipe with a name. One end waits for the other. -/
def openNamedPipe (number flags : Nat) : Kernel Opened := do
  failIf (flags &&& 3 = 3) .invalidArgument
  let reads := flags &&& 3 ≠ OpenFlags.writeOnly
  let writes := flags &&& 3 ≠ 0
  let nonBlocking := flags &&& OpenFlags.nonBlocking ≠ 0
  if reads && writes then return .pipe number true true
  let pipe ← pipe number
  if writes then
    let ready := (← get).hasReader number || 0 < pipe.readersSeen
    failIf (nonBlocking && !ready) .noDevice
    modifyPipe number ({ · with writersSeen := 1 })
    if !ready then wait
  else
    let ready := nonBlocking || (← get).hasWriter number || 0 < pipe.writersSeen
    modifyPipe number ({ · with readersSeen := 1 })
    if !ready then wait
  return .pipe number reads writes

/-- Sees whether a node may be opened in this way. -/
def checkOpen (entry : FileNode Leaf) (request : OpenRequest) : Kernel Unit := do
  match entry.kind with
  | .link _ => fail .tooManyLinks
  | .directory .. => failIf request.writes .isDirectory
  | .file _ => pure ()
  let needed := (if request.flags &&& 3 ≠ 1 then FileMode.ownerRead else 0)
    ||| (if request.writes then FileMode.ownerWrite else 0)
  failIf (!FileMode.permits entry.mode needed) .permissionDenied

/-- Opens a node that may be opened. -/
def openLeaf (node : Nat) (leaf : Leaf) (request : OpenRequest) : Kernel Opened := do
  match leaf with
  | .regular content =>
    failIf (request.changes && (← isRunning node)) .textBusy
    if request.has OpenFlags.truncate then
      modifyContent content (·.resize 0)
      dropPrivileges node
    return .node node
  | .pipe number =>
    let opened ← openNamedPipe number request.flags
    failIf (request.has OpenFlags.direct) .invalidArgument
    return opened
  | .socket _ | .whiteout => fail .noDevice
  | _ =>
    failIf (request.has OpenFlags.direct) .invalidArgument
    return .node node

/-- Opens a node that was there before. -/
def openNode (node : Nat) (request : OpenRequest) : Kernel Opened := do
  let entry ← ofOption ((← files).node? node) .noEntry
  let isDirectory ← isDirectory node
  failIf (!isDirectory && request.has OpenFlags.directory) .notDirectory
  if request.has OpenFlags.pathOnly then return .node node
  checkOpen entry request
  match entry.kind with
  | .file leaf => openLeaf node leaf request
  | _ =>
    failIf (request.has OpenFlags.direct) .invalidArgument
    return .node node

/-- Opens again what a file descriptor stands for. -/
def reopen (descriptor : Nat) (request : OpenRequest) : Kernel Opened := do
  let binding ← (do
    match ← attempt (binding descriptor) with
    | .ok binding => pure binding
    | .error _ => fail .noEntry)
  let description ← description binding.description
  match description.opened with
  | .node node => openNode node request
  | .memory content seals =>
    if request.has OpenFlags.truncate then modifyContent content (·.resize 0)
    return .memory content seals
  | .pipe number _ _ => return .pipe number (request.flags &&& 3 ≠ 1) (request.flags &&& 3 ≠ 0)
  | _ => fail .noDevice

/-- The file descriptor that a path names. -/
def descriptorNamed? (path : Bytes) : Option Nat :=
  let digits (text : Bytes) : Option Nat :=
    if text.isEmpty || !text.all (fun byte => 0x30 ≤ byte && byte ≤ 0x39) then none
    else some (text.foldl (fun value byte => 10 * value + (byte.toNat - 0x30)) 0)
  let name (text : String) : Bytes := text.toUTF8.toList
  if !Path.isRooted path then none
  else match Path.names path with
    | [first, second] =>
      if first ≠ name "dev" then none
      else if second = name "stdin" then some 0
      else if second = name "stdout" then some 1
      else if second = name "stderr" then some 2
      else none
    | [first, second, third] =>
      if first = name "dev" && second = name "fd" then digits third else none
    | [first, second, third, fourth] =>
      if first = name "proc" && (second = name "self" || second = name "thread-self")
          && third = name "fd" then digits fourth else none
    | _ => none

/-- Opens what a path leads to, making a file if that is asked for, and says whether one was made. -/
def openPath (descriptor : UInt64) (path : Bytes) (request : OpenRequest) :
    Kernel (Opened × Bool) := do
  let walk := { request.walk with through := request.walk.through && !request.exclusive }
  match descriptorNamed? path with
  | some number => if walk.through then return (← reopen number request, false)
  | none => pure ()
  let target ← attempt (resolveAt descriptor path walk)
  failIf (request.cached && target matches .error .noEntry) .tryAgain
  match ← ofExcept target with
  | .directory node =>
    failIf request.exclusive .alreadyThere
    failIf request.creates .isDirectory
    return (← openNode node request, false)
  | .named parent name slashed =>
    failIf (request.creates && slashed) .isDirectory
    failIf (← isRemoved parent) .noEntry
    match ← ofExcept ((← files).lookup parent name) with
    | none =>
      failIf request.cached .tryAgain
      failIf (!request.creates) .noEntry
      let content ← addContent {}
      let mode ← freshMode request.mode
      return (.node (← makeNode parent name (.file (.regular content)) mode), true)
    | some node =>
      failIf request.exclusive .alreadyThere
      let isDirectory ← isDirectory node
      failIf (request.creates && isDirectory) .isDirectory
      failIf (slashed && !isDirectory) .notDirectory
      return (← openNode node request, false)

/-- Opens a file without a name in a directory. -/
def openTemporary (descriptor : UInt64) (path : Bytes) (request : OpenRequest) : Kernel Opened := do
  let start ← startingFrom descriptor request.walk path
  let directory ← ofExcept ((← files).find request.walk start path)
  failIf (!(← isDirectory directory)) .notDirectory
  checkChangeable directory
  let content ← addContent {}
  let mode ← freshMode request.mode
  let number ← modifyGet fun world =>
    let (files, number) := world.files.add ⟨.file (.regular content), mode⟩
    (number, { world with files })
  if !request.has OpenFlags.exclusive then modifyNotes (.node number) ({ · with linkable := true })
  return .node number

/-- Opens a file by the path at an address. -/
def openAt (descriptor address : UInt64) (request : OpenRequest) : Kernel UInt64 := do
  ofExcept request.check
  let path ← readPath address
  let _ ← freeDescriptor 0
  let (opened, created) ← if request.has OpenFlags.temporary then
      (do pure (← openTemporary descriptor path request, true))
    else openPath descriptor path request
  return result (← install { opened, flags := request.kept, created }
    (request.has OpenFlags.closeOnExec))

/-- The request that is listed in memory. -/
def listedRequest (address length : UInt64) : Kernel OpenRequest := do
  let numbers ← readSized address length.toNat 24 24
  let flags := littleEndian numbers 0 8
  let mode := littleEndian numbers 8 8
  let scopes := littleEndian numbers 16 8
  failIf (flags.toNat &&& OpenFlags.known ≠ flags.toNat) .invalidArgument
  failIf (scopes.toNat &&& 0x3f ≠ scopes.toNat || hasBits scopes 0x18) .invalidArgument
  let makes := flags.toNat &&& OpenFlags.making ≠ 0
  failIf (if makes then mode.toNat &&& 0o7777 ≠ mode.toNat else mode != 0) .invalidArgument
  let walk : Walk := {
    through := flags.toNat &&& OpenFlags.noFollow = 0
    scope := if hasBits scopes 8 then .below else if hasBits scopes 0x10 then .enclosed
      else .everything
    noLinks := hasBits scopes 4
    sameDevice := hasBits scopes 1 }
  return { flags := flags.toNat, mode := mode.toNat, walk, cached := hasBits scopes 0x20 }

end Kernel

namespace Service

open Kernel

def open_ : Service := fun arguments =>
  openAt currentDirectory arguments.first (.usual (low arguments.second) (low arguments.third))

def openFrom : Service := fun arguments =>
  openAt arguments.first arguments.second (.usual (low arguments.third) (low arguments.fourth))

def create : Service := fun arguments =>
  let flags := OpenFlags.writeOnly ||| OpenFlags.create ||| OpenFlags.truncate
  openAt currentDirectory arguments.first (.usual flags (low arguments.second))

def openListed : Service := fun arguments => do
  openAt arguments.first arguments.second (← listedRequest arguments.third arguments.fourth)

end Service

end StaticElf.Linux
