/-
**What can be asked of a file descriptor.**

* `Kernel.lockRange`, `Kernel.tellConflict` — locks of ranges of files.
* `Kernel.changeFlags`, `Kernel.setFileOwner`, `Kernel.setLease`, … — what an open file has besides.
* `Service.control` — all of it by number; `Service.lockWhole` locks a whole file.
-/

import StaticElf.Linux.Service.Sizes

namespace StaticElf.Linux

namespace Kernel

/-! ### Flags -/

/-- The flags of an open file that can be changed later. -/
def changeableFlags : Nat :=
  OpenFlags.append ||| OpenFlags.nonBlocking ||| OpenFlags.direct ||| OpenFlags.noAccessTime

/-- Whether an open file can send a signal when something happens. -/
def knowsSignals (description : Description) : Kernel Bool := do
  match description.opened with
  | .pipe .. | .socket _ | .other => return true
  | .node node => return (← leafAt node) = some .random
  | _ => return false

/-- Whether an open file can be read and written past what the kernel keeps of it. -/
def knowsDirect (description : Description) : Kernel Bool := do
  match description.opened with
  | .pipe .. => return true
  | .node node => isRegular node
  | _ => return false

/-- Sets the flag by which an open file sends a signal when something happens. -/
def setSignalled (number : Nat) (on : Bool) : Kernel Unit :=
  modifyDescription number fun description =>
    let kept := description.flags - (description.flags &&& OpenFlags.signalled)
    { description with flags := if on then kept + OpenFlags.signalled else kept }

/-- Changes the flags of an open file. -/
def changeFlags (number : Nat) (description : Description) (flags : Nat) : Kernel Unit := do
  failIf (flags &&& OpenFlags.direct ≠ 0 && !(← knowsDirect description)) .invalidArgument
  let kept := description.flags - (description.flags &&& changeableFlags)
  modifyDescription number ({ · with flags := kept ||| (flags &&& changeableFlags) })
  if ← knowsSignals description then setSignalled number (flags &&& OpenFlags.signalled ≠ 0)

/-! ### Owners -/

/-- Whether a number stands for a thread, a process, a group or a session. -/
def isNumbered (number : Nat) : Kernel Bool := do
  let world ← get
  let threads := (List.range world.threads.size).any fun index =>
    world.isAlive index && (world.threads.getD index {}).number == number
  let processes := world.processes.any fun process =>
    !process.told && [process.number, process.processGroup, process.session].contains number
  return number = 1 || threads || processes

/-- The kinds of owners: a thread, a process, and a group of processes. -/
def ownerKinds : List Nat := [0, 1, 2]

/-- Says who is told when something happens with an open file. -/
def setFileOwner (number kind owner : Nat) : Kernel UInt64 := do
  if owner ≠ 0 && !(← isNumbered owner) then fail .noProcess
  modifyDescription number ({ · with owner := ⟨kind, owner⟩ })
  return 0

/-! ### Locks -/

/-- The range of bytes that a structure in memory stands for: the first and the last. -/
def lockedRange (description : Description) (whence : Nat) (start length : Int) :
    Kernel (Nat × Nat) := do
  let largest : Int := largestPlace
  let base : Int ← match whence with
    | 0 => pure 0
    | 1 => pure description.position
    | 2 => pure (← openStatus description).size
    | _ => fail .invalidArgument
  failIf (largest - base < start) .overflow
  let first := base + start
  failIf (first < 0) .invalidArgument
  if 0 < length then
    failIf (largest - first < length - 1) .overflow
    return (first.toNat, (first + length - 1).toNat)
  else if length < 0 then
    failIf (first + length < 0) .invalidArgument
    return ((first + length).toNat, (first - 1).toNat)
  else return (first.toNat, largestPlace)

/-- A lock that is asked for. -/
structure LockRequest where
  /-- Read (0), written (1), or not locked (2). -/
  kind : Nat
  first : Nat
  last : Nat
  process : Nat

/-- The lock at an address. Whether it makes sense is seen in two steps, between which other things are
looked at. -/
def readLock (description : Description) (address : UInt64) (told : Bool) : Kernel LockRequest := do
  let bytes ← readMemory address 32
  let signed (offset : Nat) : Int := (littleEndian bytes offset 8).toInt64.toInt
  let kind := (littleEndian bytes 0 2).toNat
  failIf (told && 1 < kind) .invalidArgument
  let (first, last) ← lockedRange description (littleEndian bytes 2 2).toNat (signed 8) (signed 16)
  failIf (2 < kind) .invalidArgument
  return { kind, first, last, process := (littleEndian bytes 24 4).toNat }

/-- The lock that a request stands for. -/
def requestedLock (description : Description) (holder : LockHolder) (request : LockRequest) :
    Kernel FileLock := do
  return {
    file := ← fileKey description
    holder
    process := (← process).number
    kind := if request.kind = 1 then .exclusive else .shared
    first := request.first
    last := request.last }

/-- Who holds a lock that is asked for. -/
def lockHolder (number : Nat) (forDescription : Bool) : Kernel LockHolder := do
  let table := (← thread).descriptors
  return if forDescription then .description number else .table table

/-- Tells which lock is in the way of one, if any. -/
def tellConflict (number : Nat) (description : Description) (forDescription : Bool)
    (address : UInt64) : Kernel Unit := do
  let request ← readLock description address (!forDescription)
  failIf (forDescription && request.process ≠ 0) .invalidArgument
  let lock ← requestedLock description (← lockHolder number forDescription) request
  match (← get).heldLocks.find? fun other => request.kind ≠ 2 && lock.conflicts other with
  | none => writeNumber address 2 2
  | some other =>
    let length := if other.last = largestPlace then 0 else other.last + 1 - other.first
    let process : UInt64 := match other.holder with
      | .table _ => result other.process
      | .description _ => 0xffffffff
    let kind : UInt64 := if other.kind = .exclusive then 1 else 0
    writeMemory address (wordBytes 8 kind ++ wordBytes 8 (result other.first)
      ++ wordBytes 8 (result length) ++ wordBytes 4 process)

/-- Locks a range of a file, or lets it go. -/
def lockRange (number : Nat) (description : Description) (forDescription waits : Bool)
    (address : UInt64) : Kernel Unit := do
  let request ← readLock description address false
  failIf (request.kind = 0 && !description.readable) .badDescriptor
  failIf (request.kind = 1 && !description.writable) .badDescriptor
  failIf (forDescription && request.process ≠ 0) .invalidArgument
  let lock ← requestedLock description (← lockHolder number forDescription) request
  let held := (← get).heldLocks
  if request.kind = 2 then modify fun world => { world with locks := lock.release held }
  else
    if held.any lock.conflicts then
      failIf (!waits) .tryAgain
      wait
    modify fun world => { world with locks := lock.acquire held }

/-- Keeps others from using a file before this one is told, or no longer does so. -/
def setLease (number : Nat) (description : Description) (kind : Nat) : Kernel Unit := do
  failIf (2 < kind) .invalidArgument
  failIf ((← kindOf description) ≠ 0o100000) .invalidArgument
  if kind = 2 then
    failIf description.lease.isNone .tryAgain
    modifyDescription number ({ · with lease := none })
  else
    let file ← fileKey description
    let world ← get
    let others := world.openNumbers.eraseDups.filter (· ≠ number)
    let sharing ← others.filterM fun other => do
      return (← fileKey (world.descriptions.getD other default)) = file
    let isWritten := (number :: sharing).any fun other =>
      (world.descriptions.getD other default).writable
    let isUsed := sharing.any fun other =>
      let description := world.descriptions.getD other default
      description.readable || description.writable
    failIf (if kind = 0 then isWritten else isUsed) .tryAgain
    modifyDescription number ({ · with lease := some (if kind = 1 then .exclusive else .shared) })

/-! ### Pipes and memory -/

/-- The number of slots of a pipe for so many bytes. -/
def slotsFor (bytes : Nat) : Nat :=
  let pages := (bytes + pageBytes - 1) / pageBytes
  (List.range 20).foldl (fun slots _ => if slots < pages then 2 * slots else slots) 1

def setPipeSize (description : Description) (bytes : Nat) : Kernel UInt64 := do
  let number ← ofOption (pipeOf description) .badDescriptor
  failIf (bytes = 0 || 0x80000000 < bytes) .invalidArgument
  let slots := slotsFor bytes
  let pipe ← pipe number
  failIf (0x100000 < bytes && pipe.capacity < slots) .notPermitted
  failIf (slots < pipe.slots.length) .busy
  modifyPipe number ({ · with capacity := slots })
  return result (slots * pageBytes)

/-- What can no longer be done with a content is added to. -/
def addSeals (number : Nat) (description : Description) (seals : Nat) : Kernel Unit := do
  failIf (!description.writable) .notPermitted
  failIf (0x3f < seals) .invalidArgument
  match description.opened with
  | .memory content old =>
    failIf (old &&& 1 ≠ 0) .notPermitted
    let mapped := (← get).spaces.any fun space => space.mappings.any fun mapping =>
      mapping.shared && mapping.mayWrite && match mapping.source with
        | .content other _ => other == content
        | .zeros => false
    failIf (seals &&& 8 ≠ 0 && mapped) .busy
    modifyDescription number ({ · with opened := .memory content (old ||| seals) })
  | _ => fail .invalidArgument

end Kernel

namespace Service

open Kernel

/-- What can be asked of a file descriptor of which only the name was asked for. -/
def askedOfNames : List Nat := [0, 1, 2, 3, 1027, 1028, 1030]

/-- Asks for a lock by a number. -/
def controlLock (number : Nat) (description : Description) (command : Nat) (address : UInt64) :
    Kernel UInt64 := do
  let forDescription := 36 ≤ command
  match command with
  | 5 | 36 => tellConflict number description forDescription address
  | _ => lockRange number description forDescription (command = 7 || command = 38) address
  return 0

/-- Asks about the owner of an open file by a number. -/
def controlOwner (number : Nat) (description : Description) (command : Nat) (argument : UInt64) :
    Kernel UInt64 := do
  match command with
  | 8 =>
    let owner := lowSigned argument
    failIf (owner = -0x80000000) .invalidArgument
    setFileOwner number (if owner < 0 then 2 else 1) owner.natAbs
  | 9 =>
    let owner := result description.owner.number
    return if description.owner.kind = 2 then 0 - owner else owner
  | 15 =>
    let bytes ← readMemory argument 8
    let kind := (littleEndian bytes 0 4).toNat
    failIf (!ownerKinds.contains kind) .invalidArgument
    setFileOwner number kind (littleEndian bytes 4 4).toNat
  | 17 =>
    writeMemory argument (wordBytes 4 (result userNumber) ++ wordBytes 4 (result userNumber))
    return 0
  | _ =>
    let owner := description.owner
    writeMemory argument (wordBytes 4 (result owner.kind) ++ wordBytes 4 (result owner.number))
    return 0

/-- Asks about what an open file is by a number. -/
def controlFile (number : Nat) (description : Description) (command : Nat) (argument : UInt64) :
    Kernel UInt64 := do
  match command with
  | 1024 =>
    setLease number description (low argument)
    return 0
  | 1026 =>
    failIf (low argument &&& 0x7fffffff ≠ 0 && (← kindOf description) ≠ 0o040000) .notDirectory
    return 0
  | 1025 =>
    return match description.lease with
      | some .shared => 0
      | some .exclusive => 1
      | none => 2
  | 1031 => setPipeSize description (low argument)
  | 1032 =>
    let pipe ← ofOption (pipeOf description) .badDescriptor
    return result ((← Kernel.pipe pipe).capacity * pageBytes)
  | 1033 =>
    addSeals number description (low argument)
    return 0
  | 1034 =>
    match description.opened with
    | .memory _ seals => return result seals
    | _ => fail .invalidArgument
  | 1035 =>
    writeNumber argument 8 (result (← notes (← fileKey description)).hint)
    return 0
  | 1036 =>
    let hint := (← readNumber argument 8).toNat
    failIf (5 < hint) .invalidArgument
    modifyNotes (← fileKey description) ({ · with hint })
    return 0
  | _ => fail .invalidArgument

/-- What can be asked of a file descriptor. -/
def control : Service := fun arguments => do
  let descriptor := low arguments.first
  let command := low arguments.second
  let argument := arguments.third
  let binding ← binding descriptor
  let number := binding.description
  let description ← description number
  failIf (description.pathOnly && !askedOfNames.contains command) .badDescriptor
  match command with
  | 0 => return result (← duplicateFrom descriptor (low argument) false)
  | 1030 => return result (← duplicateFrom descriptor (low argument) true)
  | 1 => return if binding.closeOnExec then 1 else 0
  | 2 =>
    modifyDescriptors (·.insert descriptor { binding with closeOnExec := hasBits argument 1 })
    return 0
  | 3 => return result description.flags
  | 4 =>
    changeFlags number description (low argument)
    return 0
  | 5 | 6 | 7 | 36 | 37 | 38 => controlLock number description command argument
  | 8 | 9 | 15 | 16 | 17 => controlOwner number description command argument
  | 10 =>
    failIf (64 < argument) .invalidArgument
    modifyDescription number ({ · with signal := low argument })
    return 0
  | 11 => return result description.signal
  | 1027 => return if (← Kernel.binding (low argument)).description = number then 1 else 0
  | 1028 => return if description.created then 1 else 0
  | _ => controlFile number description command argument

/-- Locks a whole file, or lets it go. -/
def lockWhole : Service := fun arguments => do
  let command := low arguments.second
  if command &&& 0x20 ≠ 0 then return 0
  let waits := command &&& 4 = 0
  let wanted := command - (command &&& 4)
  failIf (!([1, 2, 8].contains wanted)) .invalidArgument
  let (number, description) ← opened (low arguments.first)
  failIf (wanted ≠ 8 && !description.readable && !description.writable) .badDescriptor
  let file ← fileKey description
  let held := (← get).heldWholeLocks
  let others := held.filter fun lock => !(lock.file = file && lock.description = number)
  if wanted = 8 then modify fun world => { world with wholeLocks := others }
  else
    let kind : LockKind := if wanted = 2 then .exclusive else .shared
    modify fun world => { world with wholeLocks := others }
    if others.any fun lock =>
        lock.file = file && (kind = .exclusive || lock.kind = .exclusive) then
      failIf (!waits) .tryAgain
      wait
    modify fun world => { world with wholeLocks := others ++ [{ file, description := number, kind }] }
  return 0

end Service

end StaticElf.Linux
