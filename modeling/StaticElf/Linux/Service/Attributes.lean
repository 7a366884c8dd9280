/-
**Permissions, times and attributes of files.**

* `Kernel.fileAt` — the file that a path, or a file descriptor without one, stands for.
* `Service.changeMode`, `Service.changeOwner`, `Service.setTimes`, … — permissions, owners and times.
* `Service.setAttribute`, `Service.tellAttribute`, … — values that are kept under names.
-/

import StaticElf.Linux.Service.Status

namespace StaticElf.Linux

namespace Kernel

/-- The file that a path and flags ask for: without a path it is the one behind the file descriptor. -/
def fileAt (descriptor path : UInt64) (flags : Nat) : Kernel FileKey := do
  let text ← readName path
  if text.isEmpty && flags &&& 0x1000 ≠ 0 then
    if isCurrent descriptor then return .node (← place).directory
    return ← fileKey (← description (← binding (low descriptor)).description)
  failIf text.isEmpty .noEntry
  return .node (← findAt descriptor text (flags &&& 0x100 = 0))

/-- The file behind a file descriptor. One that is only a name does not count. -/
def openedFile (descriptor : UInt64) : Kernel FileKey := do
  fileKey (← opened (low descriptor)).2

/-! ### Permissions and owners -/

/-- Changes the permission bits of a file. -/
def setMode (file : FileKey) (mode : Nat) : Kernel UInt64 := do
  let mode := mode &&& 0o7777
  match file with
  | .node node =>
    match (← files).kind? node with
    | some (.link _) => fail .notSupported
    | _ => modifyFiles (·.modify node ({ · with mode }))
  | .shared => fail .notSupported
  | _ => modifyNotes file ({ · with mode := some mode })
  return 0

/-- Changes the owner and the group of a file. Only those that it has can be asked for. -/
def setOwner (file : FileKey) (owner group : UInt64) : Kernel UInt64 := do
  let isOwn (number : UInt64) : Bool := low number = 0xffffffff || low number = userNumber
  failIf (file = .shared) .notSupported
  failIf (!isOwn owner || !isOwn group) .notPermitted
  match file with
  | .node node => dropPrivileges node
  | _ => pure ()
  return 0

/-! ### Times -/

/-- What a time of a file is set to. -/
inductive NewTime where
  | now
  | kept
  | at (seconds nanoseconds : UInt64)
  deriving DecidableEq, Repr

/-- The time that a number of nanoseconds stands for, if it makes sense. -/
def NewTime.of? (seconds nanoseconds : UInt64) : Option NewTime :=
  if nanoseconds = 0x3fffffff then some .now
  else if nanoseconds = 0x3ffffffe then some .kept
  else if nanoseconds < 1000000000 then some (.at seconds nanoseconds)
  else none

/-- A time of a file after it was set. -/
def NewTime.applied (time : NewTime) (old : Option (UInt64 × UInt64)) : Option (UInt64 × UInt64) :=
  match time with
  | .now => none
  | .kept => old
  | .at seconds nanoseconds => some (seconds, nanoseconds)

/-- Sets the times of a file. -/
def setTimes (file : FileKey) (accessed modified : NewTime) : Kernel UInt64 := do
  failIf (file = .shared) .notSupported
  modifyNotes file fun notes => { notes with
    times := ⟨accessed.applied notes.times.accessed, modified.applied notes.times.modified⟩ }
  return 0

/-! ### Attributes -/

/-- The families of attributes. -/
inductive AttributeFamily where
  | user
  | trusted
  | security
  | system
  | unknown
  deriving DecidableEq, Repr

namespace AttributeFamily

/-- The first bytes of the names of a family. -/
def start : AttributeFamily → Bytes
  | user => "user.".toUTF8.toList
  | trusted => "trusted.".toUTF8.toList
  | security => "security.".toUTF8.toList
  | system => "system.".toUTF8.toList
  | unknown => []

/-- The family of a name. -/
def of (name : Bytes) : AttributeFamily :=
  ([user, trusted, security, system].find? fun family => family.start.isPrefixOf name).getD unknown

end AttributeFamily

/-- The name of an attribute at an address. -/
def attributeName (address : UInt64) : Kernel Bytes := do
  let name ← readText address 256 .outOfRange
  failIf name.isEmpty .outOfRange
  return name

/-- The kind of a file and its permission bits, together. -/
def modeOf (file : FileKey) : Kernel Nat := do
  match file with
  | .node node => return (← nodeStatus node).mode
  | .memory _ => return 0o100000 ||| (← notes file).mode.getD 0o777
  | .pipe _ => return 0o010000 ||| (← notes file).mode.getD 0o600
  | .socket _ => return 0o140000 ||| (← notes file).mode.getD 0o777
  | .shared => return 0o600

/-- Sees whether an attribute may be looked at, or changed. -/
def checkAttribute (file : FileKey) (name : Bytes) (writes : Bool) : Kernel Unit := do
  let mode ← modeOf file
  let kind := mode &&& 0o170000
  let refusal : Errno := if writes then .notPermitted else .noData
  match AttributeFamily.of name with
  | .security | .system => return
  | .trusted => fail refusal
  | .user => failIf (kind ≠ 0o100000 && kind ≠ 0o040000) refusal
  | .unknown => pure ()
  failIf (!FileMode.permits mode (if writes then FileMode.ownerWrite else FileMode.ownerRead))
    .permissionDenied

/-- Whether an attribute stands for a list of further permissions, which no file here has. -/
def isAccessList (file : FileKey) (name : Bytes) : Kernel Bool := do
  let isNamed := ["system.posix_acl_access", "system.posix_acl_default"].any fun text =>
    text.toUTF8.toList == name
  let hasLists ← match file with
    | .node node => do
      match (← files).kind? node with
      | some (.link _) => pure false
      | _ => pure true
    | .memory _ => pure true
    | _ => pure false
  return isNamed && hasLists

/-- Sees whether a file can have an attribute of this name. -/
def checkKept (file : FileKey) (name : Bytes) : Kernel Unit := do
  match file with
  | .pipe _ | .socket _ | .shared => fail .notSupported
  | _ => pure ()
  match AttributeFamily.of name with
  | .unknown | .system => fail .notSupported
  | family => failIf (name.length = family.start.length) .invalidArgument

/-- The room that attributes take. -/
def attributeRoom (attributes : List (Bytes × Bytes)) : Nat :=
  let rounded (length : Nat) : Nat := (length + 3) / 4 * 4
  attributes.foldr (fun (name, value) room => 16 + rounded name.length + rounded value.length + room) 0

/-- Puts a value under a name. -/
def putAttribute (file : FileKey) (name value : Bytes) (flags : Nat) : Kernel UInt64 := do
  checkAttribute file name true
  if value.isEmpty && (← isAccessList file name) then return 0
  failIf (AttributeFamily.of name = .security && file ≠ .shared) .notPermitted
  checkKept file name
  let attributes := (← notes file).attributes
  let isThere := (attributes.lookup name).isSome
  failIf (flags &&& 1 ≠ 0 && isThere) .alreadyThere
  failIf (flags &&& 2 ≠ 0 && !isThere) .noData
  let attributes := if isThere then
      attributes.map fun (other, old) => if other = name then (name, value) else (other, old)
    else attributes ++ [(name, value)]
  failIf (4096 < attributeRoom attributes) .noSpace
  modifyNotes file ({ · with attributes })
  return 0

/-- Tells bytes whose number is asked for if there is no room for any. -/
def tellBytes (bytes : Bytes) (address size : UInt64) : Kernel UInt64 := do
  if size = 0 then return result bytes.length
  failIf (size.toNat < bytes.length) .outOfRange
  writeMemory address ⟨bytes.toArray⟩
  return result bytes.length

/-- Tells the value under a name. -/
def tellAttributeOf (file : FileKey) (name : Bytes) (address size : UInt64) : Kernel UInt64 := do
  checkAttribute file name false
  failIf (← isAccessList file name) .noData
  checkKept file name
  let value ← ofOption ((← notes file).attributes.lookup name) .noData
  tellBytes value address size

/-- The name of the attribute that every socket has. -/
def socketAttribute : Bytes := "system.sockprotoname".toUTF8.toList

/-- Tells the names of the attributes. -/
def listAttributesOf (file : FileKey) (address size : UInt64) : Kernel UInt64 := do
  let names := match file with
    | .socket _ => [socketAttribute]
    | _ => []
  let kept := (← notes file).attributes.map (·.1)
  tellBytes ((names ++ kept).flatMap fun name => name ++ [0]) address size

/-- Takes the value under a name away. -/
def removeAttributeOf (file : FileKey) (name : Bytes) : Kernel UInt64 := do
  checkAttribute file name true
  if ← isAccessList file name then return 0
  failIf (AttributeFamily.of name = .security && file ≠ .shared) .notPermitted
  checkKept file name
  let attributes := (← notes file).attributes
  failIf (attributes.lookup name).isNone .noData
  modifyNotes file ({ · with attributes := attributes.filter fun (other, _) => other ≠ name })
  return 0

end Kernel

namespace Service

open Kernel

/-! ### Permissions and owners -/

def changeMode : Service := fun arguments => do
  setMode (← fileAt currentDirectory arguments.first 0) (low arguments.second)

def changeModeOpened : Service := fun arguments => do
  setMode (← openedFile arguments.first) (low arguments.second)

def changeModeFrom : Service := fun arguments => do
  setMode (← fileAt arguments.first arguments.second 0) (low arguments.third)

def changeModeFromWith : Service := fun arguments => do
  let flags := low arguments.fourth
  failIf (flags &&& 0x1100 ≠ flags) .invalidArgument
  setMode (← fileAt arguments.first arguments.second flags) (low arguments.third)

def changeOwner : Service := fun arguments => do
  setOwner (← fileAt currentDirectory arguments.first 0) arguments.second arguments.third

def changeLinkOwner : Service := fun arguments => do
  setOwner (← fileAt currentDirectory arguments.first 0x100) arguments.second arguments.third

def changeOwnerOpened : Service := fun arguments => do
  setOwner (← openedFile arguments.first) arguments.second arguments.third

def changeOwnerFrom : Service := fun arguments => do
  let flags := low arguments.fifth
  failIf (flags &&& 0x1100 ≠ flags) .invalidArgument
  setOwner (← fileAt arguments.first arguments.second flags) arguments.third arguments.fourth

/-! ### Times -/

def setSeconds : Service := fun arguments => do
  let times ← if arguments.second = 0 then pure (.now, .now)
    else (do
      let numbers ← readNumbers arguments.second 2
      pure (NewTime.at (numbers.getD 0 0) 0, NewTime.at (numbers.getD 1 0) 0))
  Kernel.setTimes (← fileAt currentDirectory arguments.first 0) times.1 times.2

/-- The times that are given in seconds and microseconds. -/
def readMicroseconds (address : UInt64) : Kernel (NewTime × NewTime) := do
  if address = 0 then return (.now, .now)
  let numbers ← readNumbers address 4
  let parts := [numbers.getD 1 0, numbers.getD 3 0]
  failIf (parts.any fun part => 1000000 ≤ part) .invalidArgument
  return (.at (numbers.getD 0 0) (1000 * numbers.getD 1 0),
    .at (numbers.getD 2 0) (1000 * numbers.getD 3 0))

def setMicroseconds : Service := fun arguments => do
  let (accessed, modified) ← readMicroseconds arguments.second
  Kernel.setTimes (← fileAt currentDirectory arguments.first 0) accessed modified

/-- The file whose times are to be set: without a path it is the one behind the file descriptor. -/
def timesTarget (descriptor path : UInt64) (flags : Nat) : Kernel FileKey := do
  if path = 0 && !isCurrent descriptor then
    failIf (flags ≠ 0) .invalidArgument
    openedFile descriptor
  else
    failIf (flags &&& 0x1100 ≠ flags) .invalidArgument
    fileAt descriptor path flags

def setMicrosecondsFrom : Service := fun arguments => do
  let (accessed, modified) ← readMicroseconds arguments.third
  Kernel.setTimes (← timesTarget arguments.first arguments.second 0) accessed modified

def setTimes : Service := fun arguments => do
  let numbers ← if arguments.third = 0 then pure [0, 0x3fffffff, 0, 0x3fffffff]
    else readNumbers arguments.third 4
  let accessed := NewTime.of? (numbers.getD 0 0) (numbers.getD 1 0)
  let modified := NewTime.of? (numbers.getD 2 0) (numbers.getD 3 0)
  if accessed = some .kept && modified = some .kept then return 0
  let file ← timesTarget arguments.first arguments.second (low arguments.fourth)
  Kernel.setTimes file (← ofOption accessed .invalidArgument) (← ofOption modified .invalidArgument)

/-! ### Attributes -/

/-- Puts a value under a name of a file. -/
def setAttributeOf (arguments : Arguments) (file : Kernel FileKey) : Kernel UInt64 := do
  let flags := low arguments.fifth
  failIf (3 < flags) .invalidArgument
  let name ← attributeName arguments.second
  failIf (0x10000 < arguments.fourth) .listTooLong
  let value ← readMemory arguments.third arguments.fourth.toNat
  putAttribute (← file) name value.toList flags

def setAttribute : Service := fun arguments =>
  setAttributeOf arguments (fileAt currentDirectory arguments.first 0)

def setLinkAttribute : Service := fun arguments =>
  setAttributeOf arguments (fileAt currentDirectory arguments.first 0x100)

def setOpenedAttribute : Service := fun arguments =>
  setAttributeOf arguments (openedFile arguments.first)

/-- Tells the value under a name of a file. -/
def getAttributeOf (arguments : Arguments) (file : Kernel FileKey) : Kernel UInt64 := do
  let name ← attributeName arguments.second
  tellAttributeOf (← file) name arguments.third arguments.fourth

def tellAttribute : Service := fun arguments =>
  getAttributeOf arguments (fileAt currentDirectory arguments.first 0)

def tellLinkAttribute : Service := fun arguments =>
  getAttributeOf arguments (fileAt currentDirectory arguments.first 0x100)

def tellOpenedAttribute : Service := fun arguments =>
  getAttributeOf arguments (openedFile arguments.first)

def listAttributes : Service := fun arguments => do
  listAttributesOf (← fileAt currentDirectory arguments.first 0) arguments.second arguments.third

def listLinkAttributes : Service := fun arguments => do
  listAttributesOf (← fileAt currentDirectory arguments.first 0x100) arguments.second arguments.third

def listOpenedAttributes : Service := fun arguments => do
  listAttributesOf (← openedFile arguments.first) arguments.second arguments.third

def removeAttribute : Service := fun arguments => do
  let name ← attributeName arguments.second
  removeAttributeOf (← fileAt currentDirectory arguments.first 0) name

def removeLinkAttribute : Service := fun arguments => do
  let name ← attributeName arguments.second
  removeAttributeOf (← fileAt currentDirectory arguments.first 0x100) name

def removeOpenedAttribute : Service := fun arguments => do
  let name ← attributeName arguments.second
  removeAttributeOf (← openedFile arguments.first) name

/-- The file that flags, a path and a file descriptor ask for. A path may be left out if the flags say so:
then it is the file behind the descriptor or, if that counts, the working directory. -/
def attributeTarget (descriptor path : UInt64) (flags : Nat) (fromHere : Bool) : Kernel FileKey := do
  let isLeftOut ← if flags &&& 0x1000 = 0 then pure false
    else if path = 0 then pure true
    else pure ((← readNumber path 1) = 0)
  if !isLeftOut then fileAt descriptor path (flags &&& 0x100)
  else if fromHere && isCurrent descriptor then return .node (← place).directory
  else openedFile descriptor

/-- The place of a value, its length and the flags that go with it, as they stand in memory. -/
def readValueRequest (address size : UInt64) : Kernel (UInt64 × UInt64 × Nat) := do
  let bytes ← readSized address size.toNat 16 16
  return (littleEndian bytes 0 8, littleEndian bytes 8 4, (littleEndian bytes 12 4).toNat)

/-- Sees whether flags say how a path is followed. -/
def checkFollowing (flags : Nat) : Kernel Unit :=
  failIf (flags &&& 0x1100 ≠ flags) .invalidArgument

def setAttributeFrom : Service := fun arguments => do
  let (value, length, how) ← readValueRequest arguments.fifth arguments.sixth
  let flags := low arguments.third
  checkFollowing flags
  setAttributeOf { arguments with
      second := arguments.fourth, third := value, fourth := length, fifth := result how }
    (attributeTarget arguments.first arguments.second flags true)

def tellAttributeFrom : Service := fun arguments => do
  let (value, length, how) ← readValueRequest arguments.fifth arguments.sixth
  failIf (how ≠ 0) .invalidArgument
  let flags := low arguments.third
  checkFollowing flags
  getAttributeOf { arguments with second := arguments.fourth, third := value, fourth := length }
    (attributeTarget arguments.first arguments.second flags true)

def listAttributesFrom : Service := fun arguments => do
  let flags := low arguments.third
  checkFollowing flags
  listAttributesOf (← attributeTarget arguments.first arguments.second flags false)
    arguments.fourth arguments.fifth

def removeAttributeFrom : Service := fun arguments => do
  let flags := low arguments.third
  checkFollowing flags
  let name ← attributeName arguments.fourth
  removeAttributeOf (← attributeTarget arguments.first arguments.second flags false) name

end Service

end StaticElf.Linux
