/-
**What only an administrator may do.**

A process has no privileges here. Calls that need some are refused, once what they were given has been looked
at as far as that is done before the privileges are.

* `Service.mount`, `Service.unmount`, `Service.openTree`, … — file systems.
* `Service.setTimeOfDay`, `Service.setClock`, `Service.adjustTime` — the clocks of the machine.
* `Service.tellFileSystem`, `Service.tellNextPart`, … — what anybody may ask about the machine.
-/

import StaticElf.Linux.Service.Identity
import StaticElf.Linux.Service.Opening
import StaticElf.Linux.Service.Time

namespace StaticElf.Linux

namespace Service

open Kernel

/-! ### File systems -/

/-- A text that may be left out. -/
def readOptional (address : UInt64) : Kernel Unit := do
  if address != 0 then
    let _ ← readText address pageBytes .invalidArgument

def mount : Service := fun arguments => do
  readOptional arguments.third
  readOptional arguments.first
  if arguments.fifth != 0 then
    failIf ((← copyIn arguments.fifth.toNat 1).size = 0) .badAddress
  let _ ← findAt currentDirectory (← readPath arguments.second) true
  failIf (low arguments.fourth &&& 0x80000000 ≠ 0) .invalidArgument
  fail .notPermitted

def unmount : Service := fun arguments => do
  let flags := low arguments.second
  failIf (15 < flags) .invalidArgument
  let _ ← findAt currentDirectory (← readPath arguments.first) (flags &&& 8 = 0)
  fail .notPermitted

def openTree : Service := fun arguments => do
  let flags := low arguments.third
  failIf (flags &&& 0x89901 ≠ flags) .invalidArgument
  failIf (flags &&& 0x8001 = 0x8000) .invalidArgument
  failIf (flags &&& 1 ≠ 0) .notPermitted
  let path ← readName arguments.second
  failIf (path.isEmpty && flags &&& 0x1000 = 0) .noEntry
  let node ← if path.isEmpty && !isCurrent arguments.first then
      ofOption (← nodeOf arguments.first) .notDirectory
    else if path.isEmpty then pure (← place).directory
    else findAt arguments.first path (flags &&& 0x100 = 0)
  let description : Description := { opened := .node node, flags := OpenFlags.pathOnly }
  return result (← install description (flags &&& 0x80000 ≠ 0))

def openTreeWith : Service := fun arguments => do
  let flags := low arguments.third
  failIf (arguments.fourth = 0 && arguments.fifth != 0) .invalidArgument
  failIf (flags &&& 1 ≠ 0) .notPermitted
  if arguments.fourth != 0 then
    failIf (4096 < arguments.fifth) .listTooLong
    failIf (arguments.fifth < 32) .invalidArgument
    fail .notPermitted
  openTree arguments

def configureFileSystem : Service := fun arguments => do
  let key := arguments.third != 0
  let value := arguments.fourth != 0
  let extra := lowSigned arguments.fifth
  failIf (lowSigned arguments.first < 0) .invalidArgument
  let sound ← match low arguments.second with
    | 0 => pure (key && !value && extra = 0)
    | 1 => pure (key && value && extra = 0)
    | 2 => pure (key && value && 0 < extra && extra ≤ 0x100000)
    | 3 | 4 => pure (key && value && (extra = -100 || 0 ≤ extra))
    | 5 => pure (key && !value && 0 ≤ extra)
    | 6 | 7 | 8 => pure (!key && !value && extra = 0)
    | _ => fail .notSupported
  failIf (!sound) .invalidArgument
  let _ ← opened (low arguments.first)
  fail .invalidArgument

def changeMount : Service := fun arguments => do
  failIf (low arguments.third &&& 0x9900 ≠ low arguments.third) .invalidArgument
  failIf (4096 < arguments.fifth) .listTooLong
  failIf (arguments.fifth < 32) .invalidArgument
  fail .notPermitted

/-- The question about a mounted file system that stands in memory: its number. -/
def readMountQuestion (address : UInt64) : Kernel UInt64 := do
  let length := low (← readNumber address 4)
  let bytes ← readSized address length 24 32
  failIf (littleEndian bytes 4 4 != 0) .invalidArgument
  return littleEndian bytes 8 8

def tellMount : Service := fun arguments => do
  failIf (low arguments.fourth ≠ 0) .invalidArgument
  let number ← readMountQuestion arguments.first
  failIf (number ≤ 0x80000000) .invalidArgument
  fail .noEntry

def listMounts : Service := fun arguments => do
  failIf (1 < low arguments.fourth) .invalidArgument
  failIf (1000000 < arguments.third) .overflow
  failIf (addressLimit < arguments.second.toNat + 8 * arguments.third.toNat) .badAddress
  let number ← readMountQuestion arguments.first
  failIf (number ≤ 0x80000000) .invalidArgument
  if number = 0xffffffffffffffff then return 0
  fail .noEntry

def controlQuota : Service := fun arguments => do
  let command := low arguments.first
  failIf (2 < command % 256) .invalidArgument
  if arguments.second = 0 then
    failIf (command / 256 ≠ 0x800001) .unknownDevice
    return 0
  let _ ← findAt currentDirectory (← readPath arguments.second) true
  fail .notBlockDevice

def controlOpenedQuota : Service := fun arguments => do
  let command := low arguments.second
  let description ← description (← binding (low arguments.first)).description
  failIf (2 < command % 256) .invalidArgument
  match description.opened with
  | .node node =>
    failIf ((← files).deviceOfNode node ≠ FileSystem.root) .notImplemented
    fail .notPermitted
  | _ => fail .notImplemented

def useSwap : Service := fun arguments => do
  failIf (0x7ffff < low arguments.second) .invalidArgument
  fail .notPermitted

/-! ### Clocks -/

/-- The last time that a clock can be set to, in seconds. -/
def lastSecond : UInt64 := 8277292036

/-- Sees whether a clock could be set to a time in seconds and nanoseconds. -/
def checkSettable (seconds nanoseconds : UInt64) : Kernel Unit := do
  failIf (isNegative seconds || lastSecond ≤ seconds || 1000000000 ≤ nanoseconds) .invalidArgument
  fail .notPermitted

def setTimeOfDay : Service := fun arguments => do
  let numbers ← if arguments.first = 0 then pure [0, 0] else readNumbers arguments.first 2
  let microseconds := numbers.getD 1 0
  failIf (1000000 < microseconds) .invalidArgument
  if arguments.second != 0 then
    let _ ← readMemory arguments.second 8
  checkSettable (numbers.getD 0 0) (microseconds * 1000)
  return 0

def setClock : Service := fun arguments => do
  let clock := low arguments.first
  failIf (clock ≠ 0 && clock < 0x80000000) .invalidArgument
  let numbers ← readNumbers arguments.second 2
  failIf (clock ≠ 0) .invalidArgument
  checkSettable (numbers.getD 0 0) (numbers.getD 1 0)
  return 0

/-- What is told about the way in which the clock of the machine goes: it is not set by another one. -/
def clockState : Kernel ByteArray := do
  let now ← clockValue 0
  return padded (packNumbers [0, 0, 0, 16000000, 16000000, 64, 2, 1, 32768000,
    result (now / 1000000000), result (now % 1000000000 / 1000), 10000]) 208

/-- The result for a clock that is not set by another one. -/
def unsynchronized : UInt64 := 5

/-- Sees whether the way in which the clock of the machine goes is only asked for. -/
def checkAdjustment (modes : Nat) : Kernel Unit := do
  if modes &&& 0x8000 ≠ 0 then
    failIf (modes &&& 1 = 0) .invalidArgument
    failIf (modes &&& 0x2000 = 0) .notPermitted
  else failIf (modes ≠ 0) .notPermitted

def adjustTime : Service := fun arguments => do
  let given ← readMemory arguments.first 208
  match ← attempt (checkAdjustment (low (littleEndian given 0 8))) with
  | .ok () =>
    writeMemory arguments.first (← clockState)
    return unsynchronized
  | .error errno =>
    writeMemory arguments.first given
    fail errno

def adjustClock : Service := fun arguments => do
  let clock := low arguments.first
  let given ← readMemory arguments.second 208
  failIf (!isClock clock) .invalidArgument
  failIf (clock ≠ 0) .notSupported
  checkAdjustment (low (littleEndian given 0 8))
  writeMemory arguments.second (← clockState)
  return unsynchronized

/-! ### The machine -/

/-- What anybody may ask about the file systems that the kernel knows. -/
def tellFileSystem : Service := fun arguments => do
  match low arguments.first with
  | 1 =>
    let _ ← readPath arguments.second
    fail .invalidArgument
  | 2 =>
    failIf (31 ≤ low arguments.second) .invalidArgument
    writeMemory arguments.third ("sysfs".toUTF8.push 0)
    return 0
  | 3 => return 31
  | _ => fail .invalidArgument

/-- Watches what happens to files. Without privileges the files are told by handles only. -/
def makeFileWatch : Service := fun arguments => do
  let flags := low arguments.first
  let event := low arguments.second
  failIf (flags &&& 0x21bc ≠ 0 || flags &&& 0x1e00 = 0) .notPermitted
  failIf (0x7fff < flags || event &&& 0x3 = 3 || event &&& 0x1d9c03 ≠ event) .invalidArgument
  failIf (flags &&& 0x800 ≠ 0 && flags &&& 0x400 = 0) .invalidArgument
  failIf (flags &&& 0x1000 ≠ 0 && flags &&& 0xe00 ≠ 0xe00) .invalidArgument
  return result (← install { opened := .other, flags := OpenFlags.readWrite ||| (flags &&& 2) * 1024 }
    (flags &&& 1 ≠ 0))

/-- The things about files that can be watched. -/
def watchedFileEvents : Nat := 0x5b17dfff

def markFileWatch : Service := fun arguments => do
  let flags := low arguments.second
  let events := arguments.third.toNat
  let action := flags &&& 0x83
  failIf (0xffffffff < events || flags &&& 0x7ff ≠ flags) .invalidArgument
  failIf (!([1, 2, 0x80].contains action)) .invalidArgument
  failIf (action ≠ 0x80 && events = 0) .invalidArgument
  failIf (events &&& watchedFileEvents ≠ events) .invalidArgument
  let _ ← opened (low arguments.first)
  fail .invalidArgument

/-- Goes over to other names for the things of the machine. -/
def changeNames : Service := fun arguments => do
  let (_, description) ← opened (low arguments.first)
  let flags := low arguments.second
  match description.opened with
  | .process _ _ =>
    failIf (flags = 0 || flags &&& 0x7e020080 ≠ flags) .invalidArgument
    fail .notPermitted
  | _ => fail .invalidArgument

/-- Counts what happens in the machine. What happens in the kernel is kept from a process. -/
def makeMeter : Service := fun arguments => do
  failIf (15 < arguments.fifth) .invalidArgument
  let length := low (← readNumber (arguments.first + 4) 4)
  let length := if length = 0 then 64 else length
  if length < 64 || pageBytes < length then
    writeNumber (arguments.first + 4) 4 136
    fail .listTooLong
  let bytes ← readSized arguments.first length 64 136
  failIf (littleEndian bytes 40 8 &&& 0x20 = 0) .permissionDenied
  let kind := low (littleEndian bytes 0 4)
  failIf (kind ≠ 1 || 11 < littleEndian bytes 8 8) .noEntry
  return result (← install { opened := .other, flags := OpenFlags.readWrite }
    (hasBits arguments.fifth 8))

/-- Lets a process deal with its own page faults. Those of the kernel are kept from it. -/
def makeFaultHandler : Service := fun arguments => do
  let flags := low arguments.first
  failIf (flags &&& 1 = 0) .notPermitted
  failIf (flags &&& 0x80801 ≠ flags) .invalidArgument
  return result (← install
    { opened := .other, flags := OpenFlags.readWrite ||| (flags &&& OpenFlags.nonBlocking) }
    (flags &&& OpenFlags.closeOnExec ≠ 0))

/-- Programs that the kernel runs. None can be loaded without privileges. -/
def controlProgram : Service := fun arguments => do
  let command := low arguments.first
  let length := low arguments.third
  failIf (pageBytes < length) .listTooLong
  let known := 168
  let rest ← readMemory (arguments.second + UInt64.ofNat known) (length - known)
  failIf (rest.toList.any (· != 0)) .listTooLong
  let bytes := padded (← readMemory arguments.second (min length known)) known
  let descriptor := low (littleEndian bytes 0 4)
  match command with
  | 0 => fail (if littleEndian bytes 0 4 = 0 then .invalidArgument else .notPermitted)
  | 1 | 2 | 3 | 4 | 10 =>
    let _ ← opened descriptor
    fail .invalidArgument
  | 5 | 11 | 12 | 13 | 14 => fail .notPermitted
  | _ => fail .invalidArgument

end Service

end StaticElf.Linux
