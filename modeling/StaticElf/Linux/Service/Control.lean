/-
**What a process says about itself.**

* `Service.controlThread` — names, signals and rights of a thread.
* `Service.controlProcessor` — the registers that only the kernel sets.
* `Service.confine` — which system calls a thread can make.
* `Service.tellLimit`, `Service.setLimit` — limits.
-/

import StaticElf.Linux.Filter
import StaticElf.Linux.Peer

namespace StaticElf.Linux

namespace Kernel

/-! ### Confinement -/

/-- Confines a thread strictly. -/
def confineStrictly : Kernel Unit := do
  failIf (!(← thread).confinement.filters.isEmpty) .invalidArgument
  modifyThread fun thread => { thread with confinement := { thread.confinement with strict := true } }

/-- The filter that stands in memory. -/
def readFilter (address : UInt64) : Kernel (List FilterStep) := do
  let header ← readMemory address 16
  let count := (littleEndian header 0 2).toNat
  failIf (count = 0 || 4096 < count) .invalidArgument
  let bytes ← readMemory (littleEndian header 8 8) (8 * count)
  let field (index offset width : Nat) : Nat := (littleEndian bytes (8 * index + offset) width).toNat
  return (List.range count).map fun index =>
    { code := field index 0 2, whenTrue := field index 2 1, whenFalse := field index 3 1,
      operand := field index 4 4 }

/-- Puts the calls of a thread through one more filter. -/
def confineBy (address : UInt64) : Kernel Unit := do
  let filter ← readFilter address
  let thread ← thread
  failIf (!thread.unprivileged) .permissionDenied
  failIf (!Filter.isSound filter) .invalidArgument
  failIf thread.confinement.strict .invalidArgument
  modifyThread fun thread => { thread with
    confinement := { thread.confinement with filters := filter :: thread.confinement.filters } }

/-- What the threads of the running process have in common from now on. -/
def confineAll : Kernel Unit := do
  let own ← thread
  modify fun world => (world.threadsOf own.process).foldl
    (fun world index => world.modifyThread index fun thread => { thread with
      confinement := own.confinement, unprivileged := own.unprivileged }) world

/-! ### Limits -/

def limitAt (resource : Nat) : Kernel Limit := do
  ofOption (← process).limits[resource]? .invalidArgument

/-- The limit that stands in memory. -/
def readLimit (address : UInt64) : Kernel Limit := do
  let numbers ← readNumbers address 2
  return ⟨(numbers.getD 0 0).toNat, (numbers.getD 1 0).toNat⟩

def writeLimit (address : UInt64) (limit : Limit) : Kernel Unit :=
  writeNumbers address [result limit.now, result limit.most]

/-- The most files that a process can be allowed to have open. -/
def mostOpenFiles : Nat := 1048576

/-- Sees whether a limit may be put in the place of another one. -/
def checkLimit (resource : Nat) (old limit : Limit) : Kernel Unit := do
  failIf (limit.most < limit.now) .invalidArgument
  failIf (resource = Resource.openFiles.index && mostOpenFiles < limit.most) .notPermitted
  failIf (old.most < limit.most) .notPermitted

def changeLimit (resource : Nat) (limit : Limit) : Kernel Unit := do
  checkLimit resource (← limitAt resource) limit
  modifyProcess fun process => { process with
    limits := process.limits.setIfInBounds resource limit }

end Kernel

namespace Service

open Kernel

/-- The most bytes of the name of a thread. -/
def mostName : Nat := 15

/-- The name that stands in memory: no more of it is looked at than is kept. -/
def readThreadName (address : UInt64) : Kernel Bytes := do
  let bytes := (← copyIn address.toNat mostName).toList
  let name := bytes.takeWhile (· != 0)
  failIf (name.length = bytes.length && bytes.length < mostName) .badAddress
  return name

/-- Whether all arguments behind the first so many are zero. -/
def restIsZero (arguments : Arguments) (given : Nat) : Bool :=
  ([arguments.second, arguments.third, arguments.fourth, arguments.fifth].drop given).all (· == 0)

/-- Turns calls into signals from now on, or no longer. -/
def intercept (arguments : Arguments) : Kernel UInt64 := do
  match low arguments.second with
  | 0 =>
    failIf (!restIsZero arguments 1) .invalidArgument
    modifyThread ({ · with interception := none })
    return 0
  | 1 =>
    let start := arguments.third
    let length := arguments.fourth
    failIf (start != 0 && start + length ≤ start) .invalidArgument
    failIf (addressLimit ≤ arguments.fifth.toNat) .badAddress
    modifyThread ({ · with
      interception := some { start, length, selector := arguments.fifth } })
    return 0
  | _ => fail .invalidArgument

/-- What was said about memory that is written and run, as it is told. -/
def fixedAccess : Kernel Nat := do
  let space ← space
  return (if space.writeOrRun then 1 else 0) + if space.writeOrRunHere then 2 else 0

/-- Says that memory never becomes executable, and may not be both writable and executable. -/
def fixAccess (arguments : Arguments) : Kernel UInt64 := do
  failIf (!restIsZero arguments 1) .invalidArgument
  let wanted := low arguments.second
  failIf (3 < wanted || wanted = 2) .invalidArgument
  let old ← fixedAccess
  failIf (old ≠ 0 && old ≠ wanted) .notPermitted
  modifySpace ({ · with writeOrRun := wanted ≠ 0, writeOrRunHere := wanted = 3 })
  return 0

/-- Says what becomes of a process whose memory fails. -/
def setErrorHandling (arguments : Arguments) : Kernel UInt64 := do
  failIf (!restIsZero arguments 2) .invalidArgument
  let chosen ← match arguments.second, arguments.third with
    | 0, 0 => pure 2
    | 1, 0 => pure 0
    | 1, 1 => pure 1
    | 1, 2 => pure 2
    | _, _ => fail .invalidArgument
  modifyProcess ({ · with errorHandling := chosen })
  return 0

/-- Says that no large pages are used for the memory of a process, or none that were not asked for. -/
def refuseLargePages (arguments : Arguments) : Kernel UInt64 := do
  failIf (!restIsZero arguments 2) .invalidArgument
  let flags := arguments.third
  failIf (flags != 0 && (flags != 2 || arguments.second = 0)) .invalidArgument
  let chosen := if arguments.second = 0 then 0 else if flags = 0 then 1 else 3
  modifySpace ({ · with largePages := chosen })
  return 0

/-- The rights that are kept when another file is run. There are none. -/
def controlKept (arguments : Arguments) : Kernel UInt64 := do
  let right := arguments.third
  failIf (!restIsZero arguments 2) .invalidArgument
  match arguments.second with
  | 4 =>
    failIf (right != 0) .invalidArgument
    return 0
  | 1 | 3 =>
    failIf (40 < right) .invalidArgument
    return 0
  | 2 =>
    failIf (40 < right) .invalidArgument
    fail .notPermitted
  | _ => fail .invalidArgument

/-- What a thread lets its processor do ahead of time. -/
def tellSpeculation (arguments : Arguments) : Kernel UInt64 := do
  failIf (!restIsZero arguments 1) .invalidArgument
  let (stores, branches) := (← thread).speculation
  match arguments.second with
  | 0 => return result (1 + stores)
  | 1 => return result (1 + branches)
  | 2 => return 8
  | _ => fail .unknownDevice

/-- Says what a thread lets its processor do ahead of time. What was forbidden for good stays so. -/
def setSpeculation (arguments : Arguments) : Kernel UInt64 := do
  failIf (!restIsZero arguments 2) .invalidArgument
  let (stores, branches) := (← thread).speculation
  let wanted := arguments.third.toNat
  match arguments.second with
  | 0 =>
    failIf (!([2, 4, 8, 16].contains wanted)) .outOfRange
    failIf (stores = 8 && (wanted = 2 || wanted = 16)) .notPermitted
    modifyThread ({ · with speculation := (if stores = 8 then 8 else wanted, branches) })
    return 0
  | 1 =>
    failIf (!([2, 4, 8].contains wanted)) .outOfRange
    failIf (branches = 8 && wanted = 2) .notPermitted
    modifyThread ({ · with speculation := (stores, if branches = 8 then 8 else wanted) })
    return 0
  | 2 => fail .notPermitted
  | _ => fail .unknownDevice

/-- Whether a process chooses the numbers of the clocks that it makes. -/
def chooseTimerNumbers (arguments : Arguments) : Kernel UInt64 := do
  failIf (!restIsZero arguments 1) .invalidArgument
  match arguments.second with
  | 0 | 1 =>
    modifyProcess ({ · with choosesNumbers := arguments.second = 1 })
    return 0
  | 2 => return if (← process).choosesNumbers then 1 else 0
  | _ => fail .invalidArgument

/-- How many queues the threads of a space wait in that wait at places of memory. -/
def controlQueues (arguments : Arguments) : Kernel UInt64 := do
  match arguments.second with
  | 1 =>
    failIf (arguments.fourth != 0) .invalidArgument
    let wanted := low arguments.third
    failIf (wanted = 1 || wanted &&& (wanted - 1) ≠ 0) .invalidArgument
    modifySpace ({ · with queues := wanted })
    return 0
  | 2 => return result (← space).queues
  | _ => fail .invalidArgument

/-- The bytes of what a program is told about the machine. -/
def auxiliaryBytes : Nat := 448

def controlThread : Service := fun arguments => do
  let value := arguments.second
  match low arguments.first with
  | 1 =>
    failIf (64 < value) .invalidArgument
    modifyThread ({ · with parentSignal := value.toNat })
    return 0
  | 2 =>
    writeNumber value 4 (result (← thread).parentSignal)
    return 0
  | 3 => return result (← process).dumpable
  | 4 =>
    failIf (1 < value) .invalidArgument
    modifyProcess ({ · with dumpable := value.toNat })
    return 0
  | 7 | 13 | 27 | 31 | 32 => return 0
  | 8 =>
    failIf (1 < value) .invalidArgument
    return 0
  | 14 =>
    failIf (value != 0) .invalidArgument
    return 0
  | 15 =>
    let name ← readThreadName value
    modifyThread ({ · with name })
    return 0
  | 16 =>
    writeMemory value (padded ⟨(← thread).name.toArray⟩ 16)
    return 0
  | 21 => return if (← thread).confinement.filters.isEmpty then 0 else 2
  | 22 =>
    match low value with
    | 1 => confineStrictly
    | 2 => confineBy arguments.third
    | _ => fail .invalidArgument
    return 0
  | 23 =>
    failIf (40 < value) .invalidArgument
    return 0
  | 24 | 28 | 57 | 58 => fail .notPermitted
  | 25 =>
    writeNumber value 4 (if (← thread).clockRefused then 2 else 1)
    return 0
  | 26 =>
    failIf (value != 1 && value != 2) .invalidArgument
    modifyThread ({ · with clockRefused := value = 2 })
    return 0
  | 29 =>
    modifyThread ({ · with slack := if value = 0 || isNegative value then 50000 else value.toNat })
    return 0
  | 30 => return result (← thread).slack
  | 33 => setErrorHandling arguments
  | 34 =>
    failIf (!restIsZero arguments 0) .invalidArgument
    return result (← process).errorHandling
  | 36 =>
    modifyProcess ({ · with adopts := value != 0 })
    return 0
  | 37 =>
    writeNumber value 4 (if (← process).adopts then 1 else 0)
    return 0
  | 38 =>
    failIf (value != 1 || !restIsZero arguments 1) .invalidArgument
    modifyThread ({ · with unprivileged := true })
    return 0
  | 39 =>
    failIf (!restIsZero arguments 0) .invalidArgument
    return if (← thread).unprivileged then 1 else 0
  | 40 =>
    writeNumber value 8 (← thread).clearedAtEnd
    return 0
  | 41 => refuseLargePages arguments
  | 42 =>
    failIf (!restIsZero arguments 0) .invalidArgument
    return result (← space).largePages
  | 47 => controlKept arguments
  | 52 => tellSpeculation arguments
  | 53 => setSpeculation arguments
  | 59 => intercept arguments
  | 65 => fixAccess arguments
  | 66 =>
    failIf (!restIsZero arguments 0) .invalidArgument
    return result (← fixedAccess)
  | 67 =>
    failIf (!restIsZero arguments 1) .invalidArgument
    modifySpace ({ · with merging := value != 0 })
    return 0
  | 68 =>
    failIf (!restIsZero arguments 0) .invalidArgument
    return if (← space).merging then 1 else 0
  | 77 => chooseTimerNumbers arguments
  | 78 => controlQueues arguments
  | 0x41555856 =>
    failIf (!restIsZero arguments 2) .invalidArgument
    let known := padded (← space).auxiliary auxiliaryBytes
    writeMemory value (known.extract 0 (min arguments.third.toNat auxiliaryBytes))
    return result auxiliaryBytes
  | _ => fail .invalidArgument

def controlProcessor : Service := fun arguments => do
  let value := arguments.second
  match low arguments.first with
  | 0x1001 =>
    failIf (addressLimit ≤ value.toNat) .notPermitted
    modifyCpu ({ · with gsBase := value })
    return 0
  | 0x1002 =>
    failIf (addressLimit ≤ value.toNat) .notPermitted
    modifyCpu ({ · with fsBase := value })
    return 0
  | 0x1003 =>
    writeNumber value 8 (← get).cpu.fsBase
    return 0
  | 0x1004 =>
    writeNumber value 8 (← get).cpu.gsBase
    return 0
  | 0x1011 => return if (← thread).featuresRefused then 0 else 1
  | 0x1012 =>
    modifyThread ({ · with featuresRefused := value = 0 })
    return 0
  | 0x1021 =>
    writeNumber value 8 0x602e7
    return 0
  | 0x1022 | 0x1024 =>
    writeNumber value 8 0x202e7
    return 0
  | 0x1023 | 0x1025 =>
    failIf (63 < value) .invalidArgument
    failIf (value != 18) .notSupported
    return 0
  | _ => fail .invalidArgument

def confine : Service := fun arguments => do
  let flags := low arguments.second
  match low arguments.first with
  | 0 =>
    failIf (flags ≠ 0 || arguments.third != 0) .invalidArgument
    confineStrictly
    return 0
  | 1 =>
    failIf (0x3f < flags) .invalidArgument
    confineBy arguments.third
    if flags &&& 1 ≠ 0 then confineAll
    return 0
  | 2 =>
    failIf (flags ≠ 0) .invalidArgument
    let action := low (← readNumber arguments.third 4)
    failIf (!([0x80000000, 0, 0x30000, 0x50000, 0x7fc00000, 0x7ff00000, 0x7ffc0000,
      0x7fff0000].contains action)) .notSupported
    return 0
  | 3 =>
    failIf (flags ≠ 0) .invalidArgument
    writeMemory arguments.third (wordBytes 2 80 ++ wordBytes 2 24 ++ wordBytes 2 64)
    return 0
  | _ => fail .invalidArgument

/-! ### Limits -/

def tellLimit : Service := fun arguments => do
  writeLimit arguments.second (← limitAt (low arguments.first))
  return 0

def setLimit : Service := fun arguments => do
  let limit ← readLimit arguments.second
  changeLimit (low arguments.first) limit
  return 0

def exchangeLimit : Service := fun arguments => do
  let resource := low arguments.second
  let fresh ← if arguments.third = 0 then pure none else some <$> readLimit arguments.third
  let peer ← peerNumbered (lowSigned arguments.first)
  let owner ← match peer with
    | .outside => pure none
    | .inside index => pure (some ((← get).threads.getD index {}).process)
  let limits ← match owner with
    | none => pure usualLimits
    | some owner => pure ((← get).processes.getD owner {}).limits
  let old ← ofOption limits[resource]? .invalidArgument
  match fresh with
  | none => pure ()
  | some limit =>
    checkLimit resource old limit
    match owner with
    | none => pure ()
    | some owner => modifyProcessAt owner fun process => { process with
        limits := process.limits.setIfInBounds resource limit }
  if arguments.fourth != 0 then writeLimit arguments.fourth old
  return 0

/-! ### Ways in which the kernel deals with a process -/

def setPersona : Service := fun arguments => do
  let old := (← process).persona
  if low arguments.first ≠ 0xffffffff then
    modifyProcess ({ · with persona := low arguments.first })
  return result old

end Service

end StaticElf.Linux
