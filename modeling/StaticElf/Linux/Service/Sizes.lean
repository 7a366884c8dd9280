/-
**Positions and sizes of files.**

* `Kernel.movedPlace` — where a distance from some place leads to.
* `Service.seek`, `Service.resize`, `Service.allocateSpace` — the system calls that move and resize.
* `Service.flush`, `Service.flushRange`, … — what only has to be possible.
-/

import StaticElf.Linux.Service.Attributes
import StaticElf.Linux.Service.Descriptors

namespace StaticElf.Linux

namespace Kernel

/-- The place that a distance from some place leads to, if that is not behind the largest one. -/
def movedPlace (start : Nat) (distance : Int) (largest : Nat) : Kernel Nat := do
  let place := (start : Int) + distance
  failIf (place < 0 || (largest : Int) < place) .invalidArgument
  return place.toNat

/-- The place in a content that a call asks for. -/
def soughtPlace (description : Description) (content : Content) (distance : Int) (whence : Nat) :
    Kernel Nat := do
  let largest := largestFile description
  match whence with
  | 0 => movedPlace 0 distance largest
  | 1 =>
    if distance = 0 then return description.position
    movedPlace description.position distance largest
  | 2 => movedPlace content.size distance largest
  | _ =>
    failIf (distance < 0 || (content.size : Int) ≤ distance) .noDevice
    let found := (content.nextPlace? distance.toNat (whence = 3)).getD content.size
    failIf (whence = 3 && content.size ≤ found) .noDevice
    return min found content.size

/-- The place in a directory that a call asks for. -/
def soughtName (description : Description) (distance : Int) (whence : Nat) : Kernel Nat := do
  match whence with
  | 0 => movedPlace 0 distance largestPlace
  | 1 => movedPlace description.position distance largestPlace
  | 2 => movedPlace largestPlace distance largestPlace
  | _ =>
    failIf (distance < 0 || (largestPlace : Int) ≤ distance) .noDevice
    return if whence = 3 then distance.toNat else largestPlace

/-- Gives the content of an open file, or of a node, another size. -/
def resizeContent (description : Description) (content seals size : Nat) : Kernel Unit := do
  let old := (← Kernel.content content).size
  if old < size then
    if (← process).limit .fileSize < size then
      signalSelf { signal := Signal.fileSize }
      fail .fileTooBig
    failIf (largestFile description < size) .fileTooBig
    failIf (seals &&& 4 ≠ 0) .notPermitted
  failIf (size < old && seals &&& 2 ≠ 0) .notPermitted
  modifyContent content (·.resize size)
  noteChange description

/-- The size that is asked for. -/
def givenSize (size : UInt64) : Kernel Nat := do
  failIf (isNegative size) .invalidArgument
  return size.toNat

/-! ### Allocating -/

/-- What is to be done with a range of a file. -/
inductive Allocation where
  | reserve
  | unshare
  | zero
  | punch
  | collapse
  | insert
  | writeZeros
  deriving DecidableEq, Repr

/-- What the bits of a call ask for. Not all can be done with a size that is kept. -/
def Allocation.of? (mode : Nat) : Option Allocation :=
  let keeps := mode &&& 1 ≠ 0
  if 0xff < mode then none
  else match mode - mode % 2 with
    | 0 => some .reserve
    | 2 => if keeps then some .punch else none
    | 8 => if keeps then none else some .collapse
    | 0x10 => some .zero
    | 0x20 => if keeps then none else some .insert
    | 0x40 => some .unshare
    | 0x80 => if keeps then none else some .writeZeros
    | _ => none

/-- The most bytes for which there is room on the device. -/
def mostRoom : Nat := 0x1000000000

/-- Does something with a range of a file on a device. -/
def allocateOnDevice (description : Description) (content : Nat) (allocation : Allocation)
    (keeps : Bool) (start length : Nat) : Kernel Unit := do
  let size := (← Kernel.content content).size
  let aligned := start % pageBytes = 0 && length % pageBytes = 0
  match allocation with
  | .unshare | .writeZeros => fail .notSupported
  | .punch => modifyContent content (·.clear start length)
  | .collapse =>
    failIf (!aligned || size ≤ start + length) .invalidArgument
    modifyContent content (·.collapse start length)
  | .insert =>
    failIf (!aligned) .invalidArgument
    failIf (largestFile description < size + length) .fileTooBig
    failIf (size ≤ start) .invalidArgument
    modifyContent content (·.insertZeros start length)
  | .zero | .reserve =>
    failIf (mostRoom < length) .noSpace
    if !keeps && size < start + length then resizeContent description content 0 (start + length)
    if allocation = .zero then modifyContent content (·.clear start length)
  noteChange description

/-- Does something with a range of a file in memory. -/
def allocateInMemory (description : Description) (content seals : Nat) (allocation : Allocation)
    (keeps : Bool) (start length : Nat) : Kernel Unit := do
  match allocation with
  | .punch =>
    failIf (seals &&& 0x18 ≠ 0) .notPermitted
    modifyContent content (·.clear start length)
  | .reserve =>
    let size := (← Kernel.content content).size
    if (← process).limit .fileSize < start + length && size < start + length then
      signalSelf { signal := Signal.fileSize }
      fail .fileTooBig
    failIf (seals &&& 4 ≠ 0 && size < start + length) .notPermitted
    failIf (mostRoom < length) .noSpace
    if !keeps && size < start + length then
      resizeContent description content seals (start + length)
  | _ => fail .notSupported

/-! ### What is open -/

/-- The kind of the file behind an open file, as it is told. -/
def kindOf (description : Description) : Kernel Nat := do
  return (← modeOf (← fileKey description)) &&& 0o170000

end Kernel

namespace Service

open Kernel

/-! ### Positions and sizes -/

def seek : Service := fun arguments => do
  let (number, description) ← opened (low arguments.first)
  let distance := arguments.second.toInt64.toInt
  let whence := low arguments.third
  failIf (4 < whence) .invalidArgument
  let place ← match description.opened with
    | .pipe .. | .socket _ => fail .noPosition
    | .memory content _ => do soughtPlace description (← Kernel.content content) distance whence
    | .node node =>
      match (← files).kind? node with
      | some (.file (.regular content)) => do
        soughtPlace description (← Kernel.content content) distance whence
      | some (.directory ..) => soughtName description distance whence
      | _ => pure 0
    | _ => pure 0
  modifyDescription number ({ · with position := place })
  return result place

def resize : Service := fun arguments => do
  let size ← givenSize arguments.second
  let (_, description) ← opened (low arguments.first)
  let (content, seals) ← ofOption (← contentOf description) .invalidArgument
  failIf (!description.writable) .invalidArgument
  resizeContent description content seals size
  return 0

def resizePath : Service := fun arguments => do
  let size ← givenSize arguments.second
  let node ← findAt currentDirectory (← readPath arguments.first) true
  match (← files).kind? node with
  | some (.directory ..) => fail .isDirectory
  | some (.file (.regular content)) =>
    failIf (!(← files).permits node FileMode.ownerWrite) .permissionDenied
    failIf (← isRunning node) .textBusy
    resizeContent { opened := .node node } content 0 size
    return 0
  | _ => fail .invalidArgument

def allocateSpace : Service := fun arguments => do
  let mode := low arguments.second
  let (_, description) ← opened (low arguments.first)
  failIf (isNegative arguments.third || isNegative arguments.fourth || arguments.fourth = 0)
    .invalidArgument
  let allocation ← ofOption (Allocation.of? mode) .notSupported
  failIf (!description.writable) .badDescriptor
  let kind ← kindOf description
  failIf (kind = 0o010000) .noPosition
  failIf (kind = 0o040000) .isDirectory
  let (content, seals) ← ofOption (← contentOf description) .unknownDevice
  let start := arguments.third.toNat
  let length := arguments.fourth.toNat
  failIf (largestFile description < start + length) .fileTooBig
  let keeps := mode &&& 1 ≠ 0
  match description.opened with
  | .memory .. => allocateInMemory description content seals allocation keeps start length
  | _ => allocateOnDevice description content allocation keeps start length
  return 0

/-! ### What only has to be possible -/

/-- Waits until a file is on its device. -/
def flush : Service := fun arguments => do
  let (_, description) ← opened (low arguments.first)
  match description.opened with
  | .node node =>
    match (← files).kind? node with
    | some (.directory ..) | some (.file (.regular _)) => return 0
    | _ => fail .invalidArgument
  | .memory .. => return 0
  | _ => fail .invalidArgument

/-- Waits until a device has everything. -/
def flushDevice : Service := fun arguments => do
  let _ ← opened (low arguments.first)
  return 0

/-- Waits until a range of a file is on its device. -/
def flushRange : Service := fun arguments => do
  let (_, description) ← opened (low arguments.first)
  failIf (7 < low arguments.fourth) .invalidArgument
  failIf (isNegative arguments.second || largestPlace < arguments.second.toNat + arguments.third.toNat)
    .invalidArgument
  let kind ← kindOf description
  failIf (!([0o100000, 0o040000].contains kind)) .noPosition
  return 0

/-- Says how a range of a file will be used. -/
def adviseRange : Service := fun arguments => do
  let (_, description) ← opened (low arguments.first)
  failIf ((← kindOf description) = 0o010000) .noPosition
  failIf (isNegative arguments.third || 5 < low arguments.fourth) .invalidArgument
  return 0

/-- Says that a range of a file will be read. -/
def readAhead : Service := fun arguments => do
  let (_, description) ← opened (low arguments.first)
  failIf (!description.readable) .badDescriptor
  failIf ((← kindOf description) ≠ 0o100000 || isNegative arguments.third) .invalidArgument
  return 0

end Service

end StaticElf.Linux
