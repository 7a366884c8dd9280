/-
**Messages as system calls.**

* `MessageHeader` — a message as it is described in memory, with what goes beside its bytes.
* `Service.send`, `Service.sendDescribed`, `Service.sendListed` — sending.
* `Service.receive`, `Service.receiveDescribed`, `Service.receiveListed` — receiving.
-/

import StaticElf.Linux.Service.Sockets
import StaticElf.Linux.Service.Time

namespace StaticElf.Linux

namespace MessageFlags

def urgent : Nat := 1
def peek : Nat := 2
def shortened : Nat := 8
def whole : Nat := 0x20
def doesNotWait : Nat := 0x40
def waitsForAll : Nat := 0x100
def fromErrors : Nat := 0x2000
def noSignal : Nat := 0x4000
def more : Nat := 0x8000
def forOne : Nat := 0x10000
def closeOnExec : Nat := 0x40000000
def refused : Nat := 0x80000000

end MessageFlags

namespace Kernel

open MessageFlags

/-! ### What goes beside the bytes -/

/-- A part of what goes beside the bytes of a message. -/
structure ControlPart where
  level : Nat
  type : Nat
  bytes : ByteArray

/-- The parts of what goes beside the bytes of a message. They are counted. -/
def controlParts (bytes : ByteArray) (place : Nat) : (parts : Nat) → Kernel (List ControlPart)
  | 0 => return []
  | parts + 1 => do
    if bytes.size < place + 16 then return []
    let length := (littleEndian bytes place 8).toNat
    failIf (length < 16 || bytes.size < place + length) .invalidArgument
    let part : ControlPart := {
      level := (littleEndian bytes (place + 8) 4).toNat
      type := (littleEndian bytes (place + 12) 4).toNat
      bytes := bytes.extract (place + 16) (place + length) }
    return part :: (← controlParts bytes (place + (length + 7) / 8 * 8) parts)

/-- The most open files that go with a message. -/
def mostFiles : Nat := 253

/-- The open files that go with a message of one machine. A process can only say that it is itself. -/
def filesIn (parts : List ControlPart) : Kernel (List Nat) := do
  let own := (← process).number
  let found ← parts.mapM fun part => do
    if part.level ≠ Setting.commonLevel then return []
    match part.type with
    | 1 =>
      let count := part.bytes.size / 4
      failIf (mostFiles < count) .invalidArgument
      (List.range count).mapM fun index => do
        let descriptor := low (littleEndian part.bytes (4 * index) 4)
        return (← binding descriptor).description
    | 2 =>
      failIf (part.bytes.size ≠ 12) .invalidArgument
      let number (index : Nat) : Nat := (littleEndian part.bytes (4 * index) 4).toNat
      failIf (number 0 ≠ own || number 1 ≠ userNumber || number 2 ≠ userNumber) .notPermitted
      return []
    | _ => fail .invalidArgument
  return found.flatten

/-- Sees whether what goes beside the bytes of a message between hosts makes sense. -/
def checkControl (socket : Socket) (parts : List ControlPart) : Kernel Unit :=
  parts.forM fun part => do
    if part.level = Setting.commonLevel then
      failIf (part.type ≠ 1 && part.type ≠ 2) .invalidArgument
      failIf (part.type = 1 && socket.family = .kernel) .invalidArgument
    else if part.level = Setting.shortHostLevel && socket.kind = .datagram then
      failIf (!([1, 2, 7, 8].contains part.type)) .invalidArgument

/-! ### Headers -/

/-- A message as it is described in memory. -/
structure MessageHeader where
  name : UInt64
  nameLength : Nat
  spans : List Span
  control : UInt64
  controlLength : Nat

/-- The length of the description of a message. -/
def headerBytes : Nat := 56

def readHeader (address : UInt64) : Kernel MessageHeader := do
  let numbers ← readNumbers address 7
  let field (index : Nat) : UInt64 := numbers.getD index 0
  let nameLength := lowSigned (field 1)
  let isNamed := field 0 != 0
  failIf (isNamed && nameLength < 0) .invalidArgument
  failIf (1024 < field 3) .messageTooLong
  return {
    name := field 0
    nameLength := if isNamed then min nameLength.toNat 128 else 0
    spans := ← listedSpans (field 2) (field 3)
    control := field 4
    controlLength := (field 5).toNat }

/-- The most bytes that go beside those of a message. -/
def mostControl : Nat := 0x20000

/-- What goes beside the bytes of a message. -/
def readControl (header : MessageHeader) : Kernel ByteArray := do
  failIf (0x7fffffff < header.controlLength || mostControl < header.controlLength) .noBuffers
  if header.controlLength = 0 then return ByteArray.empty
  readMemory header.control header.controlLength

/-! ### Sending -/

/-- Sends a message with flags. -/
def sendWith (number : Nat) (nonBlocking : Bool) (flags : Nat) (name : ByteArray) (spans : List Span)
    (control : ByteArray) : Kernel Nat := do
  let socket ← socket number
  let has (flag : Nat) : Bool := flags &&& flag ≠ 0
  let files ← if socket.family = .machine then
      filesIn (← controlParts control 0 control.size)
    else pure []
  let checked ← if socket.family = .machine then pure (.ok ())
    else attempt (do checkControl socket (← controlParts control 0 control.size))
  Kernel.send number {
    source := .memory spans
    nonBlocking := nonBlocking || has doesNotWait
    quiet := has noSignal
    urgent := has MessageFlags.urgent
    more := has more
    name
    files
    fault := match checked with
      | .ok () => none
      | .error errno => some errno }

/-- Sends the message that is described in memory. -/
def sendHeader (number : Nat) (nonBlocking : Bool) (flags : Nat) (address : UInt64) : Kernel Nat := do
  let header ← readHeader address
  let name ← if header.nameLength = 0 then pure ByteArray.empty
    else readMemory header.name header.nameLength
  let control ← readControl header
  sendWith number nonBlocking flags name header.spans control

/-! ### Receiving -/

/-- Receives a message with flags. -/
def receiveWith (number : Nat) (nonBlocking : Bool) (flags : Nat) (spans : List Span) :
    Kernel Received := do
  let has (flag : Nat) : Bool := flags &&& flag ≠ 0
  if has fromErrors && (← socket number).family.hasHosts then fail .tryAgain
  receive number {
    spans
    nonBlocking := nonBlocking || has doesNotWait
    peeks := has peek
    fills := has waitsForAll
    urgent := has MessageFlags.urgent }

/-- The number of bytes that is told: of a message that was cut the whole number, if that is wanted. -/
def toldCount (socket : Socket) (flags : Nat) (received : Received) : Nat :=
  if flags &&& whole ≠ 0 && socket.kind ≠ .stream then received.length else received.count

/-- What is put beside the bytes of a message, the room that is left for it, and whether there was too
little. -/
structure ControlRoom where
  place : UInt64
  left : Nat
  wasShort : Bool := false

/-- Puts a part beside the bytes of a message, as much of it as there is room for. -/
def putControl (room : ControlRoom) (type : Nat) (bytes : ByteArray) : Kernel ControlRoom := do
  if room.place = 0 || room.left < 16 then return { room with wasShort := true }
  let length := min (16 + bytes.size) room.left
  let head := wordBytes 8 (result length) ++ wordBytes 4 1 ++ wordBytes 4 (result type)
  writeMemory room.place (head ++ bytes.extract 0 (length - 16))
  let used := min room.left ((length + 7) / 8 * 8)
  return {
    place := room.place + UInt64.ofNat used
    left := room.left - used
    wasShort := room.wasShort || length < 16 + bytes.size }

/-- Opens the files that came with a message, as many as there is room for. -/
def putFiles (room : ControlRoom) (flags : Nat) (files : List Nat) : Kernel ControlRoom := do
  if files.isEmpty then return room
  let fitting := if room.place = 0 then 0 else (room.left - 16) / 4
  if fitting = 0 then return { room with wasShort := true }
  let descriptors ← (files.take fitting).mapM fun file => do
    let descriptor ← freeDescriptor 0
    modifyDescriptors (·.insert descriptor ⟨file, flags &&& closeOnExec ≠ 0⟩)
    return descriptor
  let room ← putControl room 1
    (descriptors.foldl (fun bytes descriptor => bytes ++ wordBytes 4 (result descriptor))
      ByteArray.empty)
  return { room with wasShort := room.wasShort || descriptors.length < files.length }

/-- Receives a message and describes it in memory. -/
def receiveHeader (number : Nat) (nonBlocking : Bool) (flags : Nat) (address : UInt64) :
    Kernel Nat := do
  let header ← readHeader address
  let socket ← socket number
  let received ← receiveWith number nonBlocking flags header.spans
  let room : ControlRoom := { place := header.control, left := header.controlLength }
  let room ← if socket.isOn 16 then
      let process := received.process.getD 0
      let user := if received.process.isSome then userNumber else 65534
      putControl room 2
        (wordBytes 4 (result process) ++ wordBytes 4 (result user) ++ wordBytes 4 (result user))
    else pure room
  let room ← putFiles room flags received.files
  let told := (if room.wasShort then shortened else 0)
    + (if received.count < received.length then whole else 0) + (flags &&& closeOnExec)
    + (if flags &&& MessageFlags.urgent ≠ 0 then MessageFlags.urgent else 0)
  if header.name != 0 then
    let bytes := match received.sender with
      | some name => nameBytes socket.family (some name)
      | none => ByteArray.empty
    tellName header.name (address + 8) bytes
  writeNumber (address + 48) 4 (result told)
  writeNumber (address + 40) 8 (result (header.controlLength - room.left))
  return toldCount socket flags received

/-- Does something with the messages of a list, one after the other, until one of them fails. -/
def eachListed (action : UInt64 → Kernel Nat) (list : UInt64) :
    (count : Nat) → (done : Nat) → Kernel Nat
  | 0, done => return done
  | count + 1, done => do
    match ← attempt (do
        let length ← action list
        writeNumber (list + UInt64.ofNat headerBytes) 4 (result length)) with
    | .error errno =>
      failIf (done = 0) errno
      return done
    | .ok () => eachListed action (list + 64) count (done + 1)

end Kernel

namespace Service

open Kernel

/-! ### Sending -/

def send : Service := fun arguments => do
  let spans ← cappedSpan arguments.second arguments.third
  let (number, _, nonBlocking) ← openSocket arguments.first
  let name ← if arguments.fifth = 0 then pure ByteArray.empty
    else readNameBytes arguments.fifth arguments.sixth
  return result (← sendWith number nonBlocking (low arguments.fourth) name spans ByteArray.empty)

def sendDescribed : Service := fun arguments => do
  let flags := low arguments.third
  failIf (flags &&& MessageFlags.refused ≠ 0) .invalidArgument
  let (number, _, nonBlocking) ← openSocket arguments.first
  return result (← sendHeader number nonBlocking flags arguments.second)

/-- The most messages of a list. -/
def mostListed : Nat := 1024

def sendListed : Service := fun arguments => do
  let flags := low arguments.fourth
  failIf (flags &&& MessageFlags.refused ≠ 0) .invalidArgument
  let (number, _, nonBlocking) ← openSocket arguments.first
  return result (← eachListed (sendHeader number nonBlocking flags) arguments.second
    (min (low arguments.third) mostListed) 0)

/-! ### Receiving -/

def receive : Service := fun arguments => do
  let spans ← cappedSpan arguments.second arguments.third
  let (number, socket, nonBlocking) ← openSocket arguments.first
  let flags := low arguments.fourth
  let received ← receiveWith number nonBlocking flags spans
  if arguments.fifth != 0 then
    let bytes := match received.sender with
      | some name => nameBytes socket.family (some name)
      | none => ByteArray.empty
    tellName arguments.fifth arguments.sixth bytes
  return result (toldCount socket flags received)

def receiveDescribed : Service := fun arguments => do
  let flags := low arguments.third
  failIf (flags &&& MessageFlags.refused ≠ 0) .invalidArgument
  let (number, _, nonBlocking) ← openSocket arguments.first
  return result (← receiveHeader number nonBlocking flags arguments.second)

def receiveListed : Service := fun arguments => do
  let flags := low arguments.fourth
  failIf (flags &&& MessageFlags.refused ≠ 0) .invalidArgument
  let limit ← if arguments.fifth = 0 then pure none else some <$> readTime arguments.fifth
  let (number, _, nonBlocking) ← openSocket arguments.first
  failOnError number
  let first ← eachListed (receiveHeader number nonBlocking flags) arguments.second
    (min 1 (low arguments.third)) 0
  if first = 0 || limit = some 0 then return result first
  let goesOn := flags &&& MessageFlags.forOne ≠ 0
  let count := min (low arguments.third) mostListed - 1
  return result (← eachListed (receiveHeader number (nonBlocking || goesOn) flags)
    (arguments.second + 64) count 1)

end Service

end StaticElf.Linux
