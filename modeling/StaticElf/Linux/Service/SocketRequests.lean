/-
**Requests to sockets.**

A socket answers for what it has received and for what is on its way, and for the devices of the network,
of which there is one, through which a machine talks to itself.

* `DeviceFact` — what can be asked about a device of the network.
* `Service.requestOfSocket` — what can be asked of a socket, by number.
-/

import StaticElf.Linux.Service.Properties
import StaticElf.Linux.SocketAddress

namespace StaticElf.Linux

/-- What can be asked about a device of the network. -/
inductive DeviceFact where
  | flags
  | metric
  | packetSize
  | hardware
  | index
  | queueLength
  | map
  | address
  | otherAddress
  | allAddress
  | mask

namespace DeviceFact

/-- What is asked about with a request. -/
def ofRequest? : Nat → Option DeviceFact
  | 0x8913 => some flags
  | 0x891d => some metric
  | 0x8921 => some packetSize
  | 0x8927 => some hardware
  | 0x8933 => some index
  | 0x8942 => some queueLength
  | 0x8970 => some map
  | 0x8915 => some address
  | 0x8917 => some otherAddress
  | 0x8919 => some allAddress
  | 0x891b => some mask
  | _ => none

/-- Whether only sockets that know short addresses are asked. -/
def isOfShort : DeviceFact → Bool
  | address | otherAddress | allAddress | mask => true
  | _ => false

/-- The bytes of a short address. -/
def shortAddress (value : Nat) : ByteArray :=
  wordBytes 4 2 ++ Kernel.bigEndianBytes 4 value

/-- The answer for the device through which a machine talks to itself. -/
def answer : DeviceFact → ByteArray
  | flags => wordBytes 2 0x49
  | metric => wordBytes 4 0
  | packetSize => wordBytes 4 0x10000
  | hardware => padded (wordBytes 2 772) 16
  | index => wordBytes 4 1
  | queueLength => wordBytes 4 1000
  | map => padded ByteArray.empty 24
  | address | otherAddress => padded (shortAddress 0x7f000001) 16
  | allAddress => padded (shortAddress 0) 16
  | mask => padded (shortAddress 0xff000000) 16

end DeviceFact

namespace Kernel

/-- The room for what is asked about a device, and that for its name at the start of it. -/
def deviceRequestSize : Nat := 40
def deviceNameSize : Nat := 16

/-- The name of the device of the network, in the room for it. -/
def deviceNameBytes : ByteArray := padded "lo".toUTF8 deviceNameSize

/-- Whether a request names the device of the network. -/
def namesDevice (bytes : ByteArray) : Bool :=
  (bytes.extract 0 (deviceNameSize - 1)).toList.takeWhile (· != 0) = "lo".toUTF8.toList

/-- A request about the device of the network. -/
def deviceRequest (address : UInt64) : Kernel ByteArray := do
  let bytes ← readMemory address deviceRequestSize
  failIf (!namesDevice bytes) .unknownDevice
  return bytes

/-- Tells what is asked about a device. -/
def tellFact (address : UInt64) (fact : DeviceFact) : Kernel UInt64 := do
  let bytes ← deviceRequest address
  let told := bytes.extract 0 deviceNameSize ++ fact.answer
  writeMemory address (told ++ bytes.extract told.size deviceRequestSize)
  return 0

/-- Tells the name of the device with a number. -/
def tellDeviceName (address : UInt64) : Kernel UInt64 := do
  let bytes ← readMemory address deviceRequestSize
  failIf (littleEndian bytes deviceNameSize 4 != 1) .unknownDevice
  writeMemory address (deviceNameBytes ++ bytes.extract deviceNameSize deviceRequestSize)
  return 0

/-- Tells the devices that have short addresses, as many as there is room for. -/
def tellDevices (address : UInt64) : Kernel UInt64 := do
  let bytes ← readMemory address 16
  let room := lowSigned (littleEndian bytes 0 4)
  let target := littleEndian bytes 8 8
  let device := padded (deviceNameBytes ++ DeviceFact.answer .address) deviceRequestSize
  let fits := target = 0 || (deviceRequestSize : Int) ≤ room
  if target != 0 && fits then writeMemory target device
  writeMemory address
    (wordBytes 4 (if fits then result deviceRequestSize else 0) ++ bytes.extract 4 16)
  return 0

/-- The number of bytes that can be read from a socket without waiting: of messages between hosts those of
the first. -/
def socketBytes (number : Nat) : Kernel Nat := do
  settleSockets
  let socket ← Kernel.socket number
  failIf (socket.family = .kernel) .notTerminal
  failIf (socket.stage = .listening && socket.kind = .stream) .invalidArgument
  if socket.kind = .datagram then return (socket.received.head?.map (·.bytes.size)).getD 0
  return socket.length

/-- The number of bytes that a socket has sent and that are still on their way. -/
def socketBytesSent (number : Nat) : Kernel Nat := do
  let socket ← Kernel.socket number
  failIf (socket.family = .kernel) .notTerminal
  failIf (socket.isRemoteStream && socket.stage = .listening) .invalidArgument
  if socket.family.hasHosts then return 0
  roomTaken number

end Kernel

namespace Service

open Kernel

/-- The requests that change the network, which nobody may. -/
def changesOfNetwork : List Nat :=
  [0x8914, 0x891e, 0x8922, 0x8923, 0x8924, 0x8930, 0x8931, 0x8932, 0x8937, 0x8943, 0x8947, 0x8948,
    0x8949, 0x8971, 0x8990, 0x8991, 0x8992, 0x8995, 0x89b0]

/-- The requests that the device of the network does not know. -/
def unknownToDevice (command : Nat) : Bool :=
  [0x894a, 0x8993, 0x8994, 0x89b1].contains command || (0x89f0 ≤ command && command ≤ 0x89ff)

/-- A request that sockets of no kind know. -/
def unknownOfSocket (address : UInt64) : Kernel UInt64 := do
  let _ ← readMemory address deviceRequestSize
  fail .notTerminal

/-- Asks something about the network of a socket that knows short addresses. -/
def requestOfShort (command : Nat) (address : UInt64) : Kernel UInt64 := do
  let afterRead (size : Nat) (errno : Errno) : Kernel UInt64 := do
    let _ ← readMemory address size
    fail errno
  match command with
  | 0x890b | 0x890c => afterRead 120 .notPermitted
  | 0x890d => fail .invalidArgument
  | 0x8916 | 0x8918 | 0x891a | 0x891c => afterRead deviceRequestSize .notPermitted
  | 0x8934 | 0x8935 => afterRead deviceRequestSize .invalidArgument
  | 0x8953 | 0x8955 => fail .notPermitted
  | 0x8954 => afterRead 68 .unknownProtocolFamily
  | _ => unknownOfSocket address

/-- Asks something about the network of a socket that knows long addresses. -/
def requestOfLong (command : Nat) (address : UInt64) : Kernel UInt64 := do
  match command with
  | 0x890b | 0x890c =>
    let _ ← readMemory address 80
    fail .notPermitted
  | 0x8916 | 0x8936 => fail .notPermitted
  | 0x8918 => fail .unknownDevice
  | _ => unknownOfSocket address

/-- Asks for what is beside the bytes in their order, of a socket. -/
def tellAtMark (socket : Socket) (address : UInt64) : Kernel UInt64 := do
  let tell (atMark : Bool) : Kernel UInt64 := do
    writeNumber address 4 (if atMark then 1 else 0)
    return 0
  if socket.kind = .stream then tell (socket.urgent.isSome && socket.received.isEmpty)
  else if socket.family = .machine then fail .notSupported
  else unknownOfSocket address

/-- Asks something about the network of a socket. -/
def requestOfNetwork (socket : Socket) (command : Nat) (address : UInt64) : Kernel UInt64 := do
  match command with
  | 0x8906 | 0x8907 | 0x80108906 | 0x80108907 =>
    fail (if socket.family.hasHosts then .noEntry else .notTerminal)
  | 0x8910 => tellDeviceName address
  | 0x8912 => tellDevices address
  | 0x8929 =>
    let _ ← deviceRequest address
    fail .invalidArgument
  | 0x8940 | 0x8941 =>
    let bytes ← readMemory address 32
    match littleEndian bytes 0 8 with
    | 0 => return 1
    | 2 | 3 => fail .notPermitted
    | _ => fail .notSupported
  | 0x8946 =>
    let _ ← readMemory address deviceRequestSize
    fail .badAddress
  | 0x894b =>
    if !socket.isRemoteStream then unknownOfSocket address
    else
      failIf (socket.stage = .listening) .invalidArgument
      writeNumber address 4 0
      return 0
  | 0x894c | 0x89a0 | 0x89a1 | 0x89a2 | 0x89a3 => fail .notPermitted
  | 0x8982 | 0x8983 => fail .notInstalled
  | 0x89e0 => if socket.family = .machine then fail .notPermitted else unknownOfSocket address
  | _ =>
    if changesOfNetwork.contains command then
      let _ ← readMemory address deviceRequestSize
      fail .notPermitted
    else if unknownToDevice command then
      let _ ← deviceRequest address
      fail .notSupported
    else
      match socket.family with
      | .shortHost => requestOfShort command address
      | .longHost => requestOfLong command address
      | _ => unknownOfSocket address

/-- Asks something of a socket, which has a number besides that of its being open. -/
def requestOfSocket (opening : Nat) (description : Description) (number command : Nat)
    (address : UInt64) : Kernel UInt64 := do
  let socket ← Kernel.socket number
  match command with
  | 0x5411 =>
    writeNumber address 4 (result (← socketBytesSent number))
    return 0
  | 0x541b =>
    writeNumber address 4 (result (← socketBytes number))
    return 0
  | 0x8901 | 0x8902 =>
    let owner := lowSigned (← readNumber address 4)
    failIf (owner = -0x80000000) .invalidArgument
    setFileOwner opening (if owner < 0 then 2 else 1) owner.natAbs
  | 0x8903 | 0x8904 =>
    let owner := result description.owner.number
    writeNumber address 4 (if description.owner.kind = 2 then 0 - owner else owner)
    return 0
  | 0x8905 => tellAtMark socket address
  | _ =>
    match DeviceFact.ofRequest? command with
    | some fact =>
      if fact.isOfShort && socket.family ≠ .shortHost then unknownOfSocket address
      else tellFact address fact
    | none => requestOfNetwork socket command address

end Service

end StaticElf.Linux
