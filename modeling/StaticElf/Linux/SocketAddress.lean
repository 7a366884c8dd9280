/-
**Names of sockets in memory.**

* `Kernel.readNameBytes`, `Kernel.tellName` — names as they stand in memory.
* `Kernel.machineName`, `Kernel.hostName` — what they mean.
* `Kernel.findMachine` — the socket with a name that is known on one machine.
-/

import StaticElf.Linux.Lookup
import StaticElf.Linux.SocketLife

namespace StaticElf.Linux

namespace Kernel

/-- The bytes of a name, whose length is given. -/
def readNameBytes (address length : UInt64) : Kernel ByteArray := do
  let length := lowSigned length
  failIf (length < 0 || 128 < length) .invalidArgument
  if length = 0 then return ByteArray.empty
  readMemory address length.toNat

/-- The number of the family that the bytes of a name start with. -/
def familyIn (bytes : ByteArray) : Nat := (littleEndian (padded bytes 2) 0 2).toNat

/-- A number in bytes, the highest first. -/
def bigEndian (bytes : ByteArray) (offset width : Nat) : Nat :=
  (List.range width).foldl
    (fun value index => 256 * value + (littleEndian bytes (offset + index) 1).toNat) 0

/-- The bytes of a number, the highest first. -/
def bigEndianBytes (width value : Nat) : ByteArray :=
  ⟨((List.range width).map fun index =>
    UInt8.ofNat (value >>> (8 * (width - 1 - index)))).toArray⟩

/-- The name of a socket that is known on one machine. -/
def machineName (bytes : ByteArray) : Kernel SocketName := do
  failIf (bytes.size ≤ 2 || 110 < bytes.size) .invalidArgument
  failIf (familyIn bytes ≠ SocketFamily.machine.number) .invalidArgument
  match (bytes.extract 2 bytes.size).toList with
  | 0 :: rest => return .hidden rest
  | text => return .path (text.takeWhile (· != 0))

/-- A host with four bytes and a port. -/
def shortHostIn (bytes : ByteArray) : Nat × Nat :=
  let bytes := padded bytes 16
  (Host.firstShort + bigEndian bytes 4 4, bigEndian bytes 2 2)

/-- A host with sixteen bytes and a port. -/
def longHostIn (bytes : ByteArray) : Nat × Nat :=
  let bytes := padded bytes 28
  (bigEndian bytes 8 16, bigEndian bytes 2 2)

/-- The bytes of a name, as they are told. -/
def nameBytes (family : SocketFamily) (name : Option SocketName) : ByteArray :=
  let head := wordBytes 2 (result family.number)
  match family with
  | .machine =>
    match name with
    | some (.path text) => head ++ ⟨(text ++ [0]).toArray⟩
    | some (.hidden text) => head ++ ⟨(0 :: text).toArray⟩
    | _ => head
  | .shortHost =>
    let (address, port) := match name with
      | some (.host address port) => (address - Host.firstShort, port)
      | _ => (0, 0)
    padded (head ++ bigEndianBytes 2 port ++ bigEndianBytes 4 address) 16
  | .longHost =>
    let (address, port) := match name with
      | some (.host address port) => (address, port)
      | _ => (0, 0)
    padded (padded (head ++ bigEndianBytes 2 port) 8 ++ bigEndianBytes 16 address) 28
  | .kernel =>
    let (number, groups) := match name with
      | some (.kernel number groups) => (number, groups)
      | _ => (0, 0)
    padded head 4 ++ wordBytes 4 (result number) ++ wordBytes 4 (result groups)

/-- Tells a name, as much of it as there is room for, and its length. -/
def tellName (address length : UInt64) (bytes : ByteArray) : Kernel Unit := do
  let room := lowSigned (← readNumber length 4)
  failIf (room < 0) .invalidArgument
  writeNumber length 4 (result bytes.size)
  let told := bytes.extract 0 room.toNat
  if told.size ≠ 0 then writeMemory address told

/-- The open socket with a name that is known on one machine. -/
def findMachine (name : SocketName) (kind : SocketKind) : Kernel Nat := do
  match name with
  | .path text =>
    let node ← findAt currentDirectory text true
    failIf (!(← files).permits node FileMode.ownerWrite) .permissionDenied
    match (← files).kind? node with
    | some (.file (.socket number)) =>
      let found := (← get).sockets[number]?
      let socket ← ofOption found .connectionRefused
      failIf socket.closed .connectionRefused
      failIf (socket.kind ≠ kind) .otherSocketType
      return number
    | _ => fail .connectionRefused
  | .hidden text => ofOption ((← get).hiddenSocket kind text) .connectionRefused
  | _ => fail .connectionRefused

/-- The host that messages for a host go to. There is no other machine. -/
def routed (address : Nat) : Kernel Nat := do
  if address = Host.anyShort then return Host.ownShort
  if address = Host.any then return Host.own
  failIf (!Host.isOwn address) .unreachable
  return address

/-- The host that messages to another one come from. -/
def sourceFor (address : Nat) : Nat := if Host.isShort address then Host.ownShort else Host.own

end Kernel

end StaticElf.Linux
