/-
**Sockets.**

* `SocketName` — how a socket is found.
* `Message` — what was sent at once.
* `Socket` — an end of a connection, with what it has received.
* `Socket.charge` — the room that a message takes where it waits.
-/

import StaticElf.Bytes
import StaticElf.Errno

namespace StaticElf.Linux

/-- The families of names. -/
inductive SocketFamily where
  /-- Paths, and other names that are known on one machine. -/
  | machine
  /-- Hosts with four bytes, and ports. -/
  | shortHost
  /-- Hosts with sixteen bytes, and ports. -/
  | longHost
  /-- The kernel itself. -/
  | kernel
  deriving DecidableEq, Repr

namespace SocketFamily

def number : SocketFamily → Nat
  | machine => 1
  | shortHost => 2
  | longHost => 10
  | kernel => 16

/-- Whether names are hosts and ports. -/
def hasHosts (family : SocketFamily) : Bool := family = shortHost || family = longHost

end SocketFamily

/-- The kinds of sockets. -/
inductive SocketKind where
  /-- Bytes in order. -/
  | stream
  /-- Messages. -/
  | datagram
  /-- Messages in order, over a connection. -/
  | sequence
  deriving DecidableEq, Repr

/-- How a socket is found. -/
inductive SocketName where
  | path (text : Bytes)
  /-- A name that does not stand in the file system. -/
  | hidden (text : Bytes)
  /-- A host and a port. Hosts with four bytes stand in a range of those with sixteen. -/
  | host (address : Nat) (port : Nat)
  /-- A number that the kernel sends to. -/
  | kernel (number groups : Nat)
  deriving DecidableEq, Repr

namespace Host

/-- The first of the hosts with four bytes. -/
def firstShort : Nat := 0xffff00000000

/-- Every host, with four bytes or with sixteen. -/
def anyShort : Nat := firstShort
def any : Nat := 0

/-- The machine itself. -/
def ownShort : Nat := firstShort + 0x7f000001
def own : Nat := 1

/-- Whether a host has four bytes. -/
def isShort (host : Nat) : Bool := firstShort ≤ host && host < firstShort + 0x100000000

/-- Whether a host stands for every one. -/
def isAny (host : Nat) : Bool := host = any || host = anyShort

/-- Whether a host is the machine itself. -/
def isOwn (host : Nat) : Bool :=
  host = own || (firstShort + 0x7f000000 ≤ host && host < firstShort + 0x80000000)

/-- Whether a host stands for a group of them. -/
def isGroup (host : Nat) : Bool :=
  (firstShort + 0xe0000000 ≤ host && host < firstShort + 0xf0000000)
    || host / 0x1000000000000000000000000000000 = 0xff

/-- The host with four bytes that stands for all that are near. -/
def allNear : Nat := firstShort + 0xffffffff

end Host

/-- What was sent at once. -/
structure Message where
  bytes : ByteArray
  /-- Open files that come with it, by their numbers. -/
  files : List Nat := []
  /-- The socket that sent it, and its name. -/
  origin : Option Nat := none
  sender : Option SocketName := none
  /-- The number of the process that sent it, if that is to be told. -/
  process : Option Nat := none
  /-- The room that it takes. -/
  charge : Nat := 0

/-- How far a socket has come. -/
inductive SocketStage where
  | idle
  | listening
  | connected
  /-- Its connection has ended. -/
  | ended
  deriving DecidableEq, Repr

/-- An end of a connection. -/
structure Socket where
  kind : SocketKind := .stream
  family : SocketFamily := .machine
  /-- The number of the kind and that of the protocol, as they are told. -/
  type : Nat := 1
  protocol : Nat := 0
  stage : SocketStage := .idle
  /-- Whether it is still to be told how connecting went. -/
  joining : Bool := false
  /-- The other end. -/
  peer : Option Nat := none
  name : Option SocketName := none
  /-- Whether the name was chosen by the program. -/
  named : Bool := false
  /-- The name of the other end. -/
  peerName : Option SocketName := none
  /-- The number of the process that made the other end. -/
  peerProcess : Option Nat := none
  /-- What was received, the first to be read first. -/
  received : List Message := []
  /-- Whether nothing more is received, and whether nothing more is sent. -/
  deaf : Bool := false
  mute : Bool := false
  /-- Whether the other end said that it sends nothing more. -/
  finished : Bool := false
  /-- What went wrong and was not told yet. -/
  error : Option Errno := none
  /-- The connections that were asked for, and how many of them may wait. -/
  callers : List Nat := []
  backlog : Nat := 0
  /-- What was set, by its level and its number. -/
  settings : List ((Nat × Nat) × Int) := []
  /-- Bytes that are to be sent with the next ones. -/
  held : ByteArray := .empty
  /-- A byte that comes before the others. -/
  urgent : Option UInt8 := none
  /-- Whether nobody has it open any more. -/
  closed : Bool := false

instance : Inhabited Socket := ⟨{}⟩

namespace Socket

/-- The open files that were sent and not yet received. -/
def inFlight (socket : Socket) : List Nat := socket.received.flatMap (·.files)

/-- The number of bytes that were received. -/
def length (socket : Socket) : Nat :=
  socket.received.foldr (fun message bytes => message.bytes.size + bytes) 0

/-- Whether a socket sends bytes to other hosts, in order. -/
def isRemoteStream (socket : Socket) : Bool := socket.family.hasHosts && socket.kind = .stream

/-- Whether a socket sends messages to other hosts. -/
def isRemoteDatagram (socket : Socket) : Bool := socket.family.hasHosts && socket.kind = .datagram

/-- The port of a socket, or zero. -/
def port (socket : Socket) : Nat :=
  match socket.name with
  | some (.host _ port) => port
  | _ => 0

/-! ### Room -/

/-- The least power of two, from 512 on, that is not less than a number. -/
def blockFor (bytes : Nat) : Nat :=
  ((List.range 24).map fun index => 512 <<< index).find? (bytes ≤ ·) |>.getD bytes

/-- The room that is taken by so many bytes in one piece, with what is kept beside them. -/
def pieceCharge (bytes : Nat) : Nat := blockFor ((bytes + 63) / 64 * 64 + 320) + 256

/-- The most bytes in one piece, and in one piece of a stream. -/
def mostInPiece : Nat := 16064
def mostInStreamPiece : Nat := 3776

/-- The most bytes of a stream that are sent at once. -/
def mostAtOnce : Nat := mostInStreamPiece + 0x8000

/-- The room that so many bytes of a stream take. -/
def streamCharge (bytes : Nat) : Nat :=
  let behind := min ((bytes - mostInStreamPiece + 4095) / 4096 * 4096) bytes
  pieceCharge (bytes - behind) + behind

/-- The room that a message takes. -/
def messageCharge (bytes : Nat) : Nat :=
  let behind := min (bytes - mostInPiece) (17 * 4096)
  let behind := (behind + 4095) / 4096 * 4096
  pieceCharge (bytes - behind) + behind

/-- The room that a message from another host takes. -/
def remoteCharge (bytes : Nat) : Nat :=
  let total := bytes + 59
  let aligned := (total + 63) / 64 * 64 + 320
  if aligned ≤ 576 then 832
  else if total < mostInPiece then blockFor aligned + 256
  else 832 + bytes

end Socket

end StaticElf.Linux
