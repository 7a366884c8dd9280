/-
**Sockets as system calls.**

* `Service.makeSocketPair`, `Service.makeSocket` — making sockets.
* `Service.bind`, `Service.listen`, `Service.connect`, `Service.accept` — connections by names.
* `Service.shutDown`, `Service.tellOwnAddress`, `Service.tellPeerAddress` — what becomes of them.
-/

import StaticElf.Linux.Service.Descriptors
import StaticElf.Linux.Service.Opening

namespace StaticElf.Linux

namespace Kernel

/-! ### Making sockets -/

/-- The number of families that could be known, and that of kinds. -/
def familyCount : Nat := 46
def typeCount : Nat := 11

/-- The kind that a number stands for. -/
def socketKindOf (type : Nat) : Option SocketKind :=
  match type with
  | 1 => some .stream
  | 2 | 3 => some .datagram
  | 5 => some .sequence
  | _ => none

/-- A socket that is known on one machine. -/
def machineSocket (type protocol : Nat) : Kernel Socket := do
  failIf (protocol ≠ 0 && protocol ≠ 1) .unknownProtocol
  let kind ← ofOption (socketKindOf type) .unknownSocketType
  return { kind, type := if type = 3 then 2 else type }

/-- The protocols that only an administrator uses, and the number of protocols. -/
def probeProtocol (family : SocketFamily) : Nat := if family = .shortHost then 1 else 58
def protocolCount : Nat := 263

/-- A socket between hosts. -/
def hostSocket (family : SocketFamily) (type protocol : Nat) : Kernel Socket := do
  failIf (protocolCount ≤ protocol) .invalidArgument
  match type with
  | 1 =>
    failIf (!([0, 6, 262].contains protocol)) .unknownProtocol
    return { kind := .stream, family, type, protocol := if protocol = 0 then 6 else protocol }
  | 2 =>
    failIf (protocol = probeProtocol family) .permissionDenied
    failIf (!([0, 17, 136].contains protocol)) .unknownProtocol
    return { kind := .datagram, family, type, protocol := if protocol = 0 then 17 else protocol }
  | 3 => fail (if protocol = 0 then .unknownProtocol else .notPermitted)
  | _ => fail .unknownSocketType

/-- The parts of the kernel that messages can be sent to. -/
def kernelParts : List Nat := [0, 2, 4, 6, 7, 9, 10, 11, 12, 15, 16]

/-- A socket for messages to the kernel. -/
def kernelSocket (type protocol : Nat) : Kernel Socket := do
  failIf (type ≠ 2 && type ≠ 3) .unknownSocketType
  failIf (!kernelParts.contains protocol) .unknownProtocol
  return { kind := .datagram, family := .kernel, type, protocol }

/-- A socket of a family. -/
def freshSocket (family type protocol : Nat) : Kernel Socket := do
  failIf (familyCount ≤ family) .unknownFamily
  failIf (typeCount ≤ type) .invalidArgument
  match family with
  | 1 => machineSocket type protocol
  | 2 => if type = 10 then fail .notPermitted else hostSocket .shortHost type protocol
  | 10 => hostSocket .longHost type protocol
  | 16 => kernelSocket type protocol
  | 17 | 44 => fail .notPermitted
  | _ => fail .unknownFamily

/-- The kind in an argument, whose flags have to be known. -/
def typeIn (argument : UInt64) : Kernel Nat := do
  let flags := low argument - low argument % 16
  failIf (flags &&& (OpenFlags.nonBlocking ||| OpenFlags.closeOnExec) ≠ flags) .invalidArgument
  return low argument % 16

/-- An open socket. -/
def socketDescription (number type : Nat) : Description :=
  { opened := .socket number
    flags := OpenFlags.readWrite ||| (type &&& OpenFlags.nonBlocking) }

/-- The socket behind a file descriptor, and whether calls on it wait. -/
def openSocket (descriptor : UInt64) : Kernel (Nat × Socket × Bool) := do
  let (_, description) ← opened (low descriptor)
  match description.opened with
  | .socket number =>
    settleSockets
    return (number, ← socket number, description.has OpenFlags.nonBlocking)
  | _ => fail .notSocket

/-! ### Names -/

/-- The ports below this one are kept for administrators. -/
def firstFreePort : Nat := 1024

/-- Gives a socket a name of its own choice: five digits. -/
def bindAnywhere (number : Nat) : Kernel Unit := do
  if (← socket number).name.isNone then
    let digits := (Nat.toDigits 16 (0x10000 + number)).map fun digit => digit.val.toUInt8
    modifySocket number ({ · with name := some (.hidden digits) })

/-- Gives a socket a name that is known on one machine. -/
def bindMachine (number : Nat) (bytes : ByteArray) : Kernel Unit := do
  if bytes.size = 2 && familyIn bytes = SocketFamily.machine.number then bindAnywhere number
  else
    let name ← machineName bytes
    let socket ← socket number
    match name with
    | .path text =>
      match ← attempt (newNameAt currentDirectory text false) with
      | .error errno => fail (if errno = .alreadyThere then .addressInUse else errno)
      | .ok (parent, entry) =>
        failIf socket.name.isSome .invalidArgument
        let _ ← makeNode parent entry (.file (.socket number)) (← freshMode 0o777)
    | .hidden text =>
      failIf socket.name.isSome .invalidArgument
      failIf ((← get).hiddenSocket socket.kind text).isSome .addressInUse
    | _ => pure ()
    modifySocket number ({ · with name := some name })

/-- Whether a host is one that a socket can be bound to. -/
def isBindable (address : Nat) : Bool :=
  Host.isAny address || Host.isOwn address || Host.isGroup address || address = Host.allNear

/-- Gives a socket a host and a port. -/
def bindHost (number : Nat) (bytes : ByteArray) : Kernel Unit := do
  let socket ← socket number
  let family := familyIn bytes
  let isShort := socket.family = .shortHost
  failIf (bytes.size < if isShort then 16 else 24) .invalidArgument
  let (address, port) := if isShort then shortHostIn bytes else longHostIn bytes
  failIf (family ≠ socket.family.number && !(isShort && family = 0 && address = Host.anyShort))
    .unknownFamily
  failIf (!isShort && Host.isGroup address && socket.kind = .stream) .invalidArgument
  failIf (0 < port && port < firstFreePort) .permissionDenied
  if !isShort then
    failIf (socket.stage ≠ .idle || socket.port ≠ 0) .invalidArgument
    failIf (Host.isShort address && World.isLongOnly socket) .invalidArgument
  failIf (!isBindable address) .addressNotHere
  failIf (socket.stage ≠ .idle || socket.port ≠ 0) .invalidArgument
  failIf (port ≠ 0 && (← get).isTaken number address port) .addressInUse
  let settled := if !isShort && address ≠ Host.any && !Host.isShort address
    then socket.withValue Setting.longHostLevel 26 1 else socket
  modifySocket number fun _ => { settled with name := some (.host address port), named := true }
  takePort number

/-- Gives a socket to the kernel a number. -/
def bindKernel (number : Nat) (bytes : ByteArray) : Kernel Unit := do
  failIf (bytes.size < 12) .invalidArgument
  failIf (familyIn bytes ≠ SocketFamily.kernel.number) .invalidArgument
  let wanted := (littleEndian bytes 4 4).toNat
  let groups := (littleEndian bytes 8 4).toNat
  let bound := match (← socket number).name with
    | some (.kernel own _) => some own
    | _ => none
  match bound with
  | some own => failIf (wanted ≠ own) .invalidArgument
  | none =>
    let own := (← process).number
    let chosen := if wanted = 0 then own else wanted
    let used := (← get).sockets.any fun other =>
      !other.closed && (match other.name with
        | some (.kernel taken _) => taken = chosen
        | _ => false)
    failIf (used && wanted ≠ 0) .addressInUse
    modifySocket number ({ · with name := some (.kernel chosen groups) })

/-! ### Connections -/

/-- Connects a stream, or messages in order, of one machine. -/
def connectMachine (number : Nat) (nonBlocking : Bool) (bytes : ByteArray) : Kernel UInt64 := do
  let name ← machineName bytes
  let socket ← socket number
  let target ← findMachine name socket.kind
  let host ← Kernel.socket target
  failIf (host.stage ≠ .listening || host.deaf) .connectionRefused
  if host.backlog < host.callers.length then waitUnless number sendTime nonBlocking
  failIf (socket.stage = .connected) .alreadyConnected
  failIf (socket.stage ≠ .idle) .invalidArgument
  let own := (← process).number
  let other ← addSocket {
    kind := host.kind, type := host.type, stage := .connected, peer := some number,
    name := host.name, peerProcess := some own,
    settings := host.settings.filter fun (key, _) => key.2 = 16 || key.2 = 34 }
  modifySocket number ({ · with
    stage := .connected, peer := some other, peerProcess := host.peerProcess })
  modifySocket target fun host => { host with callers := host.callers ++ [other] }
  return 0

/-- Forgets what was received from an end that a socket is no longer connected to. -/
def leavePeer (number : Nat) : Kernel Unit := do
  let socket ← socket number
  match socket.peer with
  | none => pure ()
  | some peer =>
    let other ← Kernel.socket peer
    if !socket.received.isEmpty then
      modifySocket number ({ · with received := [] })
      if !other.closed && other.peer = some number then
        modifySocket peer ({ · with error := some .connectionReset })

/-- Says where messages go that are sent without a name. -/
def connectMessages (number : Nat) (bytes : ByteArray) : Kernel UInt64 := do
  failIf (bytes.size < 2) .invalidArgument
  if familyIn bytes = 0 then
    leavePeer number
    modifySocket number ({ · with peer := none, stage := .idle })
    return 0
  let socket ← socket number
  let target ← findMachine (← machineName bytes) socket.kind
  let other ← Kernel.socket target
  failIf (other.peer.isSome && other.peer ≠ some number) .notPermitted
  if socket.peer ≠ some target then leavePeer number
  modifySocket number ({ · with peer := some target, stage := .connected })
  return 0

/-- Takes a connection between hosts apart. -/
def disconnect (number : Nat) : Kernel Unit := do
  let socket ← socket number
  modify fun world =>
    let world := match socket.peer with
      | some peer => world.resetSocket peer
      | none => world
    socket.callers.foldl (fun world caller =>
      let world := match (world.sockets.getD caller {}).peer with
        | some peer => world.resetSocket peer
        | none => world
      world.modifySocket caller ({ · with closed := true })) world
  modifySocket number fun socket => { socket with
    stage := .idle
    joining := false
    peer := none
    peerName := none
    callers := []
    received := []
    error := none
    deaf := false
    mute := false
    finished := false
    name := if socket.named then socket.name else none }

/-- The host and the port to connect to, as given by the bytes of a name. -/
def hostToConnect (socket : Socket) (bytes : ByteArray) : Kernel (Nat × Nat) := do
  let family := familyIn bytes
  if socket.family = .shortHost then
    failIf (bytes.size < 16) .invalidArgument
    failIf (family ≠ SocketFamily.shortHost.number) .unknownFamily
    return shortHostIn bytes
  if socket.kind = .datagram && family = SocketFamily.shortHost.number then
    failIf (World.isLongOnly socket) .unknownFamily
    failIf (bytes.size < 16) .invalidArgument
    return shortHostIn bytes
  failIf (bytes.size < 24) .invalidArgument
  failIf (family ≠ SocketFamily.longHost.number) .unknownFamily
  let (address, port) := longHostIn bytes
  failIf (Host.isShort address && World.isLongOnly socket) .unreachable
  failIf (address >>> 118 = 0x3fa) .invalidArgument
  return (address, port)

/-- The name of a socket once it is connected to a host. -/
def nameFor (socket : Socket) (address : Nat) : Option SocketName :=
  match socket.name with
  | some (.host own port) => some (.host (if Host.isAny own then Kernel.sourceFor address else own) port)
  | other => other

/-- Connects a stream to another host. One that does not wait is told how it went later. -/
def connectStream (number : Nat) (nonBlocking : Bool) (bytes : ByteArray) : Kernel UInt64 := do
  failIf (bytes.size < 2) .invalidArgument
  if familyIn bytes = 0 then
    disconnect number
    return 0
  let socket ← socket number
  if socket.joining then
    modifySocket number ({ · with joining := false })
    failOnError number
    return 0
  failIf (socket.stage ≠ .idle) .alreadyConnected
  let (given, port) ← hostToConnect socket bytes
  let address ← routed given
  takePort number
  match (← get).streamTarget address port with
  | none =>
    if nonBlocking then
      modifySocket number ({ · with joining := true, error := some .connectionRefused })
      fail .begun
    modifySocket number fun socket => { socket with name := if socket.named then socket.name else none }
    fail .connectionRefused
  | some target =>
    let host ← Kernel.socket target
    if host.backlog < host.callers.length then
      failIf nonBlocking .begun
      wait
    modifySocket number fun socket => { socket with name := nameFor socket address }
    let own := (← Kernel.socket number).name
    let other ← addSocket { host with
      stage := .connected, peer := some number, callers := [],
      name := some (.host address port), peerName := own, received := [] }
    modifySocket number ({ · with
      stage := .connected, peer := some other, peerName := some (.host address port),
      joining := nonBlocking })
    modifySocket target fun host => { host with callers := host.callers ++ [other] }
    failIf nonBlocking .begun
    return 0

/-- Says which host messages go to that are sent without a name. -/
def connectRemoteMessages (number : Nat) (bytes : ByteArray) : Kernel UInt64 := do
  failIf (bytes.size < 2) .invalidArgument
  if familyIn bytes = 0 then
    modifySocket number fun socket => { socket with
      peerName := none, stage := .idle, error := none,
      name := if socket.named then socket.name else none }
    return 0
  takePort number
  let socket ← socket number
  let (given, port) ← hostToConnect socket bytes
  failIf (given = Host.allNear && !socket.isOn 6) .permissionDenied
  failIf (Host.isShort given && World.isLongOnly socket) .unreachable
  let address ← routed given
  modifySocket number fun socket => { socket with
    stage := .connected, peerName := some (.host address port), name := nameFor socket address }
  return 0

end Kernel

namespace Service

open Kernel

/-! ### Making sockets -/

def makeSocket : Service := fun arguments => do
  let type ← typeIn arguments.second
  let socket ← freshSocket (low arguments.first) type (low arguments.third)
  let _ ← freeDescriptor 0
  let number ← addSocket socket
  let flags := low arguments.second
  return result (← install (socketDescription number flags) (closesOnExec flags))

def makeSocketPair : Service := fun arguments => do
  let type ← typeIn arguments.second
  let before ← descriptors
  let left ← freeDescriptor 0
  modifyDescriptors (·.insert left ⟨0, false⟩)
  let right ← (do
    match ← attempt (freeDescriptor 0) with
    | .ok right => pure right
    | .error errno =>
      modifyDescriptors fun _ => before
      fail errno)
  modifyDescriptors fun _ => before
  tellPair arguments.fourth left right
  let socket ← freshSocket (low arguments.first) type (low arguments.third)
  failIf (socket.family ≠ .machine) .notSupported
  let own := (← process).number
  let joined : Socket := { socket with stage := .connected, peerProcess := some own }
  let first ← addSocket joined
  let second ← addSocket { joined with peer := some first }
  modifySocket first ({ · with peer := some second })
  let flags := low arguments.second
  installPair (socketDescription first flags) (socketDescription second flags) (closesOnExec flags)
    fun _ _ => pure ()
  return 0

/-! ### Connections -/

def bind : Service := fun arguments => do
  let (number, socket, _) ← openSocket arguments.first
  let bytes ← readNameBytes arguments.second arguments.third
  match socket.family with
  | .machine => bindMachine number bytes
  | .kernel => bindKernel number bytes
  | _ => bindHost number bytes
  return 0

/-- The most connections that may wait. -/
def mostBacklog : Nat := 4096

def listen : Service := fun arguments => do
  let (number, socket, _) ← openSocket arguments.first
  let backlog := min (low arguments.second) mostBacklog
  failIf (socket.kind = .datagram) .notSupported
  if socket.family = .machine then
    failIf socket.name.isNone .invalidArgument
  failIf (socket.stage ≠ .idle && socket.stage ≠ .listening) .invalidArgument
  failIf socket.joining .invalidArgument
  if socket.family ≠ .machine then
    failIf (socket.port ≠ 0 && (← get).hasListener number socket.port) .addressInUse
    takePort number
  let own := (← process).number
  modifySocket number ({ · with stage := .listening, backlog, peerProcess := some own })
  return 0

def connect : Service := fun arguments => do
  let _ ← opened (low arguments.first)
  let bytes ← readNameBytes arguments.second arguments.third
  let (number, socket, nonBlocking) ← openSocket arguments.first
  match socket.family, socket.kind with
  | .machine, .datagram => connectMessages number bytes
  | .machine, _ => connectMachine number nonBlocking bytes
  | .kernel, _ =>
    failIf (bytes.size < 2) .invalidArgument
    if familyIn bytes = 0 then return 0
    failIf (familyIn bytes ≠ SocketFamily.kernel.number) .invalidArgument
    failIf (bytes.size < 12) .invalidArgument
    if socket.name.isNone then bindKernel number (padded (wordBytes 2 16) 12)
    return 0
  | _, .datagram => connectRemoteMessages number bytes
  | _, _ => connectStream number nonBlocking bytes

/-- Takes the first connection that was asked for. -/
def acceptWith (arguments : Arguments) (flags : Nat) : Kernel UInt64 := do
  let _ ← opened (low arguments.first)
  failIf (flags &&& (OpenFlags.nonBlocking ||| OpenFlags.closeOnExec) ≠ flags) .invalidArgument
  let descriptor ← freeDescriptor 0
  let (number, socket, nonBlocking) ← openSocket arguments.first
  failIf (socket.kind = .datagram) .notSupported
  failIf (socket.stage ≠ .listening) .invalidArgument
  match socket.callers with
  | [] =>
    failIf (socket.deaf && !nonBlocking) .invalidArgument
    waitUnless number receiveTime nonBlocking
    return 0
  | caller :: rest =>
    modifySocket number ({ · with callers := rest })
    let taken ← Kernel.socket caller
    let peer ← match taken.peer with
      | some peer => Kernel.socket peer
      | none => pure {}
    if arguments.second != 0 then
      let name := if socket.family = .machine then peer.name else taken.peerName
      tellName arguments.second arguments.third (nameBytes socket.family name)
    let opened ← install (socketDescription caller flags) (closesOnExec flags)
    return result (if opened = descriptor then descriptor else opened)

def accept : Service := fun arguments => acceptWith arguments 0

def acceptFlagged : Service := fun arguments => acceptWith arguments (low arguments.fourth)

def shutDown : Service := fun arguments => do
  let (number, socket, _) ← openSocket arguments.first
  let how := low arguments.second
  failIf (socket.family = .kernel) .notSupported
  failIf (2 < how) .invalidArgument
  let deaf := how ≠ 1
  let mute := how ≠ 0
  if socket.family = .machine then
    modifySocket number fun socket => { socket with
      deaf := socket.deaf || deaf, mute := socket.mute || mute }
    match socket.peer with
    | some peer =>
      if socket.kind ≠ .datagram then
        modifySocket peer fun socket => { socket with
          deaf := socket.deaf || mute, mute := socket.mute || deaf }
    | none => pure ()
    return 0
  match socket.stage with
  | .listening =>
    if deaf then
      let name := socket.name
      disconnect number
      modifySocket number ({ · with name })
    return 0
  | .connected =>
    if mute && !socket.mute && socket.kind = .stream then modify (·.endStream number)
    modifySocket number fun socket => { socket with
      deaf := socket.deaf || deaf, mute := socket.mute || mute }
    return 0
  | _ =>
    modifySocket number fun socket => { socket with
      deaf := socket.deaf || deaf, mute := socket.mute || mute }
    fail .notConnected

/-! ### Names -/

def tellOwnAddress : Service := fun arguments => do
  let (_, socket, _) ← openSocket arguments.first
  tellName arguments.second arguments.third (nameBytes socket.family socket.name)
  return 0

/-- The bytes of the name of the other end. -/
def peerNameBytes (socket : Socket) : Kernel ByteArray := do
  match socket.family with
  | .machine =>
    let peer ← ofOption socket.peer .notConnected
    return nameBytes .machine (← Kernel.socket peer).name
  | .kernel => return nameBytes .kernel none
  | family =>
    failIf (socket.stage ≠ .connected) .notConnected
    return nameBytes family socket.peerName

def tellPeerAddress : Service := fun arguments => do
  let (_, socket, _) ← openSocket arguments.first
  tellName arguments.second arguments.third (← peerNameBytes socket)
  return 0

end Service

end StaticElf.Linux
