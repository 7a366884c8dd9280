/-
**How connections begin and end.**

* `World.closeSockets` — what becomes of the sockets that nobody has open any more, and of those that they were
  connected to.
* `World.endStream` — one end of a stream says that it sends nothing more.
* `World.isTaken` — whether a name can be given to a socket.
* `World.datagramTarget` — the socket that a message goes to.
-/

import StaticElf.Linux.Arguments
import StaticElf.Linux.SocketSetting

namespace StaticElf.Linux

namespace World

def modifySocket (world : World) (number : Nat) (change : Socket → Socket) : World :=
  { world with sockets := world.sockets.modify number change }

/-! ### The end of a connection -/

/-- Breaks a connection off. -/
def resetSocket (world : World) (number : Nat) : World :=
  world.modifySocket number fun socket =>
    if socket.stage = .connected then
      { socket with
        error := some (if socket.finished && !socket.mute then .brokenPipe else .connectionReset)
        deaf := true
        mute := true
        stage := if socket.family = .machine then .connected else .ended }
    else socket

/-- One end of a stream between hosts says that it sends nothing more. When both have, the connection has
ended. -/
def endStream (world : World) (number : Nat) : World :=
  let socket := world.sockets.getD number {}
  match socket.peer with
  | none => world
  | some peer =>
    let ends := socket.finished
    let ended (socket : Socket) : Socket :=
      if ends && socket.stage = .connected then { socket with stage := .ended, deaf := true, mute := true }
      else socket
    let world := world.modifySocket number fun socket => ended { socket with mute := true }
    world.modifySocket peer fun socket =>
      if socket.stage = .connected then ended { socket with deaf := true, finished := true } else socket

/-- Closes a socket for good. What it was connected to learns of it: that something it sent was not read is
an error. -/
def closeSocket (world : World) (number : Nat) : World :=
  let socket : Socket := world.sockets.getD number {}
  let world := socket.callers.foldl
    (fun (world : World) caller =>
      let world := match (world.sockets.getD caller {}).peer with
        | some peer => world.resetSocket peer
        | none => world
      world.modifySocket caller ({ · with closed := true, received := [] })) world
  let unread := !socket.received.isEmpty
  let ends (peer : Nat) : World :=
    if socket.stage ≠ SocketStage.connected || socket.kind = SocketKind.datagram then world
    else if socket.family = SocketFamily.machine then
      let world := world.modifySocket peer ({ · with deaf := true, mute := true })
      if unread then world.resetSocket peer else world
    else if unread || socket.setValue? Setting.commonLevel 13 = some 0 then world.resetSocket peer
    else world.endStream number
  let world := match socket.peer with
    | none => world
    | some peer => ends peer
  world.modifySocket number ({ · with closed := true, received := [], callers := [] })

/-- The sockets that nobody has open any more and that were not closed. -/
def unheldSockets (world : World) : List Nat :=
  let held := world.openNumbers.filterMap fun number =>
    match (world.descriptions.getD number default).opened with
    | .socket socket => some socket
    | _ => none
  let called := world.sockets.toList.flatMap (·.callers)
  (List.range world.sockets.size).filter fun number =>
    !(world.sockets.getD number {}).closed && !held.contains number && !called.contains number

/-- Closes the sockets that nobody has open any more, so many times. -/
def closeUnheld (world : World) : (times : Nat) → World
  | 0 => world
  | times + 1 =>
    match world.unheldSockets with
    | [] => world
    | unheld => (unheld.foldl closeSocket world).closeUnheld times

/-- Closes the sockets that nobody has open any more. -/
def closeSockets (world : World) : World :=
  if world.sockets.isEmpty then world else world.closeUnheld world.sockets.size

/-! ### Names -/

/-- Whether two names of hosts, the second taken by a socket, can mean the same host. -/
def sameHost (one other : Nat) (oneIsLong otherIsLong : Bool) : Bool :=
  one = other
    || (one = Host.any && !(Host.isShort other && oneIsLong))
    || (other = Host.any && !(Host.isShort one && otherIsLong))
    || (one = Host.anyShort && Host.isShort other)
    || (other = Host.anyShort && Host.isShort one)

/-- Whether a socket is only for hosts with sixteen bytes. -/
def isLongOnly (socket : Socket) : Bool :=
  socket.family = .longHost && socket.value Setting.longHostLevel 26 0 ≠ 0

/-- Whether a host and a port are taken from a socket by another one. -/
def isTaken (world : World) (number address port : Nat) : Bool :=
  let socket := world.sockets.getD number {}
  (List.range world.sockets.size).any fun index =>
    let other := world.sockets.getD index {}
    let both (setting : Nat) : Bool := socket.isOn setting && other.isOn setting
    match other.name with
    | some (.host otherAddress otherPort) =>
      index ≠ number && !other.closed && other.kind = socket.kind && otherPort = port
        && sameHost address otherAddress (isLongOnly socket) (isLongOnly other)
        && !(both 2 && (socket.kind = .datagram || other.stage ≠ .listening)) && !both 15
    | _ => false

/-- Whether another socket takes connections at a port of a socket. -/
def hasListener (world : World) (number port : Nat) : Bool :=
  (List.range world.sockets.size).any fun index =>
    let other := world.sockets.getD index {}
    index ≠ number && !other.closed && other.isRemoteStream && other.stage = .listening
      && other.port = port && world.isTaken number (match (world.sockets.getD number {}).name with
        | some (.host address _) => address
        | _ => Host.any) port

/-- The first port that the kernel gives away, and how many it has. -/
def firstGivenPort : Nat := 32768
def givenPorts : Nat := 28232

/-- A port that no socket of a kind has. -/
def freePort (world : World) (kind : SocketKind) : Nat :=
  let used := world.sockets.toList.filterMap fun socket =>
    if !socket.closed && socket.kind = kind then some socket.port else none
  (((List.range givenPorts).map (· + firstGivenPort)).find? fun port => !used.contains port).getD
    firstGivenPort

/-- Whether messages to a host reach a socket with a name. -/
def reaches (socket : Socket) (address port : Nat) : Bool :=
  match socket.name with
  | some (.host own ownPort) =>
    ownPort = port && (own = address || (own = Host.anyShort && Host.isShort address)
      || (own = Host.any && socket.family = .longHost && !(Host.isShort address && isLongOnly socket)))
  | _ => false

/-- The socket that takes connections to a host and a port. -/
def streamTarget (world : World) (address port : Nat) : Option Nat :=
  (List.range world.sockets.size).find? fun index =>
    let socket := world.sockets.getD index {}
    !socket.closed && socket.isRemoteStream && socket.stage = .listening
      && reaches socket address port

/-- How well a socket fits a message, unless it does not. -/
def fitness (socket : Socket) (address port : Nat) (sender : SocketName) : Nat :=
  if socket.closed || !socket.isRemoteDatagram || !reaches socket address port then 0
  else
    let exact := match socket.name with
      | some (.host own _) => if own = address then 2 else 0
      | _ => 0
    match socket.peerName with
    | none => 1 + exact
    | some peer => if peer = sender then 5 + exact else 0

/-- The socket that a message to a host and a port goes to. -/
def datagramTarget (world : World) (address port : Nat) (sender : SocketName) : Option Nat :=
  let (best, found) := (List.range world.sockets.size).foldl
    (fun (best, found) index =>
      let fit := fitness (world.sockets.getD index {}) address port sender
      if best ≤ fit && 0 < fit then (fit, some index) else (best, found)) (0, none)
  if best = 0 then none else found

/-- The open socket of a kind with a name that does not stand in the file system. -/
def hiddenSocket (world : World) (kind : SocketKind) (text : Bytes) : Option Nat :=
  (List.range world.sockets.size).find? fun index =>
    let socket := world.sockets.getD index {}
    !socket.closed && socket.kind = kind && socket.name = some (.hidden text)

end World

namespace Kernel

def socket (number : Nat) : Kernel Socket := do return (← get).sockets.getD number {}

def modifySocket (number : Nat) (change : Socket → Socket) : Kernel Unit :=
  modify (·.modifySocket number change)

def addSocket (socket : Socket) : Kernel Nat :=
  modifyGet fun world => (world.sockets.size, { world with sockets := world.sockets.push socket })

/-- Closes the sockets that nobody has open any more. -/
def settleSockets : Kernel Unit := modify World.closeSockets

/-- Ends with what went wrong with a socket and was not told yet, if anything. -/
def failOnError (number : Nat) : Kernel Unit := do
  match (← socket number).error with
  | none => pure ()
  | some errno =>
    modifySocket number ({ · with error := none })
    fail errno

/-- The room that is taken by what a socket sent and another one did not read. -/
def roomTaken (number : Nat) : Kernel Nat := do
  let messages := (← get).sockets.toList.flatMap (·.received)
  return messages.foldr
    (fun message room => (if message.origin = some number then message.charge else 0) + room) 0

/-- Puts a message behind those that a socket has received. -/
def enqueue (number : Nat) (message : Message) : Kernel Unit :=
  modifySocket number fun socket => { socket with received := socket.received ++ [message] }

/-- Gives a socket between hosts a port if it has none. -/
def takePort (number : Nat) : Kernel Unit := do
  let socket ← socket number
  if socket.port = 0 then
    let address := match socket.name with
      | some (.host address _) => address
      | _ => if socket.family = .longHost then Host.any else Host.anyShort
    let port := (← get).freePort socket.kind
    modifySocket number ({ · with name := some (.host address port) })

end Kernel

end StaticElf.Linux
