/-
**Moving bytes through sockets.**

* `Sending`, `Kernel.send` — what is to be sent, and how it gets to another socket.
* `Receiving`, `Kernel.receive` — where bytes are to be received, and how they get there.
* `Kernel.sendBytes`, `Kernel.receiveBytes` — what writing to a socket and reading from it do.
-/

import StaticElf.Linux.SocketAddress

namespace StaticElf.Linux

/-- The bytes that are to be sent: those of some ranges of memory, or others. -/
inductive SendSource where
  | memory (spans : List Span)
  | bytes (bytes : ByteArray)

/-- What is to be sent. -/
structure Sending where
  source : SendSource
  nonBlocking : Bool := false
  /-- Whether no signal is sent when nobody reads. -/
  quiet : Bool := false
  /-- Whether the last byte comes before the others. -/
  urgent : Bool := false
  /-- Whether more comes that belongs to the same message. -/
  more : Bool := false
  /-- The bytes of the name that it goes to, if one is given. -/
  name : ByteArray := .empty
  /-- Open files that go with it. -/
  files : List Nat := []
  /-- What is wrong with what goes beside the bytes. -/
  fault : Option Errno := none

/-- Where bytes are to be received. -/
structure Receiving where
  spans : List Span
  nonBlocking : Bool := false
  /-- Whether what is received stays. -/
  peeks : Bool := false
  /-- Whether all of the room is to be filled. -/
  fills : Bool := false
  /-- Whether only a byte is wanted that comes before the others. -/
  urgent : Bool := false

/-- What was received at once. -/
structure Received where
  /-- The number of bytes, and how many there would have been. -/
  count : Nat := 0
  length : Nat := 0
  files : List Nat := []
  sender : Option SocketName := none
  process : Option Nat := none

/-- The number of bytes that are to be sent. -/
def Sending.count (sending : Sending) : Nat :=
  match sending.source with
  | .memory spans => Span.total spans
  | .bytes bytes => bytes.size

namespace Kernel

/-- So many of the bytes that are to be sent, from a place on. There are fewer if they cannot be read. -/
def bytesToSend (sending : Sending) (start count : Nat) : Kernel ByteArray := do
  match sending.source with
  | .memory spans =>
    let behind := (Span.split start spans).2
    gather (Span.split count behind).1 (ByteArray.emptyWithCapacity count)
  | .bytes bytes => return bytes.extract start (start + count)

/-- Ends with an error about an end that nobody reads, and sends the signal for it unless that is not
wanted. -/
def failDeserted {α : Type} (quiet : Bool) : Kernel α :=
  if quiet then fail .brokenPipe else failBroken

/-- The settings for how long is waited. -/
def receiveTime : Nat := 20
def sendTime : Nat := 21

/-- Tries again later, or gives up if that is not wanted or took too long. -/
def waitUnless (number setting : Nat) (nonBlocking : Bool) : Kernel Unit := do
  let limit := (← socket number).value Setting.commonLevel setting 0
  failIf (nonBlocking || limit < 0) .tryAgain
  if limit = 0 then wait
  waitAtMost limit.toNat
  fail .tryAgain

/-- Tries again later, or is content with what is done if there is something. -/
def waitAfter (number setting : Nat) (nonBlocking : Bool) (done : Nat) : Kernel Nat := do
  modifyThread ({ · with progress := done })
  match ← attempt (waitUnless number setting nonBlocking) with
  | .ok () => return done
  | .error errno =>
    failIf (done = 0) errno
    return done

/-! ### Sending -/

/-- Whether a message tells the process that sent it: one of the ends wants that. -/
def tellsProcess (socket other : Socket) : Bool := socket.isOn 16 || other.isOn 16

/-- The number of the running process, if a message tells it. -/
def ownProcessFor (socket other : Socket) : Kernel (Option Nat) := do
  let process ← process
  return if tellsProcess socket other then some process.number else none

/-- Sends pieces of a stream. -/
def sendPieces (number peer : Nat) (sending : Sending) :
    (sizes : List Nat) → (done : Nat) → Kernel Nat
  | [], done => return done
  | size :: sizes, done => do
    let socket ← socket number
    if socket.sendRoom ≤ (← roomTaken number) then
      waitAfter number sendTime sending.nonBlocking done
    else
      let bytes ← bytesToSend sending done size
      if bytes.size < size then
        failIf (done = 0) .badAddress
        return done
      let other ← Kernel.socket peer
      if other.closed || other.deaf then
        if done ≠ 0 then return done
        failDeserted sending.quiet
      enqueue peer {
        bytes
        files := if done = 0 then sending.files else []
        origin := some number
        sender := socket.name
        process := ← ownProcessFor socket other
        charge := Socket.streamCharge size }
      sendPieces number peer sending sizes (done + size)

/-- The sizes of the pieces of so many bytes. -/
def pieceSizes (count most : Nat) : List Nat :=
  let rest := count % most
  List.replicate (count / most) most ++ if rest = 0 then [] else [rest]

/-- Sends bytes in order to a socket of the same machine. -/
def sendStream (number : Nat) (sending : Sending) : Kernel Nat := do
  let socket ← socket number
  let count := sending.count
  failIf (sending.urgent && count = 0) .notSupported
  if sending.name.size ≠ 0 then
    fail (if socket.stage = .connected then .alreadyConnected else .notSupported)
  let peer ← ofOption socket.peer .notConnected
  if socket.mute then failDeserted sending.quiet
  let done := (← thread).progress
  let usual := if sending.urgent then count - 1 else count
  let most := max 1 (min (socket.sendRoom / 2 - 64) Socket.mostAtOnce)
  let sent ← sendPieces number peer sending (pieceSizes (usual - done) most) done
  if !sending.urgent || sent < usual then return sent
  let bytes ← bytesToSend sending usual 1
  failIf (bytes.size = 0) .badAddress
  modifySocket peer ({ · with urgent := some ((bytes.toList).headD 0) })
  return count

/-- How many messages wait at most for a socket that is not connected to their sender. -/
def mostWaiting : Nat := 10

/-- The room of a message that is needed beside its bytes. -/
def messageRoom : Nat := 32

/-- The socket that a message of the same machine goes to. -/
def messageTarget (number : Nat) (name : Option SocketName) : Kernel Nat := do
  let socket ← socket number
  match name with
  | some name => findMachine name socket.kind
  | none =>
    let peer ← ofOption socket.peer .notConnected
    if (← Kernel.socket peer).closed then
      modifySocket number ({ · with peer := none, stage := .idle })
      fail .connectionRefused
    return peer

/-- Sends a message to a socket of the same machine. -/
def sendMessage (number : Nat) (sending : Sending) : Kernel Nat := do
  let socket ← socket number
  let count := sending.count
  failIf (socket.kind = .sequence && socket.stage ≠ .connected) .notConnected
  failIf sending.urgent .notSupported
  let name ← if sending.name.size = 0 || socket.kind = .sequence then pure none
    else some <$> machineName sending.name
  failIf (socket.sendRoom < count + messageRoom) .messageTooLong
  failOnError number
  failIf socket.mute .brokenPipe
  if socket.sendRoom ≤ (← roomTaken number) then
    waitUnless number sendTime sending.nonBlocking
  let bytes ← bytesToSend sending 0 count
  failIf (bytes.size < count) .badAddress
  let target ← messageTarget number name
  let other ← Kernel.socket target
  failIf (other.peer.isSome && other.peer ≠ some number) .notPermitted
  failIf other.deaf .brokenPipe
  if target ≠ number && other.peer ≠ some number && mostWaiting < other.received.length then
    waitUnless number sendTime sending.nonBlocking
  enqueue target {
    bytes
    files := sending.files
    origin := some number
    sender := socket.name
    process := ← ownProcessFor socket other
    charge := Socket.messageCharge count }
  return count

/-- How many bytes of a stream to another host wait at most, if nothing else was set. -/
def mostUnread : Nat := 3919467

/-- The bytes of a stream to another host are taken in pieces of this size. -/
def remotePiece : Nat := 0x8000

/-- Fails if something is wrong with what goes beside the bytes. -/
def failOnFault (sending : Sending) : Kernel Unit := do
  if let some errno := sending.fault then fail errno

/-- Sends bytes in order to another host. The first bytes for an end that nobody has open any more are lost,
and break the connection off. -/
def sendRemoteStream (number : Nat) (sending : Sending) : Kernel Nat := do
  let socket ← socket number
  if socket.stage ≠ .connected then
    failOnError number
    failDeserted sending.quiet
  failOnFault sending
  if socket.error.isSome || socket.mute then
    if socket.error ≠ some .brokenPipe then failOnError number
    modifySocket number ({ · with error := none })
    failDeserted sending.quiet
  let done := (← thread).progress
  let count := sending.count - done
  if count = 0 then return done
  let peer ← ofOption socket.peer .brokenPipe
  let other ← Kernel.socket peer
  let most := match socket.setValue? Setting.commonLevel 7 with
    | some room => room.toNat + other.receiveRoom
    | none => mostUnread
  let waiting := other.length
  if !other.closed && most ≤ waiting then
    waitAfter number sendTime sending.nonBlocking done
  else
    let size := if other.closed then count else min count (most - waiting)
    let readable ← bytesToSend sending done size
    let kept := if readable.size < size then readable.size / remotePiece * remotePiece else size
    let bytes := readable.extract 0 kept
    failIf (bytes.size = 0 && done = 0) .badAddress
    let urgent := sending.urgent && bytes.size = count
    let usual := if urgent then bytes.extract 0 (bytes.size - 1) else bytes
    if other.closed then modify (·.resetSocket number)
    else
      if urgent then modifySocket peer ({ · with urgent := some (bytes.toList.getLastD 0) })
      if usual.size ≠ 0 then enqueue peer { bytes := usual, origin := some number }
    if bytes.size < count && size < count && bytes.size = size then
      waitAfter number sendTime sending.nonBlocking (done + size)
    else return done + bytes.size

/-- The host and the port that a message is for, as given by the bytes of a name. -/
def hostTarget (socket : Socket) (name : ByteArray) : Kernel (Option (Nat × Nat)) := do
  let family := familyIn name
  if socket.family = .shortHost then
    failIf (name.size < 16) .invalidArgument
    failIf (family ≠ SocketFamily.shortHost.number && family ≠ 0) .unknownFamily
    return some (shortHostIn name)
  failIf (name.size < 2) .invalidArgument
  if family = SocketFamily.longHost.number then
    failIf (name.size < 24) .invalidArgument
    return some (longHostIn name)
  if family = SocketFamily.shortHost.number then
    failIf (World.isLongOnly socket) .unreachable
    failIf (name.size < 16) .invalidArgument
    return some (shortHostIn name)
  failIf (family ≠ 0) .invalidArgument
  return none

/-- The most bytes of a message between hosts, with and without what is put before them. -/
def mostRemoteBytes : Nat := 65535

/-- What goes before a message to a host. -/
def remoteHeader (address : Nat) : Nat := if Host.isShort address then 28 else 8

/-- Sends a message to another host. That nobody takes it is only told to a socket that is connected. -/
def sendRemoteMessage (number : Nat) (sending : Sending) : Kernel Nat := do
  let socket ← socket number
  let count := sending.count
  failIf (socket.family = .shortHost && mostRemoteBytes < count) .messageTooLong
  failIf sending.urgent .notSupported
  let given ← if sending.name.size = 0 then pure none else hostTarget socket sending.name
  let (address, port) ← match given, socket.peerName with
    | some given, _ => pure given
    | none, some (.host address port) => pure (address, port)
    | none, _ => fail .noDestination
  failIf (port = 0) .invalidArgument
  failOnFault sending
  takePort number
  failIf (address = Host.allNear && !socket.isOn 6) .permissionDenied
  failIf (Host.isShort address && World.isLongOnly socket) .unreachable
  let address ← routed address
  failOnError number
  failIf socket.mute .brokenPipe
  failIf (mostRemoteBytes < count + socket.held.size + remoteHeader address) .messageTooLong
  let fresh ← bytesToSend sending 0 count
  failIf (fresh.size < count) .badAddress
  let bytes := socket.held ++ fresh
  if sending.more then
    modifySocket number ({ · with held := bytes })
    return count
  let socket ← Kernel.socket number
  let source := match socket.name with
    | some (.host own ownPort) =>
      SocketName.host (if Host.isAny own then sourceFor address else own) ownPort
    | _ => .host Host.any 0
  modifySocket number ({ · with held := .empty })
  match (← get).datagramTarget address port source with
  | none =>
    if socket.peerName.isSome && given.isNone then
      modifySocket number ({ · with error := some .connectionRefused })
  | some target =>
    let charge := Socket.remoteCharge bytes.size
    let other ← Kernel.socket target
    let taken := other.received.foldr (fun message room => message.charge + room) 0
    if taken + charge ≤ other.receiveRoom then
      enqueue target { bytes, sender := some source, charge }
  return count

/-- Sends a message to the kernel. -/
def sendToKernel (number : Nat) (sending : Sending) : Kernel Nat := do
  let socket ← socket number
  let count := sending.count
  failIf sending.urgent .notSupported
  failIf (count = 0) .noData
  failOnFault sending
  if sending.name.size ≠ 0 then
    failIf (sending.name.size < 12) .invalidArgument
    failIf (familyIn sending.name ≠ SocketFamily.kernel.number) .invalidArgument
    failIf (littleEndian sending.name 4 8 != 0) .notPermitted
  failIf (socket.sendRoom < count + messageRoom) .messageTooLong
  let bytes ← bytesToSend sending 0 count
  failIf (bytes.size < count) .badAddress
  return count

/-- Sends bytes. -/
def send (number : Nat) (sending : Sending) : Kernel Nat := do
  settleSockets
  let socket ← socket number
  match socket.family, socket.kind with
  | .machine, .stream => sendStream number sending
  | .machine, _ => sendMessage number sending
  | .kernel, _ => sendToKernel number sending
  | _, .stream => sendRemoteStream number sending
  | _, _ => sendRemoteMessage number sending

/-! ### Receiving -/

/-- Takes so many bytes from the front of what a stream has received. -/
def dropBytes : (count : Nat) → List Message → List Message
  | _, [] => []
  | count, message :: rest =>
    if count = 0 then message :: rest
    else if message.bytes.size ≤ count then dropBytes (count - message.bytes.size) rest
    else { message with bytes := message.bytes.extract count message.bytes.size, files := [] } :: rest

/-- The first bytes of some messages. -/
def firstBytes (count : Nat) (messages : List Message) : ByteArray :=
  messages.foldl
    (fun bytes message => bytes ++ message.bytes.extract 0 (count - bytes.size)) ByteArray.empty

/-- The first messages of a stream that are read at once: all from one process, and no more behind one that
comes with open files. -/
def readTogether (process : Option Nat) : List Message → List Message
  | [] => []
  | message :: rest =>
    if message.process ≠ process then []
    else if message.files.isEmpty then message :: readTogether process rest
    else [message]

/-- Waits until a stream has received something. When nothing more can come, that is said. -/
def awaitStream (number : Nat) (nonBlocking : Bool) (done : Nat) : Kernel Bool := do
  let socket ← socket number
  failIf (socket.family = .machine && socket.stage ≠ .connected) .invalidArgument
  failIf (socket.family ≠ .machine && socket.stage = .listening) .notConnected
  if !socket.received.isEmpty then return true
  if done ≠ 0 && (socket.error.isSome || socket.deaf) then return false
  if socket.finished then return false
  failOnError number
  if socket.deaf then return false
  failIf (socket.family ≠ .machine && socket.stage ≠ .connected) .notConnected
  let _ ← waitAfter number receiveTime nonBlocking done
  return false

/-- Receives bytes in order. -/
def receiveStream (number : Nat) (receiving : Receiving) : Kernel Received := do
  let done := (← thread).progress
  if !(← awaitStream number receiving.nonBlocking done) then return { count := done, length := done }
  let socket ← socket number
  let count := Span.total receiving.spans - done
  let taken := readTogether (socket.received.head?.bind (·.process)) socket.received
  let bytes := firstBytes count taken
  let copied ← scatter bytes (Span.split done receiving.spans).2 0
  failIf (copied = 0 && bytes.size ≠ 0 && done = 0) .badAddress
  if !receiving.peeks then
    modifySocket number ({ · with received := dropBytes copied socket.received })
  let total := done + copied
  let files := taken.flatMap (·.files)
  let received : Received := {
    count := total, length := total, files, process := taken.head?.bind (·.process) }
  if receiving.fills && !receiving.peeks && files.isEmpty && copied = bytes.size && copied < count then
    let rest ← Kernel.socket number
    if !rest.deaf && rest.error.isNone && !receiving.nonBlocking then
      let _ ← waitAfter number receiveTime receiving.nonBlocking total
  return received

/-- The byte that comes before the others. -/
def receiveUrgent (number : Nat) (receiving : Receiving) : Kernel Received := do
  let socket ← socket number
  failIf (socket.isOn 10) .invalidArgument
  let byte ← ofOption socket.urgent .invalidArgument
  if !receiving.peeks then modifySocket number ({ · with urgent := none })
  if Span.total receiving.spans = 0 then return {}
  let copied ← scatter ⟨#[byte]⟩ receiving.spans 0
  failIf (copied = 0) .badAddress
  return { count := 1, length := 1 }

/-- Receives a message. -/
def receiveMessage (number : Nat) (receiving : Receiving) : Kernel Received := do
  let socket ← socket number
  failIf (socket.kind = .sequence && socket.stage ≠ .connected) .notConnected
  failIf (receiving.urgent && socket.family = .machine) .notSupported
  failOnError number
  match socket.received with
  | [] =>
    if socket.deaf && (socket.kind = .sequence || !receiving.nonBlocking) then return {}
    waitUnless number receiveTime receiving.nonBlocking
    return {}
  | first :: rest =>
    if !receiving.peeks then modifySocket number ({ · with received := rest })
    let bytes := first.bytes.extract 0 (Span.total receiving.spans)
    let copied ← scatter bytes receiving.spans 0
    failIf (copied < bytes.size) .badAddress
    return { count := copied, length := first.bytes.size, files := first.files,
             sender := first.sender, process := first.process }

/-- Receives bytes. -/
def receive (number : Nat) (receiving : Receiving) : Kernel Received := do
  settleSockets
  let socket ← socket number
  if socket.kind ≠ .stream then receiveMessage number receiving
  else if receiving.urgent then
    failIf (socket.family = .machine && socket.stage ≠ .connected) .invalidArgument
    failIf (socket.stage = .listening) .notConnected
    receiveUrgent number receiving
  else receiveStream number receiving

/-! ### Reading and writing -/

/-- Sends the bytes of some ranges. -/
def sendBytes (number : Nat) (nonBlocking : Bool) (spans : List Span) : Kernel Nat :=
  send number { source := .memory spans, nonBlocking }

/-- Sends bytes that do not stand in memory. -/
def sendGathered (number : Nat) (bytes : ByteArray) : Kernel Nat := send number { source := .bytes bytes }

/-- Receives bytes into some ranges. -/
def receiveBytes (number : Nat) (nonBlocking : Bool) (spans : List Span) : Kernel Nat := do
  if Span.total spans = 0 then return 0
  return (← receive number { spans, nonBlocking }).count

end Kernel

end StaticElf.Linux
