/-
**Waiting for open files.**

* `Kernel.readiness` — what can be done with an open file without waiting.
* `Service.poll`, `Service.select` — waiting for files that are listed in the call.
* `Service.makeWatch`, `Service.changeWatch`, `Service.awaitWatch` — waiting for files that were listed
  before.
-/

import StaticElf.Linux.Service.Descriptors
import StaticElf.Linux.Service.Time

namespace StaticElf.Linux

namespace Readiness

/-- It can be read. -/
def input : Nat := 0x1
def urgentInput : Nat := 0x2
def output : Nat := 0x4
def error : Nat := 0x8
def hangUp : Nat := 0x10
def invalid : Nat := 0x20
def usualInput : Nat := 0x40
def usualOutput : Nat := 0x100
def outputBand : Nat := 0x200
def inputHangUp : Nat := 0x2000

def reads : Nat := input ||| usualInput
def writes : Nat := output ||| usualOutput

/-- What holds of a file with which everything can be done. -/
def always : Nat := reads ||| writes

end Readiness

namespace Kernel

open Readiness

/-- Some of the bits, if a condition holds. -/
def bitsIf (condition : Bool) (bits : Nat) : Nat := if condition then bits else 0

/-- What can be done with an end of a pipe. -/
def pipeReadiness (number : Nat) (readEnd writeEnd : Bool) : Kernel Nat := do
  let pipe ← pipe number
  let world ← get
  let reading := bitsIf (!pipe.slots.isEmpty) reads
    ||| bitsIf (!world.hasWriter number) hangUp
  let writing := bitsIf (!pipe.isFull) writes
    ||| bitsIf (!world.hasReader number) error
  return bitsIf readEnd reading ||| bitsIf writeEnd writing

/-- Whether something can be sent without waiting to a socket of the same machine. -/
def mayBeSent (number : Nat) (socket : Socket) : Kernel Bool := do
  let enough := 4 * (← roomTaken number) ≤ socket.sendRoom
  match socket.peer with
  | some peer =>
    let other ← Kernel.socket peer
    let full := socket.kind = .datagram && other.peer ≠ some number
      && mostWaiting < other.received.length
    return enough && !full
  | none => return enough

/-- What can be done with a socket. -/
def socketReadiness (number : Nat) : Kernel Nat := do
  settleSockets
  let socket ← socket number
  let both := socket.deaf && socket.mute
  let stream := socket.isRemoteStream
  let idle := socket.stage = .idle || socket.stage = .ended
  let listening := socket.stage = .listening
  if listening && stream then return bitsIf (!socket.callers.isEmpty) reads
  let waits := !socket.received.isEmpty || !socket.callers.isEmpty
  let ends := both || (idle && socket.kind ≠ .datagram)
  let sends ← if socket.family = .machine then mayBeSent number socket
    else if !stream then pure true
    else match socket.peer with
      | some peer => pure ((← Kernel.socket peer).length < mostUnread)
      | none => pure true
  return bitsIf (waits || socket.deaf) reads
    ||| bitsIf socket.deaf inputHangUp
    ||| bitsIf socket.error.isSome error
    ||| bitsIf socket.urgent.isSome urgentInput
    ||| bitsIf ends hangUp
    ||| bitsIf (!listening && sends) (writes ||| bitsIf (!stream) outputBand)

/-- What can be done with an open file that watches no others. -/
def plainReadiness (opened : Opened) : Kernel Nat := do
  match opened with
  | .node _ | .memory .. => return always
  | .pipe number readEnd writeEnd => pipeReadiness number readEnd writeEnd
  | .socket number => socketReadiness number
  | .counter value _ =>
    return bitsIf (0 < value) input ||| bitsIf (value < 0xfffffffffffffffe) output
  | .timer due interval rang =>
    let (times, _) := rung due interval (← get).clock
    return bitsIf (0 < rang + times) input
  | .signals set =>
    let infos := (← thread).pending ++ (← process).pending
    return bitsIf (infos.any fun info => Signal.isIn info.signal set) input
  | .process (some index) alone =>
    let world ← get
    let process := world.processes.getD index {}
    let ended := match alone with
      | some thread => !world.isAlive thread
      | none => process.ended.isSome
    return bitsIf ended reads ||| bitsIf process.told hangUp
  | .process none _ | .watch _ | .other => return 0

/-- What is always told, whether it was asked for or not. -/
def alwaysTold : Nat := error ||| hangUp

/-- The files of a watch with which something can be done that was asked for, and what. -/
def readyInterests (interests : List Interest) : Kernel (List (Interest × Nat)) := do
  let open_ := (← get).openNumbers
  let mut found := []
  for interest in interests do
    if open_.contains interest.description && !interest.silent then
      let ready ← plainReadiness (← description interest.description).opened
      let told := ready &&& (interest.events ||| alwaysTold)
      if told ≠ 0 then found := found ++ [(interest, told)]
  return found

/-- What can be done with an open file without waiting. -/
def readiness (description : Description) : Kernel Nat := do
  match description.opened with
  | .watch interests => return bitsIf (!(← readyInterests interests).isEmpty) reads
  | opened => plainReadiness opened

/-- What can be done with what is behind a file descriptor. -/
def descriptorReadiness (descriptor : Nat) : Kernel (Option Nat) := do
  match ← attempt (opened descriptor) with
  | .ok (_, description) => return some (← readiness description)
  | .error _ => return none

/-- Waits at most for some time, or without end. -/
def waitUntil (limit : Option Nat) : Kernel Unit :=
  match limit with
  | none => wait
  | some limit => waitAtMost limit

/-- A time limit in thousandths of a second; a negative one is none. -/
def limitOf (milliseconds : Int) : Option Nat :=
  if milliseconds < 0 then none else some (milliseconds.toNat * 1000000)

/-- An action during which other signals are blocked, as long as it waits. -/
def withBlocked (address length : UInt64) (action : Kernel UInt64) : Kernel UInt64 := do
  if address = 0 then return ← action
  failIf (length != 8) .invalidArgument
  let set := (← readNumber address 8) &&& ~~~Signal.untouchable
  modifyThread fun thread => { thread with
    saved := some (thread.saved.getD thread.blocked)
    blocked := set }
  let restore : Kernel Unit := modifyThread fun thread => { thread with
    blocked := thread.saved.getD thread.blocked
    saved := none }
  tryCatch
    (do
      let value ← action
      restore
      return value)
    fun
      | .error errno => do
        restore
        throw (.error errno)
      | stop => throw stop

/-! ### Listed files -/

/-- One file of a list: its descriptor, and what is asked for. -/
structure Listed where
  descriptor : Nat
  events : Nat

/-- What can be done with a listed file. -/
def Listed.ready (listed : Listed) : Kernel Nat := do
  if 0x80000000 ≤ listed.descriptor then return 0
  match ← descriptorReadiness listed.descriptor with
  | none => return invalid
  | some ready => return ready &&& (listed.events ||| alwaysTold)

/-- The files that are listed in memory. -/
def readListedFiles (address : UInt64) (count : Nat) : Kernel (List Listed) := do
  let bytes ← readMemory address (8 * count)
  return (List.range count).map fun index =>
    { descriptor := (littleEndian bytes (8 * index) 4).toNat
      events := (littleEndian bytes (8 * index + 4) 2).toNat }

/-- Waits until something can be done with a listed file. -/
def pollFiles (address : UInt64) (count : Nat) (limit : Option Nat) : Kernel UInt64 := do
  failIf ((← process).limit .openFiles < count) .invalidArgument
  let listed ← readListedFiles address count
  let ready ← listed.mapM Listed.ready
  let found := (ready.filter (· ≠ 0)).length
  if found = 0 then waitUntil limit
  let places := ready.zipIdx
  for (events, index) in places do
    writeNumber (address + UInt64.ofNat (8 * index + 6)) 2 (result events)
  return result found

/-! ### Sets of files -/

/-- The set that stands in memory, of so many bytes. -/
def readSet (address : UInt64) (length : Nat) : Kernel (Option ByteArray) :=
  if address = 0 then return none else some <$> readMemory address length

/-- Whether a file descriptor is in a set. -/
def isInSet (set : Option ByteArray) (descriptor : Nat) : Bool :=
  match set with
  | none => false
  | some bytes => (bytes[descriptor / 8]?.getD 0) >>> UInt8.ofNat (descriptor % 8) &&& 1 == 1

/-- The set of some file descriptors, of so many bytes. -/
def setOf (descriptors : List Nat) (length : Nat) : ByteArray :=
  descriptors.foldl
    (fun bytes descriptor =>
      bytes.set! (descriptor / 8)
        ((bytes[descriptor / 8]?.getD 0) ||| (1 <<< UInt8.ofNat (descriptor % 8))))
    ⟨Array.replicate length 0⟩

/-- The bits that stand for being ready in each of three sets. -/
def setBits : List Nat := [0x1 ||| 0x40 ||| 0x80 ||| 0x10 ||| 0x8, 0x4 ||| 0x100 ||| 0x200 ||| 0x8, 0x2]

/-- Waits until something can be done with a file of one of three sets. -/
def selectFiles (count : Int) (addresses : List UInt64) (limit : Option Nat) : Kernel UInt64 := do
  failIf (count < 0) .invalidArgument
  let count := min count.toNat 1024
  let length := (count + 63) / 64 * 8
  let sets ← addresses.mapM (readSet · length)
  let asked := (List.range count).filter fun descriptor => sets.any (isInSet · descriptor)
  let ready ← asked.mapM fun descriptor => do
    let state ← ofOption (← descriptorReadiness descriptor) .badDescriptor
    return (descriptor, state)
  let found : List (List Nat) := (sets.zip setBits).map fun (set, bits) =>
    (ready.filter fun (descriptor, state) =>
      isInSet set descriptor && state &&& bits ≠ 0).map (·.1)
  let total : Nat := found.foldl (fun total descriptors => total + descriptors.length) 0
  if total = 0 then waitUntil limit
  for (address, descriptors) in addresses.zip found do
    if address != 0 then writeMemory address (setOf descriptors length)
  return result total

/-! ### Watches -/

/-- The watch behind a file descriptor. -/
def watchOf (descriptor : Nat) : Kernel (Nat × List Interest) := do
  let (number, description) ← opened descriptor
  match description.opened with
  | .watch interests => return (number, interests)
  | _ => fail .invalidArgument

/-- Whether an open file can be watched. -/
def canBeWatched (description : Description) : Kernel Bool := do
  match description.opened with
  | .memory .. => return false
  | .node node =>
    match (← files).kind? node with
    | some (.directory ..) | some (.file (.regular _)) => return false
    | _ => return true
  | _ => return true

/-- The flag to tell a state once. -/
def tellOnce : Nat := 0x40000000
/-- The flag to tell only changes. -/
def tellChanges : Nat := 0x80000000

def setInterests (number : Nat) (interests : List Interest) : Kernel Unit :=
  modifyDescription number ({ · with opened := .watch interests })

/-- Waits until something can be done with a watched file, and tells it. -/
def awaitInterests (descriptor : Nat) (address : UInt64) (most : Int) (limit : Option Nat) :
    Kernel UInt64 := do
  failIf (most ≤ 0 || 0xaaaaaaa < most) .invalidArgument
  failIf (addressLimit < address.toNat + 12 * most.toNat) .badAddress
  let (number, interests) ← watchOf descriptor
  let ready := (← readyInterests interests).take most.toNat
  if ready.isEmpty then
    waitUntil limit
    return 0
  writeMemory address (ready.foldl
    (fun bytes (interest, told) => bytes ++ wordBytes 4 (result told) ++ wordBytes 8 interest.data)
    ByteArray.empty)
  setInterests number (interests.map fun interest =>
    if ready.any (·.1 = interest) && interest.events &&& (tellOnce ||| tellChanges) ≠ 0 then
      { interest with silent := true }
    else interest)
  return result ready.length

end Kernel

namespace Service

open Kernel

/-- A time limit in memory, in seconds and nanoseconds. -/
def readLimitTime (address : UInt64) : Kernel (Option Nat) := do
  if address = 0 then return none else some <$> readTime address

/-- The time that is left of a time limit. -/
def timeLeft (limit : Nat) : Kernel Nat := do
  match (← thread).deadline with
  | some deadline => return deadline - (← get).clock
  | none => return limit

/-- An action with a time limit in memory: what is left of it is told there, in units of which a second
has so many. -/
def tellingTimeLeft (address : UInt64) (limit : Option Nat) (unit : Nat) (action : Kernel UInt64) :
    Kernel UInt64 := do
  let value ← action
  match limit with
  | none | some 0 => pure ()
  | some limit =>
    let left ← timeLeft limit
    let _ ← attempt (writeNumbers address
      [result (left / 1000000000), result (left % 1000000000 / (1000000000 / unit))])
  return value

def poll : Service := fun arguments =>
  pollFiles arguments.first (low arguments.second) (limitOf (lowSigned arguments.third))

def pollBlocking : Service := fun arguments => do
  let limit ← readLimitTime arguments.third
  withBlocked arguments.fourth arguments.fifth
    (tellingTimeLeft arguments.third limit 1000000000
      (pollFiles arguments.first (low arguments.second) limit))

def select : Service := fun arguments => do
  let limit ← if arguments.fifth = 0 then pure none
    else (do
      let numbers ← readNumbers arguments.fifth 2
      failIf (isNegative (numbers.getD 0 0) || isNegative (numbers.getD 1 0)) .invalidArgument
      pure (some ((numbers.getD 0 0).toNat * 1000000000 + (numbers.getD 1 0).toNat * 1000)))
  tellingTimeLeft arguments.fifth limit 1000000
    (selectFiles (lowSigned arguments.first)
      [arguments.second, arguments.third, arguments.fourth] limit)

def selectBlocking : Service := fun arguments => do
  let limit ← readLimitTime arguments.fifth
  let (set, length) ← if arguments.sixth = 0 then pure (0, 0)
    else (do
      let numbers ← readNumbers arguments.sixth 2
      pure (numbers.getD 0 0, numbers.getD 1 0))
  withBlocked set length
    (tellingTimeLeft arguments.fifth limit 1000000000
      (selectFiles (lowSigned arguments.first)
        [arguments.second, arguments.third, arguments.fourth] limit))

def makeWatchWith (flags : Nat) : Kernel UInt64 := do
  failIf (flags ≠ 0 && flags ≠ OpenFlags.closeOnExec) .invalidArgument
  return result (← install { opened := .watch [], flags := OpenFlags.readWrite } (flags ≠ 0))

def makeWatch : Service := fun arguments => do
  failIf (lowSigned arguments.first ≤ 0) .invalidArgument
  makeWatchWith 0

def makeWatchFlagged : Service := fun arguments => makeWatchWith (low arguments.first)

def changeWatch : Service := fun arguments => do
  let command := low arguments.second
  let descriptor := low arguments.third
  let event ← if command = 2 then pure ⟨Array.replicate 12 0⟩ else readMemory arguments.fourth 12
  let _ ← opened (low arguments.first)
  let (target, description) ← opened descriptor
  failIf (!(← canBeWatched description)) .notPermitted
  let (number, interests) ← watchOf (low arguments.first)
  failIf (number = target) .invalidArgument
  let interest : Interest := {
    descriptor
    description := target
    events := (littleEndian event 0 4).toNat
    data := littleEndian event 4 8 }
  let same (other : Interest) : Bool :=
    other.descriptor = descriptor && other.description = target
  let known := interests.any same
  match command with
  | 1 =>
    failIf known .alreadyThere
    setInterests number (interests ++ [interest])
  | 2 =>
    failIf (!known) .noEntry
    setInterests number (interests.filter fun other => !same other)
  | 3 =>
    failIf (!known) .noEntry
    setInterests number (interests.map fun other => if same other then interest else other)
  | _ => fail .invalidArgument
  return 0

def awaitWatch : Service := fun arguments =>
  awaitInterests (low arguments.first) arguments.second (lowSigned arguments.third)
    (limitOf (lowSigned arguments.fourth))

def awaitWatchBlocking : Service := fun arguments =>
  withBlocked arguments.fifth arguments.sixth (awaitWatch arguments)

def awaitWatchUntil : Service := fun arguments => do
  let limit ← readLimitTime arguments.fourth
  withBlocked arguments.fifth arguments.sixth
    (awaitInterests (low arguments.first) arguments.second (lowSigned arguments.third) limit)

end Service

end StaticElf.Linux
