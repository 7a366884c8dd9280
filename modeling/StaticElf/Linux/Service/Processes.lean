/-
**Processes behind file descriptors, and looking into other processes.**

* `Service.openProcess`, `Service.signalOpened`, `Service.takeDescriptor` — file descriptors that stand for
  processes.
* `Service.readOther`, `Service.writeOther` — the memory of another process.
* `Service.compare` — whether two threads share something.
* `Service.makeBarrier`, `Service.registerRestarts` — the order of what threads do.
-/

import StaticElf.Linux.Peer
import StaticElf.Linux.Service.Advice
import StaticElf.Linux.Threads

namespace StaticElf.Linux

namespace Kernel

/-- The process behind a file descriptor, and the thread if it stands for a single one. -/
def processBehind (descriptor : UInt64) : Kernel (Option Nat × Option Nat) := do
  let own ← thread
  match lowSigned descriptor with
  | -10000 => return (some own.process, some (← get).current)
  | -20000 => return (some own.process, none)
  | _ =>
    let (_, description) ← opened (low descriptor)
    match description.opened with
    | .process index alone => return (index, alone)
    | _ => fail .badDescriptor

/-- A process that is known and of which something is left. -/
def remaining (index : Option Nat) : Kernel Nat := do
  let index ← ofOption index .notPermitted
  failIf ((← get).processes.getD index {}).told .noProcess
  return index

/-- An action on the memory of another address space. -/
def inSpace {α : Type} (space : Nat) (action : Kernel α) : Kernel α := do
  let own := (← thread).space
  modifyThread ({ · with space })
  let outcome ← attempt action
  modifyThread ({ · with space := own })
  ofExcept outcome

/-- The first ranges that lie in memory to which there is an access, as far as they do. -/
def accessible (space : Space) (access : Nat) : List Span → List Span
  | [] => []
  | span :: spans =>
    let stop := span.start + span.length
    let reached := (space.within span.start stop).foldl
      (fun reached mapping =>
        if mapping.start ≤ reached && mapping.access &&& access ≠ 0 then max reached mapping.stop
        else reached) span.start
    if span.length = 0 then accessible space access spans
    else if reached < stop then [⟨span.start, reached - span.start⟩]
    else span :: accessible space access spans

/-- The ranges of a list in memory that belong to another process. -/
def otherSpans (list count : UInt64) : Kernel (List Span) := do
  let count := count.toNat
  failIf (1024 < count) .invalidArgument
  let numbers ← readNumbers list (2 * count)
  let spans := (List.range count).map fun i =>
    { start := (numbers.getD (2 * i) 0).toNat, length := (numbers.getD (2 * i + 1) 0).toNat : Span }
  failIf (spans.any fun span => 0x8000000000000000 ≤ span.length) .invalidArgument
  return spans

end Kernel

namespace Service

open Kernel

/-! ### Processes behind file descriptors -/

def openProcess : Service := fun arguments => do
  let flags := low arguments.second
  let number := lowSigned arguments.first
  failIf (flags &&& 0x880 ≠ flags || number ≤ 0) .invalidArgument
  let world ← get
  let alone := flags &&& OpenFlags.exclusive ≠ 0
  let process := world.processes.findIdx? fun process =>
    (process.number : Int) = number && !process.told
  let thread := (List.range world.threads.size).find? fun index =>
    ((world.threads.getD index {}).number : Int) = number && (world.isAlive index || process.isSome)
  failIf (process.isNone && thread.isSome && !alone) .noEntry
  failIf (process.isNone && thread.isNone && number ≠ 1) .noProcess
  let owner := process.orElse fun _ => thread.map fun index => (world.threads.getD index {}).process
  let description : Description := {
    opened := .process owner (if alone then thread else none)
    flags := OpenFlags.readWrite ||| flags }
  return result (← install description true)

def signalOpened : Service := fun arguments => do
  let flags := low arguments.fourth
  let signal := low arguments.second
  failIf (!([0, 1, 2, 4].contains flags)) .invalidArgument
  let (process, alone) ← processBehind arguments.first
  let own ← thread
  let toThread := flags = 1 || (flags = 0 && alone.isSome)
  let info ← if arguments.third = 0 then ownSignal signal (if toThread then -6 else 0)
    else do
      let info ← readInfo arguments.third signal
      failIf ((← readNumber arguments.third 4) != result signal) .invalidArgument
      failIf ((process ≠ some own.process || flags = 4) && (0 ≤ info.code || info.code = -6))
        .notPermitted
      pure info
  match process with
  | none =>
    failIf (64 < signal) .invalidArgument
    return 0
  | some _ =>
    let index ← remaining process
    let world ← get
    failIf (64 < signal) .invalidArgument
    if signal ≠ 0 then
      if toThread then
        let first := (world.threadsOf index).head?
        modify (·.sendToThread (alone.getD (first.getD 0)) info)
      else if flags = 4 then
        let number := (world.processes.getD index {}).number
        return ← sendTo (-(number : Int)) signal info
      else modify (·.send index info)
    return 0

def takeDescriptor : Service := fun arguments => do
  failIf (low arguments.third ≠ 0) .invalidArgument
  let (_, description) ← opened (low arguments.first)
  let index ← match description.opened with
    | .process index _ => remaining index
    | _ => fail .badDescriptor
  let world ← get
  let thread ← ofOption (world.threadsOf index).head? .noProcess
  let table := world.tables.getD (world.threads.getD thread {}).descriptors {}
  let binding ← ofOption table[low arguments.second]? .badDescriptor
  let target ← freeDescriptor 0
  modifyDescriptors (·.insert target ⟨binding.description, true⟩)
  return result target

def releaseMemory : Service := fun arguments => do
  failIf (low arguments.second ≠ 0) .invalidArgument
  let (process, _) ← processBehind arguments.first
  let index ← remaining process
  failIf ((← get).threadsOf index).isEmpty .noProcess
  fail .invalidArgument

def adviseOther : Service := fun arguments => do
  failIf (low arguments.fifth ≠ 0) .invalidArgument
  let spans ← listedSpans arguments.second arguments.third
  let (process, _) ← processBehind arguments.first
  let index ← remaining process
  failIf (index ≠ (← thread).process) .notPermitted
  let advice := arguments.fourth
  let mut done := 0
  for span in spans do
    let outcome ← attempt (advise { arguments with
      first := UInt64.ofNat span.start, second := UInt64.ofNat span.length, third := advice })
    match outcome with
    | .ok _ => done := done + span.length
    | .error errno =>
      failIf (done = 0) errno
      return result done
  return result done

/-! ### The memory of other processes -/

/-- The address space of a thread that may be looked into, and the ranges there and here. -/
def otherMemory (arguments : Arguments) : Kernel (Option (Nat × List Span × List Span)) := do
  failIf (arguments.sixth != 0) .invalidArgument
  let here ← listedSpans arguments.second arguments.third
  if Span.total here = 0 then return none
  let there ← otherSpans arguments.fourth arguments.fifth
  if Span.total there = 0 then return none
  let number := lowSigned arguments.first
  failIf (number = 0) .noProcess
  let index ← visible number
  return some (((← get).threads.getD index {}).space, here, there)

def readOther : Service := fun arguments => do
  match ← otherMemory arguments with
  | none => return 0
  | some (space, here, there) =>
    let known := accessible ((← get).spaces.getD space {}) 1 there
    let wanted := (Span.split (Span.total here) known).1
    let bytes ← inSpace space (gather wanted ByteArray.empty)
    let count ← scatter bytes here 0
    failIf (count = 0) .badAddress
    return result count

def writeOther : Service := fun arguments => do
  match ← otherMemory arguments with
  | none => return 0
  | some (space, here, there) =>
    let known := accessible ((← get).spaces.getD space {}) 2 there
    let bytes ← gather (Span.split (Span.total known) here).1 ByteArray.empty
    let count ← inSpace space (scatter bytes known 0)
    failIf (count = 0) .badAddress
    return result count

/-- Whether two threads share something: equal (0), or in which order it is kept. -/
def compare : Service := fun arguments => do
  let first := lowSigned arguments.first
  let second := lowSigned arguments.second
  failIf (first = 0 || second = 0) .noProcess
  let one ← peerNumbered first
  let other ← peerNumbered second
  let world ← get
  match one, other with
  | .inside one, .inside other =>
    let left := world.threads.getD one {}
    let right := world.threads.getD other {}
    let order (a b : Nat) : UInt64 := if a = b then 0 else if a < b then 1 else 2
    let behind (thread : Thread) (descriptor : UInt64) : Option Nat :=
      ((world.tables.getD thread.descriptors {})[low descriptor]?).map (·.description)
    match low arguments.third with
    | 0 =>
      let a ← ofOption (behind left arguments.fourth) .badDescriptor
      let b ← ofOption (behind right arguments.fifth) .badDescriptor
      return order a b
    | 1 => return order left.space right.space
    | 2 => return order left.descriptors right.descriptors
    | 3 => return order left.place right.place
    | 4 => return order left.dispositions right.dispositions
    | 5 | 6 => return 0
    | 7 =>
      let _ ← readMemory arguments.fifth 12
      fail .badDescriptor
    | _ => fail .invalidArgument
  | _, _ => fail .notPermitted

/-! ### The order of what threads do -/

/-- Holds up threads until all see what was written before. Some ways have to be announced first. -/
def makeBarrier : Service := fun arguments => do
  let command := low arguments.first
  let flags := low arguments.second
  failIf (flags ≠ 0 && !(command = 128 && flags = 1)) .invalidArgument
  let announced := (← space).barriers
  match command with
  | 0 => return 1023
  | 1 | 2 => return 0
  | 4 | 16 | 64 | 256 =>
    modifySpace ({ · with barriers := announced ||| command })
    return 0
  | 8 | 32 | 128 =>
    failIf (announced &&& (2 * command) = 0) .notPermitted
    return 0
  | 512 => return result announced
  | _ => fail .invalidArgument

/-- Says where a thread is told which processor runs it, and that code there is made again. -/
def registerRestarts : Service := fun arguments => do
  let place := arguments.first
  let length := low arguments.second
  let flags := low arguments.third
  let mark := low arguments.fourth
  match (← thread).restarts, flags with
  | some (place', length', mark'), 1 =>
    failIf (place ≠ place' || length ≠ length') .invalidArgument
    failIf (mark ≠ mark') .notPermitted
    writeMemory place (wordBytes 4 0 ++ wordBytes 4 0xffffffff)
    writeNumbers (place + 16) [0]
    modifyThread ({ · with restarts := none })
    return 0
  | some (place', length', mark'), 0 =>
    failIf (place ≠ place' || length ≠ length') .invalidArgument
    failIf (mark ≠ mark') .notPermitted
    fail .busy
  | none, 0 =>
    failIf (length < 32 || place % 32 != 0) .invalidArgument
    failIf (addressLimit < place.toNat + length) .badAddress
    writeMemory place (padded ByteArray.empty 28)
    modifyThread ({ · with restarts := some (place, length, mark) })
    return 0
  | _, _ => fail .invalidArgument

end Service

end StaticElf.Linux
