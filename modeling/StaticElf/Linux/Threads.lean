/-
**Making threads and processes, ending them, and waiting for them.**

* `CloneRequest` — what a new thread shares with the one that makes it.
* `Kernel.clone` — makes a thread.
* `Service.fork`, `Service.exit`, `Service.waitFor`, … — the system calls.
-/

import StaticElf.Linux.Queue

namespace StaticElf.Linux

/-- What is asked for when a thread is made. -/
structure CloneRequest where
  flags : UInt64
  stack : UInt64 := 0
  parentNumber : UInt64 := 0
  childNumber : UInt64 := 0
  descriptor : UInt64 := 0
  base : UInt64 := 0
  endSignal : Nat := Signal.child

namespace CloneRequest

def space : UInt64 := 0x100
def place : UInt64 := 0x200
def descriptors : UInt64 := 0x400
def dispositions : UInt64 := 0x800
def withDescriptor : UInt64 := 0x1000
def suspends : UInt64 := 0x4000
def sibling : UInt64 := 0x8000
def thread : UInt64 := 0x10000
def setsBase : UInt64 := 0x80000
def tellsParent : UInt64 := 0x100000
def clearsChild : UInt64 := 0x200000
def tellsChild : UInt64 := 0x1000000
/-- What needs more privileges than a program has: names of its own. -/
def ownNames : UInt64 := 0x7e020000

/-- Whether something is asked for. -/
def has (request : CloneRequest) (flag : UInt64) : Bool := request.flags &&& flag != 0

/-- Whether a request makes sense: handling signals in common needs common memory, and being a thread of
the same process needs handling signals in common. -/
def isSound (request : CloneRequest) : Bool :=
  (!request.has dispositions || request.has space)
    && (!request.has thread || request.has dispositions)

end CloneRequest

namespace Kernel

/-- The most threads at one time. -/
def mostThreads : Nat := 8192

/-- A number that no thread has had. -/
def freshNumber : Kernel Nat := do return 4242 + (← get).threads.size

/-- A copy of an element at the end of an array, unless it is shared. -/
def shareOrCopy {α : Type} (items : Array α) (index : Nat) (shares : Bool) (empty : α)
    (copy : α → α) : Array α × Nat :=
  if shares then (items, index) else (items.push (copy (items.getD index empty)), items.size)

/-- The process of a new thread. -/
def processFor (request : CloneRequest) (number : Nat) : Kernel Nat := do
  let own := (← thread).process
  if request.has CloneRequest.thread then return own
  let process ← process
  let child : Process := { process with
    number
    parent := if request.has CloneRequest.sibling then process.parent else some own
    endSignal := if request.has CloneRequest.sibling then process.endSignal else request.endSignal
    ended := none
    told := false
    ending := none
    pending := []
    alarm := {}
    virtualAlarm := {}
    profileAlarm := {}
    madeAlarms := []
    adopts := false }
  modifyGet fun world =>
    (world.processes.size, { world with processes := world.processes.push child })

/-- Makes a thread and gives its index. -/
def makeThread (request : CloneRequest) (number : Nat) : Kernel Nat := do
  let parent ← thread
  let process ← processFor request number
  let sharesSpace := request.has CloneRequest.space
  modifyGet fun world =>
    let (spaces, space) := shareOrCopy world.spaces parent.space sharesSpace {} Space.forked
    let (tables, descriptors) := shareOrCopy world.tables parent.descriptors
      (request.has CloneRequest.descriptors) {} id
    let (places, place) := shareOrCopy world.places parent.place
      (request.has CloneRequest.place) {} id
    let (all, dispositions) := shareOrCopy world.dispositions parent.dispositions
      (request.has CloneRequest.dispositions) .usual id
    let cpu := world.cpu.set X86.ax 0
    let cpu := if request.stack = 0 then cpu else cpu.set X86.sp request.stack
    let cpu := if request.has CloneRequest.setsBase then { cpu with fsBase := request.base } else cpu
    let child : Thread := { parent with
      process, number, cpu, space, descriptors, place, dispositions
      activity := .running
      deadline := none
      progress := 0
      queueing := .free
      saved := none
      pending := []
      status := 0
      stack := if sharesSpace && !request.has CloneRequest.suspends then {} else parent.stack
      interception := none
      clearedAtEnd :=
        if request.has CloneRequest.clearsChild then request.childNumber else 0
      lockList := 0
      parentSignal := 0
      restarts := if sharesSpace then none else parent.restarts
      schedule := parent.schedule.forked }
    (world.threads.size, { world with
      spaces, tables, places
      dispositions := all
      threads := world.threads.push child })

/-- An action on the memory of another thread. -/
def asThread {α : Type} (index : Nat) (action : Kernel α) : Kernel α := do
  let current := (← get).current
  modify fun world => { world with current := index }
  let outcome ← attempt action
  modify fun world => { world with current }
  ofExcept outcome

/-- Makes a thread as it is asked for, and gives its number. -/
def clone (request : CloneRequest) : Kernel UInt64 := do
  failIf (!request.isSound) .invalidArgument
  failIf (request.has CloneRequest.ownNames) .notPermitted
  failIf (mostThreads ≤ (← get).threads.size) .tryAgain
  let number ← freshNumber
  if request.has CloneRequest.withDescriptor then
    let world ← get
    let own := (← thread).process
    let (process, alone) := if request.has CloneRequest.thread
      then (own, some world.threads.size) else (world.processes.size, none)
    let descriptor ← install
      { opened := .process (some process) alone
        flags := OpenFlags.readWrite ||| (if alone.isSome then OpenFlags.exclusive else 0) } true
    writeNumber request.descriptor 4 (result descriptor)
  let child ← makeThread request number
  if request.has CloneRequest.tellsParent then
    let _ ← attempt (writeNumber request.parentNumber 4 (result number))
  if request.has CloneRequest.tellsChild then
    let _ ← attempt (asThread child (writeNumber request.childNumber 4 (result number)))
  if request.has CloneRequest.suspends then
    modifyThread ({ · with activity := .suspended child })
  return result number

/-! ### Ending -/

/-- Clears what a thread wanted to be cleared at its end, if others can see it. -/
def clearAtEnd : Kernel Unit := do
  let thread ← thread
  let world ← get
  let shared := (List.range world.threads.size).any fun index =>
    index ≠ world.current && world.isAlive index
      && (world.threads.getD index {}).space == thread.space
  if thread.clearedAtEnd != 0 && shared then
    let _ ← attempt (writeNumber thread.clearedAtEnd 4 0)
    let _ ← attempt (do wake (← queueKey thread.clearedAtEnd false) 1 0xffffffff)

/-! ### Waiting for children -/

/-- Which children are waited for. -/
def isAwaited (target : Int) (options : Nat) (process child : Process) : Bool :=
  let named :=
    if target = -1 then true
    else if target = 0 then child.processGroup == process.processGroup
    else if target < 0 then child.processGroup == (-target).toNat
    else child.number == target.toNat
  let usual := child.endSignal == Signal.child
  let kind := options &&& 0x40000000 ≠ 0 || (usual != (options &&& 0x80000000 ≠ 0))
  named && kind && !child.told

/-- The number of the process behind a file descriptor, and whether nobody waits for it there. -/
def numberBehind (descriptor : UInt64) : Kernel (Int × Bool) := do
  let (_, description) ← opened (low descriptor)
  match description.opened with
  | .process (some index) _ =>
    return (((← get).processes.getD index {}).number, description.has OpenFlags.nonBlocking)
  | .process none _ => return (1, false)
  | _ => fail .badDescriptor

/-- A child that has ended, of those that are waited for; nothing if there are only others. -/
def endedChild (target : Int) (options : Nat) : Kernel (Option Nat) := do
  let process ← process
  let own := (← thread).process
  let world ← get
  let children := (world.childrenOf own).filter fun child =>
    isAwaited target options process (world.processes.getD child {})
  failIf children.isEmpty .noChild
  return children.find? fun child => (world.processes.getD child {}).ended.isSome

end Kernel

namespace Service

open Kernel

def fork : Service := fun _ => clone { flags := 0 }

def forkSuspended : Service := fun _ =>
  clone { flags := CloneRequest.space ||| CloneRequest.suspends }

def cloneThread : Service := fun arguments =>
  clone {
    flags := arguments.first &&& 0xffffff00
    stack := arguments.second
    parentNumber := arguments.third
    descriptor := arguments.third
    childNumber := arguments.fourth
    base := arguments.fifth
    endSignal := (arguments.first &&& 0xff).toNat }

def cloneListed : Service := fun arguments => do
  let bytes ← readSized arguments.first arguments.second.toNat 64 88
  let field (index : Nat) : UInt64 := littleEndian bytes (8 * index) 8
  let flags := field 0
  failIf (64 < field 4 || flags &&& 0x4000ff != 0 || 0x400000000 ≤ flags) .invalidArgument
  failIf ((field 5 = 0) != (field 6 = 0)) .invalidArgument
  failIf (flags &&& (CloneRequest.thread ||| CloneRequest.sibling) != 0 && field 4 != 0)
    .invalidArgument
  clone {
    flags
    stack := field 5 + field 6
    descriptor := field 1
    childNumber := field 2
    parentNumber := field 3
    base := field 7
    endSignal := (field 4).toNat }

def exitThread : Service := fun arguments => do
  clearAtEnd
  modifyThread ({ · with status := arguments.first.toNat % 256 })
  modify fun world => world.endThread world.current
  throw .diverted

def exitProcess : Service := fun arguments => do
  clearAtEnd
  terminate (.exited (arguments.first.toNat % 256))
  throw .diverted

def waitFor : Service := fun arguments => do
  let options := low arguments.third
  failIf (options &&& 0x1ffffff4 ≠ 0) .invalidArgument
  let target := lowSigned arguments.first
  failIf (target = -0x80000000) .noProcess
  match ← endedChild target options with
  | none => if options &&& 1 ≠ 0 then return 0 else wait
  | some index =>
    let child := (← get).processes.getD index {}
    modifyProcessAt index ({ · with told := true })
    if arguments.fourth != 0 then writeMemory arguments.fourth ⟨Array.replicate 144 0⟩
    if arguments.second != 0 then
      let word := (child.ended.map Ended.word).getD 0
      writeNumber arguments.second 4 (result word)
    return result child.number

def waitForKind : Service := fun arguments => do
  let options := low arguments.fourth
  let kind := low arguments.first
  failIf (options &&& 0x1efffff0 ≠ 0 || options &&& 14 = 0) .invalidArgument
  let number := lowSigned arguments.second
  failIf (3 < kind) .invalidArgument
  failIf (kind = 1 && number ≤ 0 || 2 ≤ kind && number < 0) .invalidArgument
  let (number, impatient) ← if kind = 3 then numberBehind arguments.second else pure (number, false)
  let target : Int := match kind with
    | 0 => -1
    | 1 | 3 => number
    | _ => -number
  match ← endedChild target options with
  | none =>
    failIf impatient .tryAgain
    if options &&& 1 ≠ 0 then
      if arguments.third != 0 then writeMemory arguments.third ⟨Array.replicate 24 0⟩
      return 0
    else wait
  | some index =>
    let child := (← get).processes.getD index {}
    if options &&& 0x1000000 = 0 then modifyProcessAt index ({ · with told := true })
    if arguments.third != 0 then
      let info := World.childInfo { child with endSignal := Signal.child }
        (child.ended.getD (.exited 0))
      writeMemory arguments.third (info.told.extract 0 28)
    return 0

end Service

end StaticElf.Linux
