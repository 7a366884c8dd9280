/-
**Numbers and names.**

* `Service.ownNumber`, `Service.parentNumber`, … — the numbers of processes, groups and sessions.
* `Service.nameSystem`, `Service.tellSystem` — the machine.
* `Service.setClearedAtEnd`, `Service.separate`, … — what a thread shares and leaves.
-/

import StaticElf.Linux.Peer
import StaticElf.Linux.Service.Descriptors
import StaticElf.Text.Utf8

namespace StaticElf.Linux

namespace Service

open Kernel

/-! ### Numbers -/

def ownNumber : Service := fun _ => do return result (← process).number

def ownThreadNumber : Service := fun _ => do return result (← thread).number

def parentNumber : Service := fun _ => do
  match (← process).parent with
  | none => return 4200
  | some parent => return result ((← get).processes.getD parent {}).number

/-- The process with a number, or the running one for zero. -/
def processNumbered (number : Int) : Kernel Nat := do
  if number = 0 then return (← thread).process
  ofOption ((← get).processes.findIdx? fun process =>
    (process.number : Int) = number && !process.told) .noProcess

def groupOf : Service := fun arguments => do
  let index ← processNumbered (lowSigned arguments.first)
  return result ((← get).processes.getD index {}).processGroup

def ownGroup : Service := fun _ => do return result (← process).processGroup

def sessionOf : Service := fun arguments => do
  let index ← processNumbered (lowSigned arguments.first)
  return result ((← get).processes.getD index {}).session

def setGroup : Service := fun arguments => do
  let group := lowSigned arguments.second
  failIf (group < 0) .invalidArgument
  let index ← processNumbered (lowSigned arguments.first)
  let own := (← thread).process
  let world ← get
  let process := world.processes.getD index {}
  failIf (index ≠ own && process.parent ≠ some own) .noProcess
  failIf (process.session = process.number) .notPermitted
  let group := if group = 0 then process.number else group.toNat
  let exists_ := world.processes.any fun other =>
    other.processGroup = group && other.session = process.session
  failIf (group ≠ process.number && !exists_) .notPermitted
  modifyProcessAt index ({ · with processGroup := group })
  return 0

def makeSession : Service := fun _ => do
  let process ← process
  failIf ((← get).processes.any fun other => other.processGroup = process.number) .notPermitted
  modifyProcess ({ · with session := process.number, processGroup := process.number })
  return result process.number

/-! ### The machine -/

/-- A name in the room that there is for one. -/
def systemName (text : String) : ByteArray := padded text.toUTF8 65

def nameSystem : Service := fun arguments => do
  let names := ["Linux", "localhost", "6.8.0", "#1 SMP PREEMPT_DYNAMIC", "x86_64", "(none)"]
  writeMemory arguments.first
    (names.foldl (fun bytes name => bytes ++ systemName name) ByteArray.empty)
  return 0

def tellSystem : Service := fun arguments => do
  let memory := 0x800000000
  let processes := (← get).processes.size
  writeMemory arguments.first (padded (packNumbers
    [100000, 0, 0, 0, memory, memory / 2, 0, 0, 0, 0, result processes, 0, 0, 1]) 112)
  return 0

def fillRandom : Service := fun arguments => do
  let flags := low arguments.third
  failIf (7 < flags || flags &&& 6 = 6) .invalidArgument
  let spans ← givenSpan arguments.first arguments.second
  return result (← readRandom spans)

/-! ### Threads -/

def setClearedAtEnd : Service := fun arguments => do
  modifyThread ({ · with clearedAtEnd := arguments.first })
  return result (← thread).number

def setLockList : Service := fun arguments => do
  failIf (arguments.second != 24) .invalidArgument
  modifyThread ({ · with lockList := arguments.first })
  return 0

def tellLockList : Service := fun arguments => do
  let index ← visible (lowSigned arguments.first)
  writeNumber arguments.third 8 24
  writeNumber arguments.second 8 ((← get).threads.getD index {}).lockList
  return 0

/-- Stops sharing things with other threads. -/
def separate : Service := fun arguments => do
  let flags := low arguments.first
  failIf (flags &&& 0x7e0f5f80 ≠ flags) .invalidArgument
  failIf (flags &&& 0x7e020080 ≠ 0) .notPermitted
  if flags &&& 0x400 ≠ 0 then separateDescriptors
  if flags &&& 0x200 ≠ 0 then
    let place ← place
    let number ← modifyGet fun world =>
      (world.places.size, { world with places := world.places.push place })
    modifyThread ({ · with place := number })
  return 0

def tellProcessor : Service := fun arguments => do
  if arguments.first != 0 then writeNumber arguments.first 4 0
  if arguments.second != 0 then writeNumber arguments.second 4 0
  return 0

end Service

end StaticElf.Linux
