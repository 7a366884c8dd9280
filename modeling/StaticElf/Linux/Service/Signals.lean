/-
**Signals as system calls.**

* `Service.setDisposition`, `Service.setBlocked`, `Service.setStack` — what is to be done about signals.
* `Service.returnFromHandler` — goes on with what a handler interrupted.
* `Service.awaitSignal`, `Service.pause`, … — waiting for signals.
* `Service.kill`, … — sending them.
-/

import StaticElf.Linux.Transfer

namespace StaticElf.Linux

namespace Kernel

/-- A length of time or a point in time in memory, in seconds and nanoseconds. -/
def readTime (address : UInt64) : Kernel Nat := do
  let numbers ← readNumbers address 2
  let seconds := numbers.getD 0 0
  let rest := numbers.getD 1 0
  failIf (isNegative seconds || 1000000000 ≤ rest) .invalidArgument
  return seconds.toNat * 1000000000 + rest.toNat

/-- Puts a length of time into memory, in seconds and nanoseconds. -/
def writeTime (address : UInt64) (nanoseconds : Nat) : Kernel Unit :=
  writeNumbers address [result (nanoseconds / 1000000000), result (nanoseconds % 1000000000)]

/-- The set of the signals that wait and are blocked. -/
def pendingSet : Kernel SignalSet := do
  let thread ← thread
  let infos := thread.pending ++ (← process).pending
  return (infos.foldl (fun set info => set ||| Signal.bit info.signal) 0) &&& thread.blocked

/-- Forgets the signals of a set that wait, in the running process and its threads. -/
def forgetSignals (set : SignalSet) : Kernel Unit := do
  let process := (← thread).process
  modifyProcess fun process => { process with pending := World.without process.pending set }
  modify fun world => (world.threadsOf process).foldl
    (fun world index => world.modifyThread index fun thread =>
      { thread with pending := World.without thread.pending set }) world

/-- What the kernel keeps of the flags of a disposition. -/
def dispositionFlags : UInt64 := 0xdc000807

/-- The disposition that stands in memory. -/
def readDisposition (address : UInt64) : Kernel Disposition := do
  let numbers ← readNumbers address 4
  return {
    handler := numbers.getD 0 0
    flags := numbers.getD 1 0 &&& dispositionFlags
    restorer := numbers.getD 2 0
    mask := numbers.getD 3 0 &&& ~~~Signal.untouchable }

/-- A signal that comes from the running process. -/
def ownSignal (signal : Nat) (code : Int) : Kernel SignalInfo := do
  return { signal, code, detail := [(← process).identity] }

/-- The processes that can be sent a signal by a number: a process, or a group of them. -/
def targets (number : Int) : Kernel (List Nat) := do
  let own ← process
  let world ← get
  return (List.range world.processes.size).filter fun index =>
    let process := world.processes.getD index {}
    !process.told &&
      (if 0 < number then (process.number : Int) = number
       else if number = 0 then process.processGroup = own.processGroup
       else if number = -1 then process.number ≠ own.number
       else (process.processGroup : Int) = -number)

end Kernel

namespace Service

open Kernel

/-! ### What is to be done about signals -/

def setDisposition : Service := fun arguments => do
  failIf (arguments.fourth != 8) .invalidArgument
  let signal := low arguments.first
  let fresh ← if arguments.second = 0 then pure none
    else some <$> readDisposition arguments.second
  failIf (!Signal.isValid signal) .invalidArgument
  failIf (fresh.isSome && Signal.isIn signal Signal.untouchable) .invalidArgument
  let old := (← dispositions).get signal
  match fresh with
  | none => pure ()
  | some disposition =>
    modifyDispositions (·.setIfInBounds signal disposition)
    if disposition.ignores signal then forgetSignals (Signal.bit signal)
  if arguments.third != 0 then
    writeNumbers arguments.third [old.handler, old.flags, old.restorer, old.mask]
  return 0

def setBlocked : Service := fun arguments => do
  failIf (arguments.fourth != 8) .invalidArgument
  let old := (← thread).blocked
  if arguments.second != 0 then
    let set := (← readNumber arguments.second 8) &&& ~~~Signal.untouchable
    let blocked ← match low arguments.first with
      | 0 => pure (old ||| set)
      | 1 => pure (old &&& ~~~set)
      | 2 => pure set
      | _ => fail .invalidArgument
    modifyThread ({ · with blocked })
  if arguments.third != 0 then writeNumber arguments.third 8 old
  return 0

def tellPending : Service := fun arguments => do
  failIf (8 < arguments.second) .invalidArgument
  writeMemory arguments.first (wordBytes arguments.second.toNat (← pendingSet))
  return 0

def setStack : Service := fun arguments => do
  let stack := (← thread).stack
  let top ← register X86.sp
  let fresh ← if arguments.first = 0 then pure none
    else some <$> readNumbers arguments.first 3
  match fresh with
  | none => pure ()
  | some numbers =>
    failIf (stackFlags stack top = 1) .notPermitted
    let flags := numbers.getD 1 0 &&& 0xffffffff
    let mode := flags &&& ~~~AlternateStack.leaves
    failIf (2 < mode) .invalidArgument
    let length := numbers.getD 2 0
    failIf (mode != 2 && length < 2048) .noMemory
    modifyThread ({ · with
      stack := if mode = 2 then { flags := flags &&& AlternateStack.leaves }
        else { start := numbers.getD 0 0, length, flags := flags &&& AlternateStack.leaves } })
  if arguments.second != 0 then
    writeNumbers arguments.second
      [stack.start, stackFlags stack top ||| stack.flags, stack.length]
  return 0

def returnFromHandler : Service := fun _ => do
  match ← attempt popFrame with
  | .ok () => throw .diverted
  | .error _ => throw (.fault generalFault)

/-! ### Waiting for signals -/

def pause : Service := fun _ => wait

def suspend : Service := fun arguments => do
  failIf (arguments.second != 8) .invalidArgument
  let set := (← readNumber arguments.first 8) &&& ~~~Signal.untouchable
  modifyThread fun thread => { thread with
    saved := some (thread.saved.getD thread.blocked)
    blocked := set }
  wait

def awaitSignal : Service := fun arguments => do
  failIf (arguments.fourth != 8) .invalidArgument
  let set := (← readNumber arguments.first 8) &&& ~~~Signal.untouchable
  let limit ← if arguments.third = 0 then pure none else some <$> readTime arguments.third
  match nextOf? set (← thread) (← process) with
  | some info =>
    takeSignal info
    if arguments.second != 0 then writeMemory arguments.second info.told
    return result info.signal
  | none =>
    match limit with
    | none => wait
    | some limit =>
      waitAtMost limit
      fail .tryAgain

/-! ### Sending signals -/

/-- Sends a signal to processes by a number; the signal 0 only asks whether they are there. -/
def sendTo (number : Int) (signal : Nat) (info : SignalInfo) : Kernel UInt64 := do
  let processes ← targets number
  failIf processes.isEmpty .noProcess
  failIf (64 < signal) .invalidArgument
  if signal ≠ 0 then
    modify fun world => processes.foldl (fun world process => world.send process info) world
  return 0

def kill : Service := fun arguments => do
  let number := lowSigned arguments.first
  failIf (number = -0x80000000) .noProcess
  let signal := low arguments.second
  sendTo number signal (← ownSignal signal 0)

/-- Sends a signal to a thread by its number, which may have to be one of a certain process. -/
def sendToOne (process : Option Int) (number : Int) (signal : Nat) (info : SignalInfo) :
    Kernel UInt64 := do
  failIf (number ≤ 0) .invalidArgument
  let world ← get
  let fits (thread : Thread) : Bool :=
    (thread.number : Int) = number && match process with
      | none => true
      | some process => ((world.processes.getD thread.process {}).number : Int) = process
  let found := world.threads.findIdx? fun thread =>
    fits thread && (thread.activity ≠ .ended || !(world.processes.getD thread.process {}).told)
  let index ← ofOption found .noProcess
  failIf (64 < signal) .invalidArgument
  if signal ≠ 0 then modify (·.sendToThread index info)
  return 0

def killThread : Service := fun arguments => do
  let signal := low arguments.second
  sendToOne none (lowSigned arguments.first) signal (← ownSignal signal (-6))

def killThreadOf : Service := fun arguments => do
  let process := lowSigned arguments.first
  failIf (process ≤ 0) .invalidArgument
  let signal := low arguments.third
  sendToOne (some process) (lowSigned arguments.second) signal (← ownSignal signal (-6))

/-- A signal with all that is told about it, as it stands in memory. -/
def readInfo (address : UInt64) (signal : Nat) : Kernel SignalInfo := do
  let bytes ← readMemory address 128
  let code := lowSigned (littleEndian bytes 8 4)
  return { signal, code, detail := (List.range 14).map fun i => littleEndian bytes (16 + 8 * i) 8 }

def killWith : Service := fun arguments => do
  let signal := low arguments.second
  let info ← readInfo arguments.third signal
  let number := lowSigned arguments.first
  failIf ((0 ≤ info.code || info.code = -6) && number ≠ (← process).number) .notPermitted
  failIf (number ≤ 0) .noProcess
  sendTo number signal info

def killThreadWith : Service := fun arguments => do
  let signal := low arguments.third
  let info ← readInfo arguments.fourth signal
  let process := lowSigned arguments.first
  let number := lowSigned arguments.second
  failIf (process ≤ 0 || number ≤ 0) .invalidArgument
  failIf ((0 ≤ info.code || info.code = -6) && number ≠ (← thread).number) .notPermitted
  sendToOne (some process) number signal info

end Service

end StaticElf.Linux
