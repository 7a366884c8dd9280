/-
**Delivering signals.**

* `Kernel.pushFrame` — makes a thread run a handler: what it was doing is kept in a frame on its stack.
* `Kernel.popFrame` — goes on with what a frame holds.
* `Kernel.deliver` — does what is to be done about the signals that wait for the running thread.
-/

import StaticElf.Linux.Interpreter
import StaticElf.Linux.Signalling

namespace StaticElf.Linux

/-! ### The layout of a frame, by the distances of its parts from its start -/

namespace Frame

/-- Where the context starts: its flags, and behind them the stack for signals. -/
def context : Nat := 8
def stack : Nat := context + 16
/-- Where the registers start. -/
def registers : Nat := context + 40
/-- Where the address of the vectors is. -/
def vectors : Nat := registers + 184
/-- Where the blocked signals are. -/
def mask : Nat := registers + 256
/-- Where the signal is told. -/
def info : Nat := mask + 8
/-- The length of a frame, and of the vectors behind it. -/
def size : Nat := info + 128
def vectorBytes : Nat := 2820

/-- The order in which registers are kept. -/
def order : List (Fin 16) :=
  [8, 9, 10, 11, 12, 13, 14, 15, 7, 6, 5, 3, 2, 0, 1, 4].map X86.registerOf

end Frame

/-- A signal as it is told to a handler. -/
def SignalInfo.told (info : SignalInfo) : ByteArray :=
  let code := UInt64.ofInt info.code &&& 0xffffffff
  padded (wordBytes 4 (UInt64.ofNat info.signal) ++ wordBytes 4 (UInt64.ofNat info.errno)
    ++ wordBytes 8 code
    ++ packNumbers info.detail) 128

namespace Kernel

/-! ### Frames -/

/-- Whether an address is within the alternate stack. -/
def withinAlternate (stack : AlternateStack) (address : UInt64) : Bool :=
  stack.length != 0 && stack.start < address && address - stack.start ≤ stack.length

/-- Whether the alternate stack is in use when the stack ends at an address. -/
def onAlternate (stack : AlternateStack) (address : UInt64) : Bool :=
  stack.flags &&& AlternateStack.leaves = 0 && withinAlternate stack address

/-- What is told about a stack: it is in use (1), or there is none (2). -/
def stackFlags (stack : AlternateStack) (address : UInt64) : UInt64 :=
  if stack.length = 0 then 2 else if onAlternate stack address then 1 else 0

/-- The end of the stack on which a handler runs, and whether that is the alternate stack. -/
def handlerStack (disposition : Disposition) : Kernel (UInt64 × Bool) := do
  let stack := (← thread).stack
  let top := (← register X86.sp) - 128
  if disposition.has Disposition.onStack && stackFlags stack top = 0 then
    return (stack.start + stack.length, true)
  else return (top, onAlternate stack (← register X86.sp))

/-- What a thread was doing, as it is kept in a frame. -/
def contextBytes (info : SignalInfo) (vectors : UInt64) : Kernel ByteArray := do
  let thread ← thread
  let cpu := (← get).cpu
  let address := (info.detail.headD 0)
  return packNumbers ([7, 0, thread.stack.start,
      stackFlags thread.stack (cpu.get X86.sp) ||| thread.stack.flags, thread.stack.length]
    ++ Frame.order.map cpu.get
    ++ [cpu.next, cpu.flags, 0x002b000000000033, 0, 0, thread.blocked, address, vectors]
    ++ List.replicate 8 0
    ++ [thread.saved.getD thread.blocked])

/-- Makes the running thread run a handler. -/
def pushFrame (info : SignalInfo) (disposition : Disposition) : Kernel Unit := do
  let (limit, alternate) ← handlerStack disposition
  let vectors := (limit - UInt64.ofNat Frame.vectorBytes) &&& ~~~(63 : UInt64)
  let frame := ((vectors - UInt64.ofNat Frame.size) &&& ~~~(15 : UInt64)) - 8
  failIf (alternate && !withinAlternate (← thread).stack frame) .badAddress
  let context ← contextBytes info vectors
  if !disposition.has Disposition.restores then fail .badAddress
  writeMemory vectors ⟨Array.replicate Frame.vectorBytes 0⟩
  writeMemory frame (wordBytes 8 disposition.restorer ++ context ++ info.told)
  if (← thread).stack.flags &&& AlternateStack.leaves != 0 then
    modifyThread ({ · with stack := {} })
  modifyCpu fun cpu =>
    let cpu := (cpu.set X86.sp frame).set X86.di (UInt64.ofNat info.signal)
    let cpu := cpu.set X86.si (frame + UInt64.ofNat Frame.info)
    let cpu := (cpu.set X86.dx (frame + UInt64.ofNat Frame.context)).set X86.ax 0
    { cpu with
      next := disposition.handler
      flags := cpu.flags &&& ~~~(0x10500 : UInt64)
      keyRights := 0x55555554 }

/-- The signals that are blocked while a handler runs. -/
def handlerMask (blocked : SignalSet) (signal : Nat) (disposition : Disposition) : SignalSet :=
  let own := if disposition.has Disposition.nested then 0 else Signal.bit signal
  (blocked ||| disposition.mask ||| own) &&& ~~~Signal.untouchable

/-- Goes on with what a frame holds. -/
def popFrame : Kernel Unit := do
  let frame := (← register X86.sp) - 8
  let read (offset width : Nat) : Kernel UInt64 := readNumber (frame + UInt64.ofNat offset) width
  let mask ← read Frame.mask 8
  modifyThread ({ · with blocked := mask &&& ~~~Signal.untouchable })
  let bytes ← readMemory (frame + UInt64.ofNat Frame.registers) 256
  let field (index : Nat) : UInt64 := littleEndian bytes (8 * index) 8
  let restored := Frame.order.zipIdx
  modifyCpu fun cpu =>
    let cpu := restored.foldl (fun cpu (register, index) => cpu.set register (field index)) cpu
    { cpu with
      next := field 16
      flags := (cpu.flags &&& ~~~(0x50dd5 : UInt64)) ||| (field 17 &&& 0x40dd5) }
  failIf (field 18 &&& 0xffff ||| 3 != 0x33) .badAddress
  let vectors := field 23
  if vectors != 0 then
    let _ ← readMemory vectors Frame.vectorBytes
  let start ← read Frame.stack 8
  let flags ← read (Frame.stack + 8) 4
  let length ← read (Frame.stack + 16) 8
  if flags &&& 3 != 1 then
    modifyThread fun thread => { thread with
      stack := if flags &&& 2 != 0 then {}
        else { start, length, flags := flags &&& AlternateStack.leaves } }

/-! ### Signals that wait -/

/-- The signal of a set that is taken first from those that wait: one that an instruction can bring on, or
else the one with the lowest number. -/
def firstOf? (set : SignalSet) (pending : List SignalInfo) : Option SignalInfo :=
  let lowest (infos : List SignalInfo) : Option SignalInfo :=
    infos.foldl (fun best info =>
      match best with
      | none => some info
      | some other => if info.signal < other.signal then some info else best) none
  let wanted := pending.filter fun info => Signal.isIn info.signal set
  let urgent := wanted.filter fun info => Signal.isIn info.signal Signal.synchronous
  lowest (if urgent.isEmpty then wanted else urgent)

/-- The signal of a set that is taken first: those that wait for the thread come before those that wait
for its process. -/
def nextOf? (set : SignalSet) (thread : Thread) (process : Process) : Option SignalInfo :=
  (firstOf? set thread.pending).or (firstOf? set process.pending)

/-- The signal that is dealt with next, of those that wait and are not blocked. -/
def nextSignal? (thread : Thread) (process : Process) : Option SignalInfo :=
  nextOf? (~~~thread.blocked) thread process

/-- Whether a signal that waits has an effect on a thread. -/
def isDisturbed (world : World) (index : Nat) : Bool :=
  let thread := world.threads.getD index {}
  let process := world.processes.getD thread.process {}
  (thread.pending ++ process.pending).any fun info =>
    !Signal.isIn info.signal thread.blocked
      && !(world.dispositionOf thread info.signal).ignores info.signal

/-- Takes a signal from those that wait. -/
def takeSignal (info : SignalInfo) : Kernel Unit := do
  if (← thread).pending.contains info then
    modifyThread fun thread => { thread with pending := thread.pending.erase info }
  else modifyProcess fun process => { process with pending := process.pending.erase info }

/-- What is done when a frame cannot be made: the signal for an address that is not there, unless that is
the one that was to be handled. -/
def frameFailed (signal : Nat) : Kernel Unit := do
  if signal = Signal.segment then terminate (.killed signal)
  else force generalFault

/-- Runs the handler of a signal. -/
def handle (info : SignalInfo) (disposition : Disposition) : Kernel Unit := do
  if disposition.has Disposition.once then
    modifyDispositions fun dispositions =>
      dispositions.modify info.signal ({ · with handler := 0 })
  match ← attempt (pushFrame info disposition) with
  | .error _ => frameFailed info.signal
  | .ok () =>
    modifyThread fun thread => { thread with
      blocked := handlerMask thread.blocked info.signal disposition
      saved := none }

/-- Stops all threads of the running process. Those that wait make their calls again later. -/
def stopProcess : Kernel Unit := do
  let process := (← thread).process
  modify fun world => (world.threadsOf process).foldl
    (fun world index => world.modifyThread index fun thread =>
      match thread.activity with
      | .running => { thread with activity := .stopped }
      | .waiting => { thread with activity := .stopped, cpu := thread.cpu.again }
      | _ => thread) world

/-- Does what is to be done about one signal. -/
def actOn (info : SignalInfo) : Kernel Unit := do
  let disposition := (← dispositions).get info.signal
  if disposition.handler = 0 then
    match Signal.usualAction info.signal with
    | .terminate => terminate (.killed info.signal)
    | .stop => stopProcess
    | .ignore | .resume => pure ()
  else if disposition.handler = 1 then pure ()
  else handle info disposition

/-- Does what is to be done about the signals that wait, at most so many. -/
def deliver : (most : Nat) → Kernel Unit
  | 0 => pure ()
  | most + 1 => do
    let thread ← thread
    if thread.activity = .running then
      match nextSignal? thread (← process) with
      | none =>
        match thread.saved with
        | some mask => modifyThread ({ · with blocked := mask, saved := none })
        | none => pure ()
      | some info =>
        takeSignal info
        actOn info
        deliver most

end Kernel

end StaticElf.Linux
