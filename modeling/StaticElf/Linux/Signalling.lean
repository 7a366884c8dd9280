/-
**Sending signals, and the end of threads.**

* `World.send`, `World.sendToThread` — sends a signal. One that would do nothing goes nowhere.
* `World.endThread`, `World.endProcess` — what is done when a thread or all threads of a process end.
* `Kernel.force` — a signal that a thread has brought on itself.
-/

import StaticElf.Linux.Memory

namespace StaticElf.Linux

namespace World

def modifyThread (world : World) (index : Nat) (change : Thread → Thread) : World :=
  { world with threads := world.threads.modify index change }

def modifyProcess (world : World) (index : Nat) (change : Process → Process) : World :=
  { world with processes := world.processes.modify index change }

/-- The threads of a process that have not ended. -/
def threadsOf (world : World) (process : Nat) : List Nat :=
  (List.range world.threads.size).filter fun index =>
    world.isAlive index && (world.threads.getD index {}).process == process

/-- What a thread wants to be done about a signal. -/
def dispositionOf (world : World) (thread : Thread) (signal : Nat) : Disposition :=
  (world.dispositions.getD thread.dispositions .usual).get signal

/-- Whether a signal does nothing to a thread now or later. -/
def ignores (world : World) (thread : Thread) (signal : Nat) : Bool :=
  !Signal.isIn signal thread.blocked && (world.dispositionOf thread signal).ignores signal

/-- Adds a signal to those that wait. One of the old signals waits only once. -/
def queued (pending : List SignalInfo) (info : SignalInfo) : List SignalInfo :=
  if info.signal < 32 && pending.any (·.signal = info.signal) then pending else pending ++ [info]

/-- Forgets signals that wait. -/
def without (pending : List SignalInfo) (set : SignalSet) : List SignalInfo :=
  pending.filter fun info => !Signal.isIn info.signal set

/-- The signals that stop a process. -/
def stopSignals : SignalSet := 0x3c0000

/-- What a signal does to a process before anything else: one that stops it and one that lets it go on
take each other back, and a process that is killed is not left stopped. -/
def prepare (world : World) (process signal : Nat) : World :=
  let cancelled : SignalSet :=
    if signal = Signal.resume then stopSignals
    else if Signal.isIn signal stopSignals then Signal.bit Signal.resume
    else 0
  let world := if cancelled = 0 then world else
    (world.threadsOf process).foldl
      (fun world index => world.modifyThread index fun thread =>
        { thread with pending := without thread.pending cancelled })
      (world.modifyProcess process fun process =>
        { process with pending := without process.pending cancelled })
  if signal = Signal.resume || signal = Signal.kill then
    (world.threadsOf process).foldl
      (fun world index => world.modifyThread index fun thread =>
        if thread.activity = .stopped then { thread with activity := .running } else thread)
      world
  else world

/-- Sends a signal to a process. -/
def send (world : World) (process : Nat) (info : SignalInfo) : World :=
  match world.threadsOf process with
  | [] => world
  | first :: _ =>
    let world := world.prepare process info.signal
    if world.ignores (world.threads.getD first {}) info.signal then world
    else world.modifyProcess process fun process =>
      { process with pending := queued process.pending info }

/-- Sends a signal to a thread. -/
def sendToThread (world : World) (index : Nat) (info : SignalInfo) : World :=
  let thread := world.threads.getD index {}
  let world := world.prepare thread.process info.signal
  if !world.isAlive index || world.ignores thread info.signal then world
  else world.modifyThread index fun thread =>
    { thread with pending := queued thread.pending info }

/-! ### Ending -/

/-- What a parent is told about a process that has ended. -/
def childInfo (process : Process) (ended : Ended) : SignalInfo :=
  let (code, status) : Int × Nat := match ended with
    | .exited status => (1, status)
    | .killed signal => (2, signal)
  { signal := process.endSignal, code,
    detail := [process.identity, UInt64.ofNat status, 0, 0] }

/-- Tells the parent of a process that it has ended. A parent that does not want to know leaves nothing
of it. -/
def tellParent (world : World) (index : Nat) (ended : Ended) : World :=
  let process := world.processes.getD index {}
  match process.parent with
  | none => world.modifyProcess index ({ · with told := true })
  | some parent =>
    match world.threadsOf parent with
    | [] => world.modifyProcess index ({ · with told := true })
    | first :: _ =>
      let disposition := world.dispositionOf (world.threads.getD first {}) Signal.child
      let unwanted := process.endSignal = Signal.child
        && (disposition.handler = 1 || disposition.has Disposition.forgetChildren)
      let world := if unwanted then world.modifyProcess index ({ · with told := true }) else world
      if process.endSignal = 0 then world else world.send parent (childInfo process ended)

/-- The children of a process. -/
def childrenOf (world : World) (index : Nat) : List Nat :=
  (List.range world.processes.size).filter fun child =>
    (world.processes.getD child {}).parent == some index

/-- The process that takes over the children of another one. -/
def adopter (world : World) : (steps : Nat) → Option Nat → Option Nat
  | 0, _ => none
  | _, none => none
  | steps + 1, some index =>
    let process := world.processes.getD index {}
    if process.adopts && process.ended.isNone then some index
    else world.adopter steps process.parent

/-- Gives a child another parent. -/
def adopt (world : World) (parent : Option Nat) (child : Nat) : World :=
  let world := world.modifyProcess child ({ · with parent })
  match (world.processes.getD child {}).ended, parent with
  | some _, none => world.modifyProcess child ({ · with told := true })
  | _, _ => world

/-- What is done when a process has no thread any more. -/
def endProcess (world : World) (index : Nat) (ended : Ended) : World :=
  let world := world.modifyProcess index ({ · with ended := some ended })
  let heir := world.adopter world.processes.size (world.processes.getD index {}).parent
  let world := (world.childrenOf index).foldl
    (fun world child =>
      let orphans := world.threadsOf child
      let world := orphans.foldl
        (fun world orphan =>
          let signal := (world.threads.getD orphan {}).parentSignal
          if signal = 0 then world else world.sendToThread orphan { signal })
        world
      world.adopt heir child)
    world
  world.tellParent index ended

/-- Lets the threads go on that wait for another one. -/
def release (world : World) (awaited : Nat) : World :=
  { world with
    threads := world.threads.map fun thread =>
      if thread.activity = .suspended awaited then { thread with activity := .running } else thread }

/-- Ends a thread. The last one of a process decides how the process ends, unless that was decided
before. -/
def endThread (world : World) (index : Nat) : World :=
  if !world.isAlive index then world
  else
    let thread := world.threads.getD index {}
    let world := (world.modifyThread index ({ · with activity := .ended })).release index
    if (world.threadsOf thread.process).isEmpty then
      let ending := (world.processes.getD thread.process {}).ending
      world.endProcess thread.process (ending.getD (.exited thread.status))
    else world

/-- Ends all threads of a process. -/
def endAll (world : World) (process : Nat) (ended : Ended) : World :=
  let world := world.modifyProcess process fun process =>
    { process with ending := some (process.ending.getD ended) }
  (world.threadsOf process).foldl endThread world

/-- Ends a thread that did what it may not do. The last thread takes its process along. -/
def endThreadBy (world : World) (index : Nat) (ended : Ended) : World :=
  let process := (world.threads.getD index {}).process
  if (world.threadsOf process).length ≤ 1 then world.endAll process ended
  else world.endThread index

end World

namespace Kernel

/-- Ends the running process. -/
def terminate (ended : Ended) : Kernel Unit := do
  let process := (← thread).process
  modify fun world => world.endAll process ended

/-- Sends a signal to the running thread, which brought it on itself. If the signal is blocked or ignored
nothing is asked. -/
def force (info : SignalInfo) : Kernel Unit := do
  let thread ← thread
  let disposition := (← dispositions).get info.signal
  if disposition.handler = 1 || Signal.isIn info.signal thread.blocked then
    modifyDispositions fun dispositions => dispositions.setIfInBounds info.signal {}
  modifyThread fun thread => { thread with
    blocked := thread.blocked &&& ~~~(Signal.bit info.signal)
    pending := info :: World.without thread.pending (Signal.bit info.signal) }

/-- Sends a signal to the running thread. -/
def signalSelf (info : SignalInfo) : Kernel Unit :=
  modify fun world => world.sendToThread world.current info

/-- Ends with an error about a pipe or a socket that nobody reads, and sends the signal for it. -/
def failBroken {α : Type} : Kernel α := do
  signalSelf { signal := Signal.pipe }
  fail .brokenPipe

end Kernel

end StaticElf.Linux
