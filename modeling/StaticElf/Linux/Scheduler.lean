/-
**Running threads.**

One thread runs at a time, until it waits, ends, or has run for long enough. Time passes with every
instruction, and when all threads wait it goes on to when the first of them is due.

* `World.call` — a system call of the running thread, with all that follows from it.
* `World.runSlice` — runs a thread for a number of instructions.
* `World.run` — runs all threads to their end.
-/

import StaticElf.Linux.Dispatch

namespace StaticElf.Linux

namespace World

/-- Does an action; what it stops with is dropped. -/
def doing (world : World) (action : Kernel Unit) : World := (action.run world).2

/-- Lets a thread be the one that runs. -/
def switchTo (world : World) (index : Nat) : World :=
  if world.current = index then world
  else
    let cpu := world.cpu
    let world := world.modifyThread world.current ({ · with cpu })
    { world with current := index, cpu := (world.threads.getD index {}).cpu }

/-- The thread that is running. -/
def running (world : World) : Thread := world.threads.getD world.current {}

/-- Deals with the signals that wait for the running thread. -/
def settle (world : World) : World :=
  let thread := world.running
  if thread.pending.isEmpty && thread.saved.isNone
      && (world.processes.getD thread.process {}).pending.isEmpty then world
  else world.doing (Kernel.deliver 64)

/-- Lets the running thread go on behind a system call. -/
def goOn (world : World) : World :=
  (world.modifyThread world.current fun thread => { thread with
    activity := if thread.activity = .waiting then .running else thread.activity
    deadline := none
    progress := 0
    queueing := .free }).settle

/-- Lets the running thread go on behind a system call with a result. -/
def answer (world : World) (value : UInt64) : World :=
  { world with cpu := world.cpu.set X86.ax value }.goOn

/-- What follows from what a system call came to. -/
def conclude (outcome : Except Stop UInt64) (world : World) : World :=
  match outcome with
  | .ok value => world.answer value
  | .error (.error errno) => world.answer (failure errno)
  | .error .wait => world.modifyThread world.current ({ · with activity := .waiting })
  | .error (.fault info) => (world.doing (Kernel.force info)).goOn
  | .error .diverted => world.goOn

/-- Tries the system call of the running thread. -/
def tryCall (world : World) : World :=
  let (outcome, world) := Kernel.serve.run world
  world.conclude outcome

/-- A system call of the running thread. The new instruction keeps the address of the next instruction
and the flags in two registers. -/
def call (world : World) (old : Bool) : World :=
  let cpu := world.cpu
  let cpu := if old then cpu else (cpu.set X86.cx cpu.next).set (X86.registerOf 11) cpu.flags
  let world := { world with cpu }.modifyThread world.current ({ · with calledOld := old })
  match (Kernel.letThrough old).run world with
  | (.ok (), world) => world.tryCall
  | (.error stop, world) => world.conclude (.error stop)

/-- Runs the running thread for at most so many instructions, and gives how many were left. -/
def runSlice : (most : Nat) → World → World × Nat
  | 0, world => (world, 0)
  | most + 1, world =>
    match Kernel.step.run world with
    | (.ok (.proceed _), world) => world.runSlice most
    | (.ok sequel, world) =>
      let world := world.call (sequel == .oldCall)
      if world.running.activity = .running then world.runSlice most else (world, most)
    | (.error (.fault info), world) =>
      let world := ({ world with cpu := world.cpu.faulted info }.doing (Kernel.force info)).settle
      if world.running.activity = .running then world.runSlice most else (world, most)
    | (.error _, world) => (world, most)

/-- How many instructions a thread runs before another one does. -/
def sliceLength : Nat := 20000

/-- The time that an instruction takes, in nanoseconds. -/
def instructionTime : Nat := 100

/-- A thread that is running, from the last before `below` downwards. -/
def pickRunning (world : World) : (below : Nat) → Option Nat
  | 0 => none
  | below + 1 =>
    if (world.threads.getD below {}).activity = .running then some below
    else world.pickRunning below

/-- The thread that runs next: one before `below` if there is any, and else the last. -/
def pickNext (world : World) (below : Nat) : Option Nat :=
  match world.pickRunning below with
  | some index => some index
  | none => world.pickRunning world.threads.size

/-- Lets a signal interrupt the call of the running thread. -/
def interrupt (world : World) : World :=
  match Kernel.interrupted.run world with
  | (.ok (some value), world) => world.answer value
  | (_, world) => { world with cpu := world.cpu.again }.goOn

/-- Lets a thread that waits try again, and says whether it goes on. -/
def retry (world : World) (index : Nat) : World × Bool :=
  let world := (world.switchTo index).tryCall
  if world.running.activity ≠ .waiting then (world, true)
  else if Kernel.isDisturbed world index then (world.interrupt, true)
  else (world, false)

/-- Lets the threads that wait try again, from the last before `below` downwards, until one goes on. -/
def retryAny : (below : Nat) → World → World × Bool
  | 0, world => (world, false)
  | below + 1, world =>
    if (world.threads.getD below {}).activity = .waiting then
      let (world, goes) := world.retry below
      if goes then (world, true) else retryAny below world
    else retryAny below world

/-- The times at which something happens without a thread doing it. -/
def dueTimes (world : World) : List Nat :=
  let threads := world.threads.toList.filterMap fun thread =>
    if thread.activity = .waiting then thread.deadline else none
  threads ++ world.ringTimes

/-- Lets time pass until something happens. -/
def passTime (world : World) : Option World :=
  match world.dueTimes.filter (world.clock < ·) with
  | [] => none
  | first :: rest => some { world with clock := rest.foldl min first }.ring

/-- Lets the time of some instructions pass. -/
def passInstructions (world : World) (count : Nat) : World :=
  let time := count * instructionTime
  let process := world.running.process
  ({ world with clock := world.clock + time, steps := world.steps + count }.modifyProcess process
    fun process =>
      { process with spent := process.spent + time }).ring

/-- How many instructions are executed at most. -/
def mostSteps : Nat := 5000000

/-- Runs all threads to their end, for at most so many slices. A thread that has run a whole slice comes
behind those before it. -/
def run : (slices below : Nat) → World → World
  | 0, _, world => world
  | slices + 1, below, world =>
    if mostSteps ≤ world.steps then world
    else match world.pickNext below with
    | some index =>
      let world := (world.switchTo index).settle
      if world.running.activity = .running then
        let (world, left) := world.runSlice sliceLength
        run slices (if left = 0 then index else world.threads.size)
          (world.passInstructions (sliceLength - left))
      else run slices world.threads.size world
    | none =>
      let (world, goes) := world.retryAny world.threads.size
      if goes then run slices world.threads.size world
      else match world.passTime with
        | some world => run slices world.threads.size world
        | none => world

/-- How many slices are run at most. -/
def mostSlices : Nat := 100000

end World

end StaticElf.Linux
