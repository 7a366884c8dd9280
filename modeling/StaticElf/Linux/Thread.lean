/-
**Threads and processes.**

A thread is what a processor runs. A process is a group of threads that is waited for and signalled as
one. What threads can share (the address space, the file descriptors, the working directory, what is done
about signals) is kept apart and known to them by number.

* `Cpu` — the state of a processor.
* `Thread`, `Process` — what is kept of each.
-/

import StaticElf.Linux.Description
import StaticElf.Linux.Space
import StaticElf.Machine.Processor

namespace StaticElf.Linux

export StaticElf.Machine (Registers)

/-- The state of a processor. -/
structure Cpu where
  registers : Registers := .zero
  /-- The address of the next instruction. -/
  next : UInt64 := 0
  flags : UInt64 := 0x202
  fsBase : UInt64 := 0
  gsBase : UInt64 := 0
  /-- What the protection keys forbid, two bits for each. -/
  keyRights : UInt64 := 0x55555554
  /-- The vector registers, sixteen bytes each, the low half first. -/
  vectors : Array UInt64 := Array.replicate 32 0

namespace Cpu

/-- The value of a register. -/
@[inline] def get (cpu : Cpu) (register : Fin 16) : UInt64 := cpu.registers.get register

/-- Writes a whole register. -/
@[inline] def set (cpu : Cpu) (register : Fin 16) (value : UInt64) : Cpu :=
  { cpu with registers := cpu.registers.assign (.low register .qword) value }

/-- The state that is kept of a processor when an instruction cannot be executed: a flag says that it is
to be resumed. A trap comes behind its instruction. -/
def faulted (cpu : Cpu) (info : SignalInfo) : Cpu :=
  if info.signal = Signal.trap then cpu else { cpu with flags := cpu.flags ||| 0x10000 }

/-- Lets the instruction of a system call be executed again. -/
def again (cpu : Cpu) : Cpu := { cpu with next := cpu.next - 2 }

end Cpu

/-- What a thread is doing. -/
inductive Activity where
  | running
  /-- In a call that cannot be finished yet. -/
  | waiting
  /-- Until a child has ended or loaded another file. -/
  | suspended (child : Nat)
  | stopped
  | ended
  deriving DecidableEq, Repr

/-- A step of a filter of system calls. -/
structure FilterStep where
  code : Nat
  whenTrue : Nat
  whenFalse : Nat
  operand : Nat
  deriving DecidableEq, Repr

/-- Which system calls a thread can make. -/
structure Confinement where
  /-- Nothing but reading, writing and ending. -/
  strict : Bool := false
  /-- The filters that every call is put through, the last first. -/
  filters : List (List FilterStep) := []
  deriving DecidableEq, Repr

/-- Calls that are turned into signals: those from outside a range, when the byte at an address says so. -/
structure Interception where
  start : UInt64
  length : UInt64
  selector : UInt64
  deriving DecidableEq, Repr

/-- The stack on which handlers of signals run if they ask for it. -/
structure AlternateStack where
  start : UInt64 := 0
  length : UInt64 := 0
  flags : UInt64 := 0
  deriving DecidableEq, Repr

/-- The flag of a stack that is forgotten when a handler starts on it. -/
def AlternateStack.leaves : UInt64 := 0x80000000

/-- What threads wait for together: a place in memory that is shared or not, by its kind, by where it is,
and by its address there. -/
structure QueueKey where
  kind : Nat
  owner : Nat
  address : Nat
  deriving DecidableEq, Repr

/-- Whether a thread waits at a place in memory. -/
inductive Queueing where
  | free
  | queued (key : QueueKey) (bits : Nat)
  | woken
  deriving DecidableEq, Repr

/-- How a thread shares the processors with others. -/
structure Schedule where
  /-- How willingly it leaves them to others. -/
  nice : Int := 0
  policy : Nat := 0
  /-- Whether threads that it makes share them in the usual way. -/
  resetsOnFork : Bool := false
  /-- The time for which it runs at once, if it asked for one. -/
  slice : Option Nat := none
  /-- Its class and level in the use of devices. -/
  devicePriority : Nat := 0
  /-- The processors that it may use, one bit for each. -/
  processors : Nat := 0xf
  deriving DecidableEq, Repr

/-- The schedule of a thread that is made by one with a schedule. -/
def Schedule.forked (schedule : Schedule) : Schedule :=
  if schedule.resetsOnFork then
    { schedule with
      nice := max schedule.nice 0
      policy := 0
      resetsOnFork := false }
  else schedule

/-- A thread. -/
structure Thread where
  process : Nat := 0
  number : Nat := 0
  cpu : Cpu := {}
  space : Nat := 0
  descriptors : Nat := 0
  place : Nat := 0
  dispositions : Nat := 0
  activity : Activity := .running
  /-- The status with which the thread ended. -/
  status : Nat := 0
  /-- When a call that waits gives up. -/
  deadline : Option Nat := none
  /-- How much of a call is done. -/
  progress : Nat := 0
  queueing : Queueing := .free
  /-- Whether a call that waits was made by the old instruction. -/
  calledOld : Bool := false
  blocked : SignalSet := 0
  /-- The signals that are blocked again when a handler has run. -/
  saved : Option SignalSet := none
  pending : List SignalInfo := []
  stack : AlternateStack := {}
  name : Bytes := []
  confinement : Confinement := {}
  interception : Option Interception := none
  /-- Whether other files are run without more privileges than this one. -/
  unprivileged : Bool := false
  /-- The address that is cleared when the thread ends. -/
  clearedAtEnd : UInt64 := 0
  /-- The address of the list of locks that the thread holds. -/
  lockList : UInt64 := 0
  /-- The signal that is sent when the parent ends. -/
  parentSignal : Nat := 0
  /-- Whether reading the clock of the processor is refused. -/
  clockRefused : Bool := false
  /-- Whether asking the processor about itself is refused. -/
  featuresRefused : Bool := false
  /-- What the processor may do ahead of time with stores and with branches. -/
  speculation : Nat × Nat := (2, 2)
  /-- The time by which waiting may be late. -/
  slack : Nat := 50000
  schedule : Schedule := {}
  /-- From where its memory is taken, if it said so. -/
  policy : Option NodePolicy := none
  /-- The place where the processor that runs it is told, its length, and the mark of code that is made
  again. -/
  restarts : Option (UInt64 × Nat × Nat) := none

instance : Inhabited Thread := ⟨{}⟩

/-- How a process ended. -/
inductive Ended where
  | exited (status : Nat)
  | killed (signal : Nat)
  deriving DecidableEq, Repr

/-- The status that a parent is told. -/
def Ended.word : Ended → Nat
  | exited status => status % 256 * 256
  | killed signal => signal

/-- A clock of a process. -/
structure Alarm where
  /-- When it rings next. -/
  due : Option Nat := none
  /-- After what time it rings again. -/
  interval : Nat := 0
  deriving DecidableEq, Repr

/-- A clock that a process made, and the signal that it sends, if any. -/
structure MadeAlarm where
  number : Nat
  signal : Option Nat
  value : UInt64
  alarm : Alarm := {}
  deriving DecidableEq, Repr

/-- A limit that a process has, and how far it can be raised. -/
structure Limit where
  now : Nat
  most : Nat
  deriving DecidableEq, Repr

namespace Limit

/-- No limit. -/
def unlimited : Nat := 0xffffffffffffffff

def none : Limit := ⟨unlimited, unlimited⟩

end Limit

/-- The kinds of limits. -/
inductive Resource where
  | fileSize
  | data
  | stack
  | openFiles
  | lockedMemory
  | space
  deriving DecidableEq, Repr

/-- The place of a limit in the list of all limits. -/
def Resource.index : Resource → Nat
  | fileSize => 1
  | data => 2
  | stack => 3
  | openFiles => 7
  | lockedMemory => 8
  | space => 9

/-- The limits that a process starts with. -/
def usualLimits : Array Limit :=
  #[.none, .none, .none, ⟨0x800000, Limit.unlimited⟩, ⟨0, Limit.unlimited⟩, .none,
    ⟨127000, 127000⟩, ⟨1024, 524288⟩, ⟨0x800000, 0x800000⟩, .none, .none, ⟨127000, 127000⟩,
    ⟨819200, 819200⟩, ⟨0, 0⟩, ⟨0, 0⟩, .none]

/-- A process. -/
structure Process where
  number : Nat := 0
  /-- The process that is told when this one ends, unless that is one outside. -/
  parent : Option Nat := none
  processGroup : Nat := 0
  session : Nat := 0
  /-- The signal that the parent is sent when the process has ended. -/
  endSignal : Nat := Signal.child
  ended : Option Ended := none
  /-- Whether the parent was told that the process ended, and there is nothing left of it. -/
  told : Bool := false
  /-- How the process ends when its last thread has ended. -/
  ending : Option Ended := none
  pending : List SignalInfo := []
  limits : Array Limit := usualLimits
  /-- The time for which the threads of the process have run. -/
  spent : Nat := 0
  /-- The clock that counts all time, and those that count the time in which the process runs. -/
  alarm : Alarm := {}
  virtualAlarm : Alarm := {}
  profileAlarm : Alarm := {}
  madeAlarms : List MadeAlarm := []
  /-- Whether the process takes over the children of its own that lose their parent. -/
  adopts : Bool := false
  dumpable : Nat := 1
  persona : Nat := 0
  /-- What becomes of the process when its memory fails. -/
  errorHandling : Nat := 2
  /-- Whether the process chooses the numbers of the clocks that it makes. -/
  choosesNumbers : Bool := false

instance : Inhabited Process := ⟨{}⟩

/-- The number of the user and of the group of all processes. -/
def userNumber : Nat := 0

/-- Who a process is, as it is told with a signal: its number and its user. -/
def Process.identity (process : Process) : UInt64 :=
  UInt64.ofNat (process.number + 0x100000000 * userNumber)

/-- A limit of a process. -/
def Process.limit (process : Process) (resource : Resource) : Nat :=
  (process.limits.getD resource.index .none).now

/-- Where a process stands in the file system, and what it takes away from the permissions of files that
it makes. -/
structure Place where
  directory : Nat := FileSystem.start
  mask : Nat := 0o022
  deriving DecidableEq, Repr

end StaticElf.Linux
