/-
**Sharing the processors.**

* `Kernel.reschedule` — changes the way in which a thread shares the processors, as far as it may.
* `Service.setNice`, `Service.setPolicy`, `Service.setSchedule`, … — the system calls.
-/

import StaticElf.Linux.Peer
import StaticElf.Linux.Service.Users

namespace StaticElf.Linux

namespace Policy

def usual : Nat := 0
def firstComes : Nat := 1
def inTurn : Nat := 2
def batch : Nat := 3
def idle : Nat := 5
def deadline : Nat := 6
def other : Nat := 7

/-- Whether there is such a policy. -/
def isKnown (policy : Nat) : Bool := [0, 1, 2, 3, 5, 6].contains policy

/-- Whether there is a policy with this number, even one that no thread can have. -/
def isNamed (policy : Nat) : Bool := isKnown policy || policy = other

/-- Whether threads with this policy come before all others. -/
def isUrgent (policy : Nat) : Bool := policy = firstComes || policy = inTurn

/-- Whether threads with this policy share what is left by the others fairly. -/
def isFair (policy : Nat) : Bool := policy = usual || policy = batch

end Policy

namespace Kernel

/-- The time for which a thread runs at once if it did not ask for another one, in nanoseconds. -/
def usualSlice : Nat := 2100000

/-- The schedule of a thread. -/
def scheduleOf (peer : Peer) : Kernel Schedule := do
  match peer with
  | .inside index => return ((← get).threads.getD index {}).schedule
  | .outside => return {}

/-- Changes the schedule of a thread. One that is outside is left alone. -/
def modifySchedule (peer : Peer) (change : Schedule → Schedule) : Kernel Unit := do
  match peer with
  | .inside index => modify fun world => world.modifyThread index fun thread =>
      { thread with schedule := change thread.schedule }
  | .outside => fail .notPermitted

/-- The threads of a group of processes, or of all. -/
def peersOf (which : Nat) (number : Nat) : Kernel (List Peer) := do
  let world ← get
  let alive := (List.range world.threads.size).filter world.isAlive
  match which with
  | 0 => return [← peerNumbered (number : Int)]
  | 1 =>
    let own := (← process).processGroup
    let group := if number = 0 then own else number
    return (alive.filter fun index =>
      (world.processes.getD (world.threads.getD index {}).process {}).processGroup = group).map .inside
  | _ => return if number = userNumber then alive.map .inside else []

/-- What is to become of the schedule of a thread. -/
structure ScheduleRequest where
  /-- The policy, unless that stays as it is. -/
  policy : Option Nat
  priority : Nat := 0
  /-- How willingly the thread leaves the processors to others, unless that stays as it is. -/
  nice : Option Int := none
  resetsOnFork : Bool := false
  slice : Option Nat := none
  /-- For a policy by which work has to be done in time: how long it takes, until when it has to be done,
  and when the next comes. -/
  deadline : Nat × Nat × Nat := (0, 0, 0)

/-- Whether work that has to be done in time can be. -/
def ScheduleRequest.isFeasible (request : ScheduleRequest) : Bool :=
  let (runtime, deadline, period) := request.deadline
  let period := if period = 0 then deadline else period
  1024 ≤ runtime && runtime ≤ deadline && deadline ≤ period && period < 0x8000000000000000
    && 100000 ≤ period && period ≤ 4194304000

/-- Changes the way in which a thread shares the processors, as far as it may. -/
def reschedule (peer : Peer) (request : ScheduleRequest) : Kernel Unit := do
  let schedule ← scheduleOf peer
  let policy := request.policy.getD schedule.policy
  let resets := if request.policy.isSome then request.resetsOnFork else schedule.resetsOnFork
  let nice := request.nice.getD schedule.nice
  failIf (!Policy.isKnown policy) .invalidArgument
  failIf (99 < request.priority) .invalidArgument
  failIf (policy = Policy.deadline && !request.isFeasible) .invalidArgument
  failIf (Policy.isUrgent policy != (request.priority ≠ 0)) .invalidArgument
  failIf (Policy.isFair policy && nice < schedule.nice) .notPermitted
  failIf (Policy.isUrgent policy || policy = Policy.deadline) .notPermitted
  failIf (schedule.policy = Policy.idle && policy ≠ Policy.idle) .notPermitted
  failIf (schedule.resetsOnFork && !resets) .notPermitted
  modifySchedule peer fun schedule => { schedule with
    policy
    nice := if Policy.isFair policy then nice else schedule.nice
    resetsOnFork := resets
    slice := request.slice }

/-- A number in memory that is a priority, for a thread with a number. -/
def readPriority (number : Int) (address : UInt64) : Kernel Nat := do
  failIf (address = 0 || number < 0) .invalidArgument
  return (← readNumber address 4).toNat

/-- The thread with a number that is not negative. -/
def givenPeer (number : UInt64) : Kernel Peer := do
  failIf (lowSigned number < 0) .invalidArgument
  peerNumbered (lowSigned number)

end Kernel

namespace Service

open Kernel

/-! ### Niceness -/

def tellNice : Service := fun arguments => do
  let which := low arguments.first
  failIf (2 < which) .invalidArgument
  let peers ← peersOf which (low arguments.second)
  failIf peers.isEmpty .noProcess
  let nices ← peers.mapM fun peer => do return (← scheduleOf peer).nice
  let best := nices.foldl (fun best nice => min best nice) 19
  return UInt64.ofInt (20 - best)

def setNice : Service := fun arguments => do
  let which := low arguments.first
  failIf (2 < which) .invalidArgument
  let nice := max (-20) (min 19 (lowSigned arguments.third))
  let peers ← peersOf which (low arguments.second)
  failIf peers.isEmpty .noProcess
  for peer in peers do
    failIf (nice < (← scheduleOf peer).nice) .permissionDenied
    modifySchedule peer ({ · with nice })
  return 0

/-! ### Policies -/

def setPriority : Service := fun arguments => do
  let number := lowSigned arguments.first
  let priority ← readPriority number arguments.second
  reschedule (← peerNumbered number) { policy := none, priority }
  return 0

def tellPriority : Service := fun arguments => do
  failIf (arguments.second = 0) .invalidArgument
  let _ ← givenPeer arguments.first
  writeNumber arguments.second 4 0
  return 0

/-- The bit of a policy by which threads that are made share the processors in the usual way. -/
def resetBit : Nat := 0x40000000

def setPolicy : Service := fun arguments => do
  let number := lowSigned arguments.first
  failIf (lowSigned arguments.second < 0) .invalidArgument
  let priority ← readPriority number arguments.third
  let peer ← peerNumbered number
  let policy := low arguments.second
  let resetsOnFork := policy &&& resetBit ≠ 0
  reschedule peer { policy := some (policy - (policy &&& resetBit)), priority, resetsOnFork }
  return 0

def tellPolicy : Service := fun arguments => do
  let schedule ← scheduleOf (← givenPeer arguments.first)
  return result (schedule.policy + if schedule.resetsOnFork then resetBit else 0)

def leastPriority : Service := fun arguments => do
  let policy := low arguments.first
  failIf (!Policy.isNamed policy) .invalidArgument
  return if Policy.isUrgent policy then 1 else 0

def mostPriority : Service := fun arguments => do
  let policy := low arguments.first
  failIf (!Policy.isNamed policy) .invalidArgument
  return if Policy.isUrgent policy then 99 else 0

def tellTurn : Service := fun arguments => do
  let _ ← givenPeer arguments.first
  writeNumbers arguments.second [0, 0]
  return 0

/-! ### Schedules -/

/-- The length of the structure in which a schedule is told, and that of its first version. -/
def scheduleBytes : Nat := 56
def leastScheduleBytes : Nat := 48

/-- The bytes of a schedule in memory. One that is too long or too short is answered by the right length. -/
def readScheduleBytes (address : UInt64) : Kernel ByteArray := do
  let size := (← readNumber address 4).toNat
  let size := if size = 0 then leastScheduleBytes else size
  match ← attempt (readSized address size leastScheduleBytes scheduleBytes) with
  | .ok bytes => return bytes
  | .error errno =>
    if errno = .badAddress then fail errno
    writeNumber address 4 (result scheduleBytes)
    fail .listTooLong

def setSchedule : Service := fun arguments => do
  let number := lowSigned arguments.first
  failIf (arguments.second = 0 || number < 0 || low arguments.third ≠ 0) .invalidArgument
  let bytes ← readScheduleBytes arguments.second
  let policy := (littleEndian bytes 4 4).toNat
  let flags := (littleEndian bytes 8 8).toNat
  let nice := lowSigned (littleEndian bytes 16 4)
  let runtime := (littleEndian bytes 24 8).toNat
  failIf (0x80000000 ≤ policy) .invalidArgument
  let peer ← peerNumbered number
  failIf (0x7f < flags) .invalidArgument
  let keepsParameters := flags &&& 0x10 ≠ 0
  let slice := if runtime = 0 then none else some (max 100000 (min 100000000 runtime))
  reschedule peer {
    policy := if flags &&& 8 ≠ 0 then none else some policy
    priority := if keepsParameters then 0 else (littleEndian bytes 20 4).toNat
    nice := if keepsParameters then none else some (max (-20) (min 19 nice))
    resetsOnFork := flags &&& 1 ≠ 0
    slice
    deadline := (runtime, (littleEndian bytes 32 8).toNat, (littleEndian bytes 40 8).toNat) }
  failIf (flags &&& 0x60 ≠ 0) .notSupported
  return 0

def tellSchedule : Service := fun arguments => do
  let size := low arguments.third
  failIf (arguments.second = 0 || lowSigned arguments.first < 0) .invalidArgument
  failIf (pageBytes < size || size < leastScheduleBytes || low arguments.fourth ≠ 0)
    .invalidArgument
  let schedule ← scheduleOf (← givenPeer arguments.first)
  let told := min size scheduleBytes
  let flags : UInt64 := if schedule.resetsOnFork then 1 else 0
  let nice := UInt64.ofInt schedule.nice &&& 0xffffffff
  let bytes := wordBytes 4 (result told) ++ wordBytes 4 (result schedule.policy)
    ++ wordBytes 8 flags ++ wordBytes 8 nice
    ++ wordBytes 8 (result (schedule.slice.getD usualSlice))
  writeMemory arguments.second (padded bytes size)
  return 0

/-! ### Processors -/

/-- The length of the set of all processors that there could be. -/
def processorBytes : Nat := 32

def setProcessors : Service := fun arguments => do
  let length := low arguments.second
  let bytes ← readMemory arguments.third (min length processorBytes)
  let peer ← peerNumbered (lowSigned arguments.first)
  let wanted := (littleEndian bytes 0 (min bytes.size 8)).toNat &&& 0xf
  failIf (peer = .outside) .notPermitted
  failIf (wanted = 0) .invalidArgument
  modifySchedule peer ({ · with processors := wanted })
  return 0

def tellProcessors : Service := fun arguments => do
  let length := low arguments.second
  failIf (length = 0 || length % 8 ≠ 0) .invalidArgument
  let schedule ← scheduleOf (← peerNumbered (lowSigned arguments.first))
  let told := min length processorBytes
  writeMemory arguments.third (padded (wordBytes 8 (result schedule.processors)) told)
  return result told

/-! ### Devices -/

/-- Sees whether a class and a level of the use of devices can be had. -/
def checkDevicePriority (priority : Nat) : Kernel Unit := do
  let level := priority % 8
  match priority / 0x2000 % 8 with
  | 0 => failIf (level ≠ 0) .invalidArgument
  | 1 => fail .notPermitted
  | 2 | 3 => pure ()
  | _ => fail .invalidArgument

/-- The threads that a call about the use of devices is about. -/
def devicePeers (which number : UInt64) : Kernel (List Peer) := do
  match low which with
  | 1 => return [← peerNumbered (lowSigned number)]
  | 2 => peersOf 1 (low number)
  | 3 => peersOf 2 (low number)
  | _ => fail .invalidArgument

def setDevicePriority : Service := fun arguments => do
  let priority := low arguments.third
  checkDevicePriority priority
  let peers ← devicePeers arguments.first arguments.second
  failIf peers.isEmpty .noProcess
  for peer in peers do modifySchedule peer ({ · with devicePriority := priority })
  return 0

def tellDevicePriority : Service := fun arguments => do
  let peers ← devicePeers arguments.first arguments.second
  failIf peers.isEmpty .noProcess
  let single := low arguments.first = 1
  let priorities ← peers.mapM fun peer => do
    let schedule ← scheduleOf peer
    let usual := 0x4000 + ((schedule.nice + 20) / 5).toNat
    return if schedule.devicePriority / 0x2000 = 0 && !single then usual
      else schedule.devicePriority
  return result (priorities.foldl min 0xffff)

end Service

end StaticElf.Linux
