/-
**Time as system calls.**

* `Service.sleep`, `Service.sleepBy` — waiting.
* `Service.setAlarm`, `Service.setTimer`, `Service.makeAlarm`, … — clocks that ring.
* `Service.tellTime`, … — telling the time.
-/

import StaticElf.Linux.Clock
import StaticElf.Linux.Service.Signals

namespace StaticElf.Linux

namespace Kernel

/-- The time of day at the start of a program. -/
def startOfDay : Nat := 1750000000000000000

/-- The time since the machine was started, at the start of a program. -/
def startOfMachine : Nat := 100000000000000

/-- What a clock shows. -/
def clockValue (clock : Nat) : Kernel Nat := do
  let now := (← get).clock
  match clock with
  | 0 | 5 | 8 | 11 => return startOfDay + now
  | 2 | 3 => return (← process).spent + 1000000
  | _ => return startOfMachine + now

/-- Whether there is such a clock. Those with negative numbers count the time of processes. -/
def isClock (clock : Nat) : Bool := clock ≤ 9 || clock = 11 || 0x80000000 ≤ clock

/-- How long it is until a clock shows a time. -/
def timeUntil (clock time : Nat) : Kernel Nat := do return time - (← clockValue clock)

/-- Waits for some time in any case. -/
def sleepFor (nanoseconds : Nat) : Kernel Unit := waitAtMost (max 1 nanoseconds)

/-- A clock as it is set, in seconds and nanoseconds: the interval, then the time to wait. -/
def readSetting (address : UInt64) : Kernel (Nat × Nat) := do
  let numbers ← readNumbers address 4
  let bad (index : Nat) : Bool :=
    isNegative (numbers.getD index 0) || 1000000000 ≤ numbers.getD (index + 1) 0
  failIf (bad 0 || bad 2) .invalidArgument
  let time (index : Nat) : Nat :=
    (numbers.getD index 0).toNat * 1000000000 + (numbers.getD (index + 1) 0).toNat
  return (time 0, time 2)

/-- How a clock was set, in units of which a second has so many. -/
def tellSetting (address : UInt64) (interval left unit : Nat) : Kernel Unit :=
  let parts (time : Nat) : List UInt64 :=
    [result (time / 1000000000), result (time % 1000000000 / (1000000000 / unit))]
  writeNumbers address (parts interval ++ parts left)

/-- A clock that rings after some time and then after every interval. Nothing rings after no time. -/
def alarmAfter (now wait interval : Nat) : Alarm :=
  if wait = 0 then {} else { due := some (now + wait), interval }

/-- One of the three clocks of a process. -/
def ownAlarm (process : Process) : Nat → Alarm
  | 0 => process.alarm
  | 1 => process.virtualAlarm
  | _ => process.profileAlarm

/-- Sets one of the three clocks of a process. -/
def setOwnAlarm (which : Nat) (alarm : Alarm) : Kernel Unit :=
  modifyProcess fun process =>
    match which with
    | 0 => { process with alarm }
    | 1 => { process with virtualAlarm := alarm }
    | _ => { process with profileAlarm := alarm }

/-- The time by which one of the three clocks of a process goes. -/
def alarmTime (which : Nat) : Kernel Nat := do
  if which = 0 then return (← get).clock else return (← process).spent

/-- A clock that a process made. -/
def madeAlarm (number : Nat) : Kernel MadeAlarm := do
  ofOption ((← process).madeAlarms.find? (·.number = number)) .invalidArgument

end Kernel

namespace Service

open Kernel

/-! ### Waiting -/

def sleep : Service := fun arguments => do
  let time ← readTime arguments.first
  sleepFor time
  return 0

def sleepBy : Service := fun arguments => do
  let clock := low arguments.first
  failIf (!isClock clock) .invalidArgument
  failIf (3 ≤ clock && clock ≤ 6) .notSupported
  let time ← readTime arguments.third
  if hasBits arguments.second 1 then
    match (← thread).deadline with
    | none => waitAtMost (← timeUntil clock time)
    | some _ => waitAtMost 1
  else sleepFor time
  return 0

/-! ### The clocks of a process -/

def setAlarm : Service := fun arguments => do
  let now := (← get).clock
  let left := (← process).alarm.left now
  let seconds := low arguments.first
  setOwnAlarm 0 (alarmAfter now (seconds * 1000000000) 0)
  let whole := left / 1000000000
  let rest := left % 1000000000
  return result (if (whole = 0 && 0 < rest) || 500000000 ≤ rest then whole + 1 else whole)

def tellTimer : Service := fun arguments => do
  let which := low arguments.first
  failIf (2 < which) .invalidArgument
  let alarm := ownAlarm (← process) which
  let left := alarm.left (← alarmTime which)
  tellSetting arguments.second alarm.interval left 1000000
  return 0

def setTimer : Service := fun arguments => do
  let numbers ← if arguments.second = 0 then pure [0, 0, 0, 0]
    else readNumbers arguments.second 4
  let bad (index : Nat) : Bool :=
    isNegative (numbers.getD index 0) || 1000000 ≤ numbers.getD (index + 1) 0
  failIf (arguments.second != 0 && (bad 0 || bad 2)) .invalidArgument
  let which := low arguments.first
  failIf (2 < which) .invalidArgument
  let time (index : Nat) : Nat :=
    (numbers.getD index 0).toNat * 1000000000 + (numbers.getD (index + 1) 0).toNat * 1000
  let now ← alarmTime which
  let old := ownAlarm (← process) which
  setOwnAlarm which (alarmAfter now (time 2) (time 0))
  if arguments.third != 0 then tellSetting arguments.third old.interval (old.left now) 1000000
  return 0

/-! ### Clocks that are made -/

def makeAlarm : Service := fun arguments => do
  let clock := low arguments.first
  failIf (!isClock clock) .invalidArgument
  failIf (clock = 4 || clock = 5 || clock = 6) .notSupported
  failIf (clock = 8 || clock = 9) .notPermitted
  let process ← process
  let number := process.madeAlarms.foldl (fun most made => max most (made.number + 1)) 0
  let (signal, value) ← if arguments.second = 0 then pure (some Signal.alarm, result number)
    else (do
      let numbers ← readNumbers arguments.second 8
      let signal := low (numbers.getD 1 0)
      let kind := low (numbers.getD 1 0 >>> 32)
      let thread := low (numbers.getD 2 0)
      failIf (!([0, 1, 2, 4].contains kind)) .invalidArgument
      failIf (kind = 4 && thread ≠ (← Kernel.thread).number) .invalidArgument
      failIf (kind ≠ 1 && !Signal.isValid signal) .invalidArgument
      pure (if kind = 1 then none else some signal, numbers.getD 0 0))
  modifyProcess fun process => { process with
    madeAlarms := process.madeAlarms ++ [{ number, signal, value }] }
  writeNumber arguments.third 4 (result number)
  return 0

def setMadeAlarm : Service := fun arguments => do
  failIf (arguments.third = 0) .invalidArgument
  let (interval, time) ← readSetting arguments.third
  let number := low arguments.first
  let made ← madeAlarm number
  let now := (← get).clock
  let wait ← if time ≠ 0 && hasBits arguments.second 1
    then (do return max 1 (← timeUntil (if startOfDay / 2 < time then 0 else 1) time)) else pure time
  let alarm := alarmAfter now wait interval
  modifyProcess fun process => { process with
    madeAlarms := process.madeAlarms.map fun other =>
      if other.number = number then { other with alarm } else other }
  if arguments.fourth != 0 then
    tellSetting arguments.fourth made.alarm.interval (made.alarm.left now) 1000000000
  return 0

def tellMadeAlarm : Service := fun arguments => do
  let made ← madeAlarm (low arguments.first)
  tellSetting arguments.second made.alarm.interval (made.alarm.left (← get).clock) 1000000000
  return 0

def tellOverrun : Service := fun arguments => do
  let _ ← madeAlarm (low arguments.first)
  return 0

def deleteAlarm : Service := fun arguments => do
  let number := low arguments.first
  let _ ← madeAlarm number
  modifyProcess fun process => { process with
    madeAlarms := process.madeAlarms.filter (·.number ≠ number) }
  return 0

/-! ### Clocks that are open files -/

/-- The open clock behind a file descriptor. -/
def openTimer (descriptor : UInt64) : Kernel (Nat × Alarm) := do
  let (number, description) ← opened (low descriptor)
  match description.opened with
  | .timer due interval _ => return (number, { due, interval })
  | _ => fail .invalidArgument

/-- What is told of an open clock: when it rings next, after those times that have passed. -/
def tellOpenTimer (address : UInt64) (alarm : Alarm) : Kernel Unit := do
  let now := (← get).clock
  tellSetting address alarm.interval ((alarm.pass now).2.left now) 1000000000

def setOpenTimer : Service := fun arguments => do
  let (interval, time) ← readSetting arguments.third
  failIf (3 < low arguments.second) .invalidArgument
  let (number, old) ← openTimer arguments.first
  let now := (← get).clock
  let wait ← if time ≠ 0 && hasBits arguments.second 1
    then (do return max 1 (← timeUntil (if startOfDay / 2 < time then 0 else 1) time)) else pure time
  let alarm := alarmAfter now wait interval
  modifyDescription number ({ · with opened := .timer alarm.due alarm.interval 0 })
  if arguments.fourth != 0 then tellOpenTimer arguments.fourth old
  return 0

def tellTimerFile : Service := fun arguments => do
  let (_, alarm) ← openTimer arguments.first
  tellOpenTimer arguments.second alarm
  return 0

/-! ### Telling the time -/

def tellClock : Service := fun arguments => do
  let clock := low arguments.first
  failIf (!isClock clock) .invalidArgument
  writeTime arguments.second (← clockValue clock)
  return 0

def tellResolution : Service := fun arguments => do
  let clock := low arguments.first
  failIf (!isClock clock) .invalidArgument
  if arguments.second != 0 then
    writeTime arguments.second (if clock = 5 || clock = 6 then 4000000 else 1)
  return 0

def tellTimeOfDay : Service := fun arguments => do
  let now ← clockValue 0
  if arguments.first != 0 then
    writeNumbers arguments.first
      [result (now / 1000000000), result (now % 1000000000 / 1000)]
  if arguments.second != 0 then writeNumber arguments.second 8 0
  return 0

def tellSeconds : Service := fun arguments => do
  let seconds := result ((← clockValue 0) / 1000000000)
  if arguments.first != 0 then writeNumber arguments.first 8 seconds
  return seconds

def tellSpent : Service := fun arguments => do
  if arguments.first != 0 then writeNumbers arguments.first [0, 0, 0, 0]
  return result ((← clockValue 1) / 10000000)

def tellUsage : Service := fun arguments => do
  let who := lowSigned arguments.first
  failIf (who ≠ 0 && who ≠ 1 && who ≠ -1) .invalidArgument
  writeMemory arguments.second ⟨Array.replicate 144 0⟩
  return 0

end Service

end StaticElf.Linux
