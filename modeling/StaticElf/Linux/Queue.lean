/-
**Waiting at places in memory.**

A thread can wait at a place in memory until another one wakes those that wait there.

* `Kernel.queueKey` — what stands for a place.
* `Kernel.wake` — wakes threads that wait at a place; `Kernel.requeue` lets them wait at another one.
* `Service.lock` — the system call.
-/

import StaticElf.Linux.Service.Time

namespace StaticElf.Linux

namespace Kernel

/-- What stands for a place in memory. Several processes can wait at a place of memory that they share. -/
def queueKey (address : UInt64) (own : Bool) : Kernel QueueKey := do
  failIf (address % 4 != 0) .invalidArgument
  failIf (addressLimit ≤ address.toNat) .badAddress
  let space := (← thread).space
  if own then return ⟨0, space, address.toNat⟩
  let mapping ← ofOption ((← Kernel.space).find? address.toNat) .badAddress
  match mapping.shared, mapping.source with
  | true, .content content offset => return ⟨2, content, address.toNat - mapping.start + offset⟩
  | _, _ => return ⟨1, space, address.toNat⟩

/-- The threads that wait at a place for some of the given bits. -/
def queuedAt (key : QueueKey) (bits : Nat) : Kernel (List Nat) := do
  let world ← get
  return (List.range world.threads.size).filter fun index =>
    let thread := world.threads.getD index {}
    thread.activity = .waiting && match thread.queueing with
      | .queued other wanted => other = key && wanted &&& bits ≠ 0
      | _ => false

/-- Wakes at most so many threads that wait at a place, but at least one, and gives their number. -/
def wake (key : QueueKey) (most bits : Nat) : Kernel Nat := do
  let woken := (← queuedAt key bits).take (max 1 most)
  modify fun world => woken.foldl
    (fun world index => world.modifyThread index ({ · with queueing := .woken })) world
  return woken.length

/-- Lets at most so many threads that wait at a place wait at another one. -/
def requeue (key other : QueueKey) (most : Nat) : Kernel Nat := do
  let moved := (← queuedAt key 0xffffffff).take most
  modify fun world => moved.foldl
    (fun world index => world.modifyThread index
      ({ · with queueing := .queued other 0xffffffff })) world
  return moved.length

/-- Waits at a place as long as the number there is the given one. -/
def waitAt (key : QueueKey) (address : UInt64) (value bits : Nat) (limit : Option Nat) :
    Kernel UInt64 := do
  failIf (bits = 0) .invalidArgument
  match (← thread).queueing with
  | .woken => return 0
  | .queued .. => pure ()
  | .free =>
    failIf (low (← readNumber address 4) ≠ value) .tryAgain
    modifyThread ({ · with queueing := .queued key bits })
  match limit with
  | none => wait
  | some limit =>
    waitAtMost (max 1 limit)
    fail .timedOut

/-- What is done with the number at a place. -/
def changed (action : Nat) (value operand : UInt32) : Kernel UInt32 :=
  match action with
  | 0 => return operand
  | 1 => return value + operand
  | 2 => return value ||| operand
  | 3 => return value &&& ~~~operand
  | 4 => return value ^^^ operand
  | _ => fail .notImplemented

/-- How a number is compared with another one. -/
def compared (action : Nat) (value operand : Int) : Kernel Bool :=
  match action with
  | 0 => return value == operand
  | 1 => return value != operand
  | 2 => return value < operand
  | 3 => return value ≤ operand
  | 4 => return operand < value
  | 5 => return operand ≤ value
  | _ => fail .notImplemented

/-- Twelve bits as a number with its sign. -/
def signedTwelve (bits : Nat) : Int := if bits < 2048 then bits else (bits : Int) - 4096

/-- Changes the number at a place as it is asked for in one word, and says whether it was as asked
before. -/
def changeAndCompare (address : UInt64) (word : Nat) : Kernel Bool := do
  let operand := signedTwelve (word / 4096 % 4096)
  let operand := if word / 0x80000000 % 2 = 1
    then (1 : UInt32) <<< UInt32.ofNat (operand % 32).toNat else UInt32.ofInt operand
  let old := (← readNumber address 4).toUInt32
  writeNumber address 4 (← changed (word / 0x10000000 % 8) old operand).toUInt64
  compared (word / 0x1000000 % 16) old.toInt32.toInt (signedTwelve (word % 4096))

/-- Takes a lock that has a holder: the number at a place is that of the holder, or zero. -/
def takeLock (address : UInt64) (waits : Bool) : Kernel UInt64 := do
  let value := low (← readNumber address 4)
  let own := (← thread).number
  failIf (value % 0x40000000 = own) .deadlock
  if value % 0x40000000 = 0 then
    writeNumber address 4 (result (value + own))
    return 0
  if waits then wait else fail .tryAgain

/-- Gives a lock back. -/
def leaveLock (address : UInt64) : Kernel UInt64 := do
  let value := low (← readNumber address 4)
  failIf (value % 0x40000000 ≠ (← thread).number) .notPermitted
  writeNumber address 4 0
  return 0

end Kernel

namespace Service

open Kernel

/-- The time limit of a call that waits at a place: from now on, or by a clock. -/
def queueLimit (address : UInt64) (operation command : Nat) : Kernel (Option Nat) := do
  if address = 0 then return none
  let time ← readTime address
  if command = 0 then return some time
  return some (← timeUntil (if operation &&& 256 ≠ 0 then 0 else 1) time)

def lock : Service := fun arguments => do
  let operation := low arguments.second
  let command := operation &&& 0x7f
  let own := operation &&& 128 ≠ 0
  let value := low arguments.third
  let other := low arguments.fourth
  match command with
  | 0 | 9 =>
    let limit ← queueLimit arguments.fourth operation command
    let key ← queueKey arguments.first own
    let bits := if command = 0 then 0xffffffff else low arguments.sixth
    waitAt key arguments.first value bits limit
  | 1 => return result (← wake (← queueKey arguments.first own) value 0xffffffff)
  | 10 =>
    failIf (low arguments.sixth = 0) .invalidArgument
    return result (← wake (← queueKey arguments.first own) value (low arguments.sixth))
  | 3 | 4 =>
    let key ← queueKey arguments.first own
    let target ← queueKey arguments.fifth own
    failIf (0x80000000 ≤ value || 0x80000000 ≤ other) .invalidArgument
    if command = 4 then
      failIf (low (← readNumber arguments.first 4) ≠ low arguments.sixth) .tryAgain
    let woken ← if value = 0 then pure 0 else wake key value 0xffffffff
    let moved ← requeue key target other
    return result (if command = 3 then woken else woken + moved)
  | 5 =>
    let key ← queueKey arguments.first own
    let target ← queueKey arguments.fifth own
    let holds ← changeAndCompare arguments.fifth (low arguments.sixth)
    let woken ← wake key value 0xffffffff
    let more ← if holds then wake target other 0xffffffff else pure 0
    return result (woken + more)
  | 6 | 13 => takeLock arguments.first true
  | 7 => leaveLock arguments.first
  | 8 => takeLock arguments.first false
  | _ => fail .notImplemented

end Service

end StaticElf.Linux
