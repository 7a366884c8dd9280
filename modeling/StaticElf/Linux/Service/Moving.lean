/-
**Mappings that move or get another length.**

* `MoveRequest` — what is asked for.
* `Kernel.moveTo`, `Kernel.lengthen` — the two ways in which a mapping is moved.
* `Service.remap`, `Service.showElsewhere` — the system calls.
-/

import StaticElf.Linux.Service.Mapping

namespace StaticElf.Linux

/-- What is asked for when a mapping moves or gets another length. -/
structure MoveRequest where
  start : Nat
  oldLength : Nat
  newLength : Nat
  target : Nat
  mayMove : Bool
  /-- Whether the mapping has to be moved to the target. -/
  isFixed : Bool
  /-- Whether the mapping stays where it was as well, with nothing in it. -/
  keeps : Bool

namespace MoveRequest

/-- Whether a target is named. -/
def namesTarget (request : MoveRequest) : Bool := request.isFixed || request.keeps

/-- Whether the mapping gets longer. -/
def grows (request : MoveRequest) : Bool := request.oldLength < request.newLength

/-- Whether the mapping gets shorter. -/
def shrinks (request : MoveRequest) : Bool := request.newLength < request.oldLength

/-- By how many bytes the length changes. -/
def change (request : MoveRequest) : Nat :=
  (request.newLength - request.oldLength) + (request.oldLength - request.newLength)

/-- Whether the target has an address of what is moved. -/
def overlaps (request : MoveRequest) : Bool :=
  request.target < request.start + request.oldLength
    && request.start < request.target + request.newLength

/-- Whether a request makes sense, whatever is mapped. -/
def isSound (request : MoveRequest) : Bool :=
  request.start % pageBytes = 0
    && 0 < request.newLength && request.newLength ≤ addressLimit
    && (!request.namesTarget
      || (request.target + request.newLength ≤ addressLimit
        && request.target % pageBytes = 0
        && request.mayMove
        && (!request.keeps || request.oldLength = request.newLength)
        && !request.overlaps))

end MoveRequest

namespace Kernel

/-- Moves what is mapped in a range to another place. -/
def moveRange (start oldLength newLength target : Nat) (keeps : Bool) : Kernel Unit := do
  let space ← space
  let stop := start + oldLength
  let moved := space.movedPages start stop target
  match (space.within start (max stop (start + 1))).head?, space.find? start with
  | some mapping, some whole =>
    modifySpace fun space =>
      let space := if keeps then
          (space.forget start stop).update whole.start whole.stop ({ · with residence := .free })
        else space.clear start stop
      let space := space.clear target (target + newLength)
      (space.insert { mapping with start := target, stop := target + newLength }).withPages moved
  | _, _ => pure ()

/-- Makes a mapping longer where it is. -/
def extendMapping (mapping : Mapping) (stop : Nat) : Kernel Unit :=
  modifySpace (·.insert { mapping with
    start := mapping.stop
    stop
    source := mapping.source.skip (mapping.stop - mapping.start)
    guarded := false })

/-- The mapping that is to be moved or to get another length, if that can be done. -/
def movable (request : MoveRequest) : Kernel Mapping := do
  let mapping ← ofOption ((← space).find? request.start) .badAddress
  failIf mapping.isSealed .notPermitted
  if request.namesTarget || request.grows then
    failIf (request.oldLength = 0 && !mapping.shared) .invalidArgument
    failIf (mapping.stop < request.start + min request.oldLength request.newLength) .badAddress
    if request.grows then
      checkLocked mapping.residence request.change
      checkRoom request.change 0 (!mapping.shared) (mapping.access &&& 2 ≠ 0)
  return mapping

/-- Moves a mapping to the place that is named, or near it. -/
def moveTo (request : MoveRequest) (mapping : Mapping) : Kernel Nat := do
  let start := request.start
  if request.isFixed then
    failIf (← isSealed request.target (request.target + request.newLength)) .notPermitted
    modifySpace (·.clear request.target (request.target + request.newLength))
  if request.shrinks then
    failIf (← isSealed (start + request.newLength) (start + request.oldLength)) .notPermitted
    modifySpace (·.clear (start + request.newLength) (start + request.oldLength))
  let kept := min request.oldLength request.newLength
  if request.keeps then checkRoom kept 0 (!mapping.shared) (mapping.access &&& 2 ≠ 0)
  let target ← if request.isFixed then pure request.target
    else choosePlace request.target request.newLength false
  failIf (target < lowestMapped) .notPermitted
  moveRange start kept request.newLength target request.keeps
  if mapping.residence ≠ .free then populateSome target (target + request.newLength)
  return target

/-- Moves all that is mapped in a range. The holes between mappings stay as they are. -/
def moveAll (request : MoveRequest) : (mappings : List Mapping) → Kernel Unit
  | [] => pure ()
  | mapping :: rest => do
    let part := { request with
      start := mapping.start
      target := request.target + (mapping.start - request.start)
      oldLength := mapping.stop - mapping.start
      newLength := mapping.stop - mapping.start }
    let _ ← moveTo part (← movable part)
    moveAll request rest

/-- Makes a mapping longer, where it is or elsewhere. -/
def lengthen (request : MoveRequest) (mapping : Mapping) : Kernel Nat := do
  let start := request.start
  let stop := start + request.newLength
  if start + request.oldLength = mapping.stop && stop ≤ addressLimit
      && (← space).isFree mapping.stop stop then
    extendMapping mapping stop
    if mapping.residence ≠ .free then populateSome mapping.stop stop
    return start
  failIf (!request.mayMove) .noMemory
  let target ← choosePlace 0 request.newLength false
  moveRange start request.oldLength request.newLength target false
  if mapping.residence ≠ .free then populateSome target (target + request.newLength)
  return target

/-- Whether mappings go on without a hole, show the same and are alike, up to an address. -/
def areAlike (mapping : Mapping) (stop : Nat) : List Mapping → (reached : Nat) → Bool
  | [], reached => stop ≤ reached
  | next :: rest, reached =>
    stop ≤ reached
      || (next.start = reached
        && next.access = mapping.access
        && next.shared = mapping.shared
        && (match next.source, mapping.source with
          | .content number _, .content other _ => number = other
          | _, _ => false)
        && areAlike mapping stop rest next.stop)

end Kernel

namespace Service

open Kernel

def remap : Service := fun arguments => do
  let flags := arguments.fourth
  let request : MoveRequest := {
    start := arguments.first.toNat
    oldLength := alignedLength arguments.second
    newLength := alignedLength arguments.third
    target := arguments.fifth.toNat
    mayMove := hasBits flags 1
    isFixed := hasBits flags 2
    keeps := hasBits flags 4 }
  failIf (7 < flags || !request.isSound) .invalidArgument
  let stop := request.start + request.oldLength
  if request.isFixed && request.change = 0 then
    let within := (← space).within request.start stop
    failIf (!(within.head?.any fun mapping => mapping.start = request.start)) .badAddress
    moveAll request within
    return result request.target
  let mapping ← movable request
  if request.namesTarget then return result (← moveTo request mapping)
  if request.grows then return result (← lengthen request mapping)
  if request.shrinks then
    failIf (addressLimit < stop) .invalidArgument
    failIf (← isSealed (request.start + request.newLength) stop) .notPermitted
    modifySpace (·.clear (request.start + request.newLength) stop)
  return result request.start

/-- Shows another part of a file in a range that shows a part of it. -/
def showElsewhere : Service := fun arguments => do
  let start := arguments.first.toNat / pageBytes * pageBytes
  let length := arguments.second.toNat / pageBytes * pageBytes
  failIf (arguments.third != 0 || length = 0) .invalidArgument
  failIf (UInt64.size ≤ start + length || UInt64.size ≤ arguments.fourth.toNat + length / pageBytes)
    .invalidArgument
  let mapping ← ofOption ((← space).find? start) .invalidArgument
  failIf (!(mapping.shared && mapping.mayWrite)) .invalidArgument
  let stop := start + length
  failIf (!areAlike mapping stop ((← space).within start stop) start) .invalidArgument
  match mapping.source with
  | .zeros => fail .invalidArgument
  | .content number _ =>
    failIf (mapping.isSealed) .notPermitted
    modifySpace fun space => (space.clear start stop).insert { mapping with
      start
      stop
      source := .content number (arguments.fourth.toNat * pageBytes) }
    populateSome start stop
    return 0

end Service

end StaticElf.Linux
