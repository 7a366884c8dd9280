/-
**Handles and rules of files.**

* `Service.tellHandle`, `Service.openHandle` — names for files that do not depend on where they are.
* `Service.tellRules`, `Service.setRules` — what a device keeps about the use of a file.
* `Service.tellCached` — how much of a file is in memory.
* `Service.makeRuleset`, `Service.addRule`, `Service.applyRuleset` — what a process allows itself to do.
-/

import StaticElf.Linux.Service.Status

namespace StaticElf.Linux

namespace Kernel

/-- The node that a path leads to, or the one behind a file descriptor if the path is empty. -/
def nodeNamed (descriptor path : UInt64) (through mayBeEmpty : Bool) : Kernel (Option Nat) := do
  let text ← readName path
  if !text.isEmpty then return some (← findAt descriptor text through)
  failIf (!mayBeEmpty) .noEntry
  if isCurrent descriptor then return some (← place).directory
  nodeOf descriptor

/-- Whether a device keeps rules about the use of a node. -/
def hasRules (node : Option Nat) : Kernel Bool := do
  match node with
  | none => return false
  | some node => return (← isRegular node) || (← isDirectory node)

end Kernel

namespace Service

open Kernel

/-! ### Handles -/

/-- The bytes of a handle. -/
def handleBytes : Nat := 8

def tellHandle : Service := fun arguments => do
  let flags := low arguments.fifth
  failIf (flags &&& 0x1603 ≠ flags || flags &&& 0x202 = 0x202) .invalidArgument
  let node ← nodeNamed arguments.first arguments.second (flags &&& 0x400 ≠ 0) (flags &&& 0x1000 ≠ 0)
  let room := low (← readNumber arguments.third 4)
  let _ ← readNumber arguments.third 8
  failIf (128 < room) .invalidArgument
  let number := UInt64.ofNat (node.getD 0)
  writeNumber arguments.fourth (if flags &&& 1 ≠ 0 then 8 else 4) 30
  let header := wordBytes 4 (result handleBytes) ++ wordBytes 4 1
  if room < handleBytes then
    writeMemory arguments.third header
    fail .overflow
  writeMemory arguments.third (header ++ wordBytes 8 number)
  return 0

def openHandle : Service := fun arguments => do
  if !isCurrent arguments.first then
    let _ ← binding (low arguments.first)
  let header ← readNumber arguments.second 8
  let room := low header
  failIf (room = 0 || 128 < room) .invalidArgument
  fail .notPermitted

/-! ### Rules -/

/-- The rules that can be set, and those of them that need privileges. -/
def settableRules : Nat := 0x2e0
def privilegedRules : Nat := 0x18
def knownRules : Nat := 0x8001fffb

def tellRules : Service := fun arguments => do
  let flags := low arguments.fifth
  let length := arguments.fourth.toNat
  failIf (flags &&& 0x1100 ≠ flags) .invalidArgument
  failIf (pageBytes < length) .listTooLong
  failIf (length < 24) .invalidArgument
  let node ← nodeNamed arguments.first arguments.second (flags &&& 0x100 = 0) (flags &&& 0x1000 ≠ 0)
  failIf (!(← hasRules node)) .notSupported
  writeMemory arguments.third (padded ByteArray.empty length)
  return 0

def setRules : Service := fun arguments => do
  let flags := low arguments.fifth
  failIf (flags &&& 0x1100 ≠ flags) .invalidArgument
  let bytes ← readSized arguments.third arguments.fourth.toNat 24 24
  let rules := (littleEndian bytes 0 8).toNat
  failIf (rules &&& knownRules ≠ rules) .invalidArgument
  let node ← nodeNamed arguments.first arguments.second (flags &&& 0x100 = 0) (flags &&& 0x1000 ≠ 0)
  failIf (!(← hasRules node)) .notSupported
  failIf (rules &&& privilegedRules ≠ 0) .notPermitted
  failIf (rules &&& settableRules ≠ rules || littleEndian bytes 8 4 != 0
    || littleEndian bytes 20 4 != 0) .notSupported
  return 0

/-! ### Pages in memory -/

def tellCached : Service := fun arguments => do
  let (_, description) ← opened (low arguments.first)
  let range ← readNumbers arguments.second 2
  failIf (low arguments.fourth ≠ 0) .invalidArgument
  let start := (range.getD 0 0).toNat
  let length := (range.getD 1 0).toNat
  let within (page : Nat) : Bool :=
    start / pageBytes ≤ page && (length = 0 || page * pageBytes < start + length)
  let content? ← match description.opened with
    | .memory content _ => pure (some content)
    | .node node =>
      match ← leafAt node with
      | some (.regular content) => pure (some content)
      | _ => pure none
    | _ => pure none
  let cached ← match content? with
    | none => pure 0
    | some number => pure (((← content number).pages.toList.filter fun (page, _) => within page).length)
  writeNumbers arguments.third [result cached, result cached, 0, 0, 0]
  return 0

def makeSecretMemory : Service := fun arguments => do
  let flags := low arguments.first
  failIf (flags ≠ 0 && flags ≠ OpenFlags.closeOnExec) .invalidArgument
  return result (← install { opened := .other, flags := OpenFlags.readWrite } (flags ≠ 0))

/-! ### What a process allows itself to do -/

/-- The version of the rules that can be given. -/
def rulesetVersion : UInt64 := 7

def makeRuleset : Service := fun arguments => do
  let length := arguments.second.toNat
  match low arguments.third with
  | 0 =>
    failIf (arguments.first = 0) .badAddress
    let bytes ← readSized arguments.first length 8 24
    let handled (index : Nat) : UInt64 := littleEndian bytes (8 * index) 8
    failIf (0xffff < handled 0 || 3 < handled 1 || 3 < handled 2) .invalidArgument
    failIf (handled 0 = 0 && handled 1 = 0 && handled 2 = 0) .noMessage
    return result (← install { opened := .other, flags := OpenFlags.readWrite } true)
  | 1 =>
    failIf (arguments.first != 0 || length ≠ 0) .invalidArgument
    return rulesetVersion
  | 2 =>
    failIf (arguments.first != 0 || length ≠ 0) .invalidArgument
    return 7
  | _ => fail .invalidArgument

def addRule : Service := fun arguments => do
  failIf (low arguments.fourth ≠ 0) .invalidArgument
  let (_, description) ← opened (low arguments.first)
  failIf (description.opened ≠ .other) .badState
  match low arguments.second with
  | 1 =>
    let allowed ← readNumber arguments.third 8
    failIf (allowed = 0) .noMessage
    let parent := littleEndian (← readMemory arguments.third 12) 8 4
    let _ ← binding (low parent)
    return 0
  | 2 =>
    let numbers ← readNumbers arguments.third 2
    failIf (numbers.getD 0 0 = 0) .noMessage
    failIf (0xffff < numbers.getD 1 0) .invalidArgument
    return 0
  | _ => fail .invalidArgument

def applyRuleset : Service := fun arguments => do
  failIf (!(← thread).unprivileged) .notPermitted
  let flags := low arguments.second
  failIf (7 < flags) .invalidArgument
  if low arguments.first = 0xffffffff && flags = 4 then return 0
  let (_, description) ← opened (low arguments.first)
  failIf (description.opened ≠ .other) .badState
  return 0

/-- What the parts of the kernel that keep watch say about the running thread. -/
def tellWatchers : Service := fun arguments => do
  failIf (low arguments.first = 0 || arguments.third = 0) .invalidArgument
  let _ ← readNumber arguments.third 4
  writeNumber arguments.third 4 0
  fail .notSupported

def tellWatcherNumbers : Service := fun arguments => do
  failIf (low arguments.third ≠ 0) .invalidArgument
  let room := low (← readNumber arguments.second 4)
  let watchers : List UInt64 := [108, 100, 110, 109]
  writeNumber arguments.second 4 (result (8 * watchers.length))
  failIf (room < 8 * watchers.length) .listTooLong
  writeNumbers arguments.first watchers
  return result watchers.length

def setWatchers : Service := fun arguments => do
  let length := low arguments.third
  failIf (low arguments.fourth ≠ 0 || length < 32) .invalidArgument
  failIf (pageBytes < length) .listTooLong
  let bytes ← readMemory arguments.second length
  let total := (littleEndian bytes 16 8).toNat
  let inner := (littleEndian bytes 24 8).toNat
  failIf (length < total || total < 32 + inner) .invalidArgument
  fail .notSupported

end Service

end StaticElf.Linux
