/-
**File descriptors, and open files that have no name.**

* `Service.close`, `Service.duplicate`, … — file descriptors.
* `Service.makePipe`, `Service.makeCounter`, `Service.makeMemoryFile`, `Service.makeTimer`, … — what can be
  opened without a name.
-/

import StaticElf.Linux.Transfer

namespace StaticElf.Linux

namespace Kernel

/-! ### File descriptors -/

/-- Puts an open file behind the lowest free number from `least` on. -/
def duplicateFrom (descriptor least : Nat) (closeOnExec : Bool) : Kernel Nat := do
  let binding ← binding descriptor
  failIf ((← process).limit .openFiles ≤ least) .invalidArgument
  let target ← freeDescriptor least
  modifyDescriptors (·.insert target ⟨binding.description, closeOnExec⟩)
  return target

/-- Puts an open file behind a number, whatever was there. -/
def duplicateTo (descriptor target : Nat) (closeOnExec : Bool) : Kernel Nat := do
  failIf ((← process).limit .openFiles ≤ target) .badDescriptor
  let binding ← binding descriptor
  closeDescriptor target
  modifyDescriptors (·.insert target ⟨binding.description, closeOnExec⟩)
  return target

/-- Gives the running thread file descriptors of its own. -/
def separateDescriptors : Kernel Unit := do
  let descriptors ← descriptors
  let number ← modifyGet fun world =>
    (world.tables.size, { world with tables := world.tables.push descriptors })
  modifyThread ({ · with descriptors := number })

/-- Opens two things at once: both get a file descriptor or none does. -/
def installPair (first second : Description) (closeOnExec : Bool)
    (tell : Nat → Nat → Kernel Unit) : Kernel Unit := do
  let before ← descriptors
  let action : Kernel Unit := do
    let left ← install first closeOnExec
    let right ← install second closeOnExec
    tell left right
  match ← attempt action with
  | .ok () => pure ()
  | .error errno =>
    modifyDescriptors fun _ => before
    fail errno

/-- Tells the numbers of two file descriptors. -/
def tellPair (address : UInt64) (left right : Nat) : Kernel Unit :=
  writeMemory address (wordBytes 4 (result left) ++ wordBytes 4 (result right))

/-- The pipe behind an open file. -/
def pipeOf (description : Description) : Option Nat :=
  match description.opened with
  | .pipe number _ _ => some number
  | _ => none

/-- The content of an open file, and what can no longer be done with it. -/
def contentOf (description : Description) : Kernel (Option (Nat × Nat)) := do
  match description.opened with
  | .memory content seals => return some (content, seals)
  | .node node =>
    match (← files).kind? node with
    | some (.file (.regular content)) => return some (content, 0)
    | _ => return none
  | _ => return none

end Kernel

namespace Service

open Kernel

/-! ### File descriptors -/

def close : Service := fun arguments => do
  let _ ← binding (low arguments.first)
  closeDescriptor (low arguments.first)
  return 0

def closeRange : Service := fun arguments => do
  let first := low arguments.first
  let last := low arguments.second
  let flags := low arguments.third
  failIf (flags &&& 6 ≠ flags || last < first) .invalidArgument
  if flags &&& 2 ≠ 0 then separateDescriptors
  let within (descriptor : Nat) : Bool := first ≤ descriptor && descriptor ≤ last
  if flags &&& 4 ≠ 0 then
    modifyDescriptors (·.map fun descriptor binding =>
      if within descriptor then { binding with closeOnExec := true } else binding)
  else for descriptor in (← descriptors).toList.map (·.1) do
    if within descriptor then closeDescriptor descriptor
  return 0

def duplicate : Service := fun arguments => do
  return result (← duplicateFrom (low arguments.first) 0 false)

def duplicateOver : Service := fun arguments => do
  let descriptor := low arguments.first
  let target := low arguments.second
  if descriptor = target then
    let _ ← binding descriptor
    return result target
  return result (← duplicateTo descriptor target false)

def duplicateOverWith : Service := fun arguments => do
  let descriptor := low arguments.first
  let target := low arguments.second
  let flags := low arguments.third
  failIf (flags ≠ 0 && flags ≠ OpenFlags.closeOnExec) .invalidArgument
  failIf (descriptor = target) .invalidArgument
  return result (← duplicateTo descriptor target (flags ≠ 0))

/-! ### Files without names -/

/-- Whether a flag to close a file when another one is loaded is set. -/
def closesOnExec (flags : Nat) : Bool := flags &&& OpenFlags.closeOnExec ≠ 0

/-- Makes a pipe and tells its two ends. -/
def makePipeWith (address : UInt64) (flags : Nat) : Kernel UInt64 := do
  let known := OpenFlags.closeOnExec ||| OpenFlags.nonBlocking ||| OpenFlags.direct
    ||| OpenFlags.exclusive
  failIf (flags &&& known ≠ flags) .invalidArgument
  failIf (flags &&& OpenFlags.exclusive ≠ 0) .notInstalled
  let kept := flags &&& (OpenFlags.nonBlocking ||| OpenFlags.direct)
  let number ← addPipe {}
  let reader : Description :=
    { opened := .pipe number true false, flags := flags &&& OpenFlags.nonBlocking }
  let writer : Description :=
    { opened := .pipe number false true, flags := OpenFlags.writeOnly ||| kept }
  installPair reader writer (closesOnExec flags) (tellPair address)
  return 0

def makePipe : Service := fun arguments => makePipeWith arguments.first 0

def makePipeFlagged : Service := fun arguments => makePipeWith arguments.first (low arguments.second)

/-- Makes a counter. -/
def makeCounterWith (value flags : Nat) : Kernel UInt64 := do
  let known := OpenFlags.closeOnExec ||| OpenFlags.nonBlocking ||| 1
  failIf (flags &&& known ≠ flags) .invalidArgument
  let description : Description := {
    opened := .counter value (flags &&& 1 ≠ 0)
    flags := OpenFlags.readWrite ||| (flags &&& OpenFlags.nonBlocking) }
  return result (← install description (closesOnExec flags))

def makeCounter : Service := fun arguments => makeCounterWith (low arguments.first) 0

def makeCounterFlagged : Service := fun arguments =>
  makeCounterWith (low arguments.first) (low arguments.second)

def makeMemoryFile : Service := fun arguments => do
  let flags := low arguments.second
  let known := if flags &&& 4 = 0 then 0x1f else 0xfc00001f
  failIf (flags &&& known ≠ flags || flags &&& 0x18 = 0x18) .invalidArgument
  let _ ← readText arguments.first 250 .invalidArgument
  let content ← addContent {}
  let seals := (if flags &&& 10 = 0 then 1 else 0) + (if flags &&& 8 ≠ 0 then 0x20 else 0)
  let description : Description := {
    opened := .memory content seals
    flags := OpenFlags.readWrite ||| OpenFlags.largeFile }
  if flags &&& 8 ≠ 0 then modifyNotes (.memory content) ({ · with mode := some 0o666 })
  return result (← install description (flags &&& 1 ≠ 0))

def makeTimer : Service := fun arguments => do
  let flags := low arguments.second
  let known := OpenFlags.closeOnExec ||| OpenFlags.nonBlocking
  failIf (flags &&& known ≠ flags) .invalidArgument
  failIf (!([0, 1, 7, 8, 9].contains (low arguments.first))) .invalidArgument
  failIf (7 < low arguments.first) .notPermitted
  let description : Description := {
    opened := .timer none 0 0
    flags := OpenFlags.readWrite ||| (flags &&& OpenFlags.nonBlocking) }
  return result (← install description (closesOnExec flags))

/-- Makes a file from which signals are read, or changes which. -/
def makeSignalFile (descriptor : UInt64) (set length : UInt64) (flags : Nat) : Kernel UInt64 := do
  let known := OpenFlags.closeOnExec ||| OpenFlags.nonBlocking
  failIf (length != 8) .invalidArgument
  let set := (← readNumber set 8) &&& ~~~Signal.untouchable
  failIf (flags &&& known ≠ flags) .invalidArgument
  if low descriptor = 0xffffffff then
    let description : Description := {
      opened := .signals set
      flags := OpenFlags.readWrite ||| (flags &&& OpenFlags.nonBlocking) }
    return result (← install description (closesOnExec flags))
  let (number, description) ← opened (low descriptor)
  match description.opened with
  | .signals _ =>
    modifyDescription number ({ · with opened := .signals set })
    return result (low descriptor)
  | _ => fail .invalidArgument

def makeSignalReader : Service := fun arguments =>
  makeSignalFile arguments.first arguments.second arguments.third 0

def makeSignalReaderFlagged : Service := fun arguments =>
  makeSignalFile arguments.first arguments.second arguments.third (low arguments.fourth)

/-- Opens something that can only be closed. -/
def makeOther (flags : Nat) : Kernel UInt64 := do
  return result (← install { opened := .other, flags := flags &&& OpenFlags.nonBlocking }
    (closesOnExec flags))

def makeNotifier : Service := fun _ => makeOther 0

def makeNotifierFlagged : Service := fun arguments => do
  let flags := low arguments.first
  let known := OpenFlags.closeOnExec ||| OpenFlags.nonBlocking
  failIf (flags &&& known ≠ flags) .invalidArgument
  makeOther flags

end Service

end StaticElf.Linux
