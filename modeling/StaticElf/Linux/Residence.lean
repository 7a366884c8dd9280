/-
**Pages that stay in memory.**

* `Kernel.populate` — puts the pages of a range in memory.
* `Kernel.checkLocked` — whether a process may keep so many more bytes there.
* `Kernel.keepRange` — says of a range whether its pages stay.
-/

import StaticElf.Linux.Arguments

namespace StaticElf.Linux

/-- The length of the pages that hold a number of bytes, as far as it can be told in eight bytes. -/
def alignedLength (length : UInt64) : Nat := pageAligned length.toNat % UInt64.size

namespace Kernel

/-- The most pages that are put in memory at once. -/
def mostPopulated : Nat := 0x10000

/-- Puts a page of a mapping in memory. A private page that can be written is made. -/
def populatePage (mapping : Mapping) (page : Nat) : Kernel Unit := do
  let address := page * pageBytes
  match mapping.source with
  | .zeros => alterPage mapping address id
  | .content number offset =>
    let _ ← shownPage number offset mapping address
    if !mapping.shared && mapping.access &&& 2 ≠ 0 then alterPage mapping address id
    else
      let place := (offset + (address - mapping.start)) / pageBytes
      modifyContent number fun content => { content with
        pages := content.pages.alter place fun old => some (old.getD Page.zeros) }

/-- Puts the pages of a mapping in memory. -/
def populateMapping (mapping : Mapping) : Kernel Unit := do
  failIf (mapping.guarded || Mapping.keyForbids (← get).cpu.keyRights mapping.key .read) .badAddress
  let first := mapping.start / pageBytes
  let count := min (mapping.stop / pageBytes - first) mostPopulated
  let action := (List.range count).forM fun index => populatePage mapping (first + index)
  if (← reaching action).isNone then fail .badAddress

/-- Puts the pages of a range in memory, as far as they are to be there at once. -/
def populate (start stop : Nat) : Kernel Unit := do
  ((← space).within start stop).forM fun mapping => do
    if mapping.residence ≠ .lockedLate then
      failIf (mapping.access &&& 7 = 0) .badAddress
      populateMapping mapping

/-- Puts the pages of a range in memory where that can be done. -/
def populateSome (start stop : Nat) : Kernel Unit := do
  ((← space).within start stop).forM fun mapping => do
    if mapping.residence ≠ .lockedLate && mapping.access &&& 7 ≠ 0 then
      let _ ← attempt (populateMapping mapping)

/-- Whether so many bytes may stay in memory. -/
def mayStay (bytes : Nat) : Kernel Bool := do
  return bytes / pageBytes ≤ (← process).limit .lockedMemory / pageBytes

/-- Sees whether a mapping may get so many more bytes, if they have to stay in memory. -/
def checkLocked (residence : Residence) (length : Nat) : Kernel Unit := do
  if residence ≠ .free then
    failIf (!(← mayStay ((← space).lockedBytes 0 addressLimit + length))) .tryAgain

/-- Says of mappings that follow each other, up to the first hole, whether their pages stay in memory. -/
def setResidence (residence : Residence) :
    List Mapping → (reached stop : Nat) → Kernel Unit
  | [], reached, stop => failIf (reached < stop) .noMemory
  | mapping :: rest, reached, stop => do
    failIf (reached < mapping.start) .noMemory
    if !mapping.droppable then
      modifySpace (·.update mapping.start mapping.stop ({ · with residence }))
    setResidence residence rest mapping.stop stop

/-- The pages that hold a range: where they start, and their length. -/
def pagesAround (address length : UInt64) : Nat × Nat :=
  (address.toNat / pageBytes * pageBytes, alignedLength (length + address % 4096))

/-- Says of a range whether its pages stay in memory. -/
def keepRange (address length : UInt64) (residence : Residence) : Kernel Unit := do
  let (start, length) := pagesAround address length
  let space ← space
  if residence ≠ .free then
    failIf ((← process).limit .lockedMemory = 0) .notPermitted
    let others := space.lockedBytes 0 addressLimit - space.lockedBytes start (start + length)
    failIf (!(← mayStay (others + length))) .noMemory
  failIf (UInt64.size ≤ start + length) .invalidArgument
  if length ≠ 0 then
    setResidence residence (space.within start (start + length)) start (start + length)
    if residence ≠ .free then
      match ← attempt (populate start (start + length)) with
      | .ok () => pure ()
      | .error _ => fail .noMemory

end Kernel

namespace Service

open Kernel

def lockMemory : Service := fun arguments => do
  keepRange arguments.first arguments.second .locked
  return 0

def lockMemoryWith : Service := fun arguments => do
  failIf (1 < low arguments.third) .invalidArgument
  keepRange arguments.first arguments.second (if low arguments.third = 1 then .lockedLate else .locked)
  return 0

def unlockMemory : Service := fun arguments => do
  keepRange arguments.first arguments.second .free
  return 0

def lockAllMemory : Service := fun arguments => do
  let flags := low arguments.first
  failIf (flags = 0 || flags = 4 || 7 < flags) .invalidArgument
  let limit := (← process).limit .lockedMemory
  failIf (limit = 0) .notPermitted
  let now := flags &&& 1 ≠ 0
  if now then failIf (!(← mayStay (← space).total)) .noMemory
  let residence : Residence := if flags &&& 4 ≠ 0 then .lockedLate else .locked
  modifySpace ({ · with futureResidence := if flags &&& 2 ≠ 0 then residence else .free })
  if now then
    modifySpace fun space => { space with
      mappings := Space.joined (space.mappings.map fun mapping =>
        if mapping.droppable then mapping else { mapping with residence }) }
    populateSome 0 addressLimit
  return 0

def unlockAllMemory : Service := fun _ => do
  modifySpace fun space => { space with
    mappings := Space.joined (space.mappings.map ({ · with residence := .free }))
    futureResidence := .free }
  return 0

end Service

end StaticElf.Linux
