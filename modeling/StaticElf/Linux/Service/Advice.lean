/-
**What a process tells and asks about its memory.**

* `Kernel.advise` — follows an advice about a mapping.
* `Service.advise`, `Service.residentPages`, `Service.synchronize`, `Service.sealRange` — the system calls.
-/

import StaticElf.Linux.Service.Mapping

namespace StaticElf.Linux

namespace Kernel

/-- Writes zeros to the content that is shown in a range. -/
def punch (mapping : Mapping) : Kernel Unit := do
  match mapping.source with
  | .content number offset => modifyContent number (·.clear offset (mapping.stop - mapping.start))
  | .zeros => pure ()

/-- The advices by which what is in a mapping is lost. -/
def discardingAdvice : List Nat := [4, 8, 9, 10, 18, 24, 102]

/-- The advices that are not for pages that have to stay in memory. -/
def unlockedAdvice : List Nat := [4, 8, 9, 20, 21, 102]

/-- Whether a mapping has room for a huge page. -/
def holdsHugePage (mapping : Mapping) : Bool :=
  (mapping.start + hugeBytes - 1) / hugeBytes * hugeBytes + hugeBytes ≤ mapping.stop

/-- The hints about a mapping after an advice, one bit for each. -/
def hintsAfter (advice hints : Nat) : Nat :=
  let without (bits : Nat) : Nat := hints - (hints &&& bits)
  match advice with
  | 0 => without 3
  | 1 => without 3 + 1
  | 2 => without 3 + 2
  | 12 => without 4 + 4
  | 13 => without 4
  | 14 => without 24 + 8
  | 15 => without 24 + 16
  | 16 => without 32 + 32
  | 17 => without 32
  | _ => hints

/-- Follows an advice about a mapping. -/
def advise (advice : Nat) (mapping : Mapping) : Kernel Unit := do
  let change (change : Mapping → Mapping) : Kernel Unit :=
    modifySpace (·.update mapping.start mapping.stop change)
  let plain := !mapping.shared && mapping.source = .zeros
  let writable := mapping.access &&& 2 ≠ 0
    && !Mapping.keyForbids (← get).cpu.keyRights mapping.key .write
  failIf (mapping.isSealed && plain && !writable && discardingAdvice.contains advice) .notPermitted
  failIf (mapping.residence ≠ .free && unlockedAdvice.contains advice) .invalidArgument
  match advice with
  | 4 | 24 => if !mapping.shared then modifySpace (·.forget mapping.start mapping.stop)
  | 9 =>
    failIf plain .invalidArgument
    failIf (!mapping.shared || !mapping.mayWrite) .permissionDenied
    punch mapping
  | 8 => failIf (!plain) .invalidArgument
  | 10 => change ({ · with inherited := false })
  | 11 => change ({ · with inherited := true })
  | 18 =>
    failIf (!plain) .invalidArgument
    change ({ · with wiped := true })
  | 0 | 1 | 2 | 12 | 13 | 14 | 15 | 16 | 17 =>
    failIf (advice = 17 && mapping.droppable) .invalidArgument
    change fun mapping => { mapping with hints := hintsAfter advice mapping.hints }
  | 19 =>
    failIf mapping.droppable .invalidArgument
    change ({ · with wiped := false })
  | 25 => failIf (!holdsHugePage mapping) .invalidArgument
  | 102 =>
    if !mapping.shared then modifySpace (·.forget mapping.start mapping.stop)
    change ({ · with guarded := true })
  | 103 => change ({ · with guarded := false })
  | _ => pure ()

/-- The advices that are known. -/
def knownAdvice : List Nat :=
  [0, 1, 2, 3, 4, 8, 9, 10, 11, 12, 13, 14, 15, 16, 17, 18, 19, 20, 21, 22, 23, 24, 25, 102, 103]

/-- Puts mappings that follow each other in memory, to be read or to be written, up to the first hole. -/
def populateFor (access : Access) : List Mapping → (reached stop : Nat) → Kernel Unit
  | [], reached, stop => failIf (reached < stop) .noMemory
  | mapping :: rest, reached, stop => do
    failIf (reached < mapping.start) .noMemory
    let bit := if access = .write then 2 else 1
    failIf (mapping.access &&& bit = 0
      || Mapping.keyForbids (← get).cpu.keyRights mapping.key access) .invalidArgument
    populateMapping mapping
    populateFor access rest mapping.stop stop

/-- Whether a page of a mapping is in memory. -/
def isResident (mapping : Mapping) (address : Nat) : Kernel Bool := do
  let own := !mapping.shared && (← space).pages.contains (address / pageBytes)
  match mapping.source with
  | .zeros => return own
  | .content number offset =>
    let place := offset + (address / pageBytes * pageBytes - mapping.start)
    return own || (← content number).pages.contains (place / pageBytes)

/-- For each page from an address on whether it is in memory, up to the first that is not mapped. -/
def residence (address : Nat) : (pages : Nat) → Kernel (List UInt8)
  | 0 => return []
  | pages + 1 => do
    match (← space).find? address with
    | none => return []
    | some mapping =>
      let here ← isResident mapping address
      return (if here then 1 else 0) :: (← residence (address + pageBytes) pages)

/-- Sees whether mappings can be written back, and whether there is a hole between them. -/
def writeBack (flags : Nat) : List Mapping → (reached stop : Nat) → (hole : Bool) → Kernel Unit
  | [], reached, stop, hole => failIf (hole || reached < stop) .noMemory
  | mapping :: rest, reached, stop, hole => do
    let missing := reached < mapping.start
    failIf (missing && flags = 1) .noMemory
    failIf (flags &&& 2 ≠ 0 && mapping.residence ≠ .free) .busy
    writeBack flags rest mapping.stop stop (hole || missing)

end Kernel

namespace Service

open Kernel

def advise : Service := fun arguments => do
  let start := arguments.first.toNat
  let advice := low arguments.third
  failIf (start % pageBytes ≠ 0 || !knownAdvice.contains advice) .invalidArgument
  let stop := start + pageAligned arguments.second.toNat
  failIf (UInt64.size ≤ stop) .invalidArgument
  if start = stop then return 0
  let within := (← space).within start stop
  if advice = 22 || advice = 23 then
    populateFor (if advice = 22 then .read else .write) within start stop
  else
    within.forM (Kernel.advise advice)
    failIf (!(← space).isCovered start stop) .noMemory
  return 0

def residentPages : Service := fun arguments => do
  let start := arguments.first.toNat
  let length := arguments.second.toNat
  failIf (start % pageBytes ≠ 0) .invalidArgument
  failIf (addressLimit < start + length) .noMemory
  let pages := pageAligned length / pageBytes
  failIf (addressLimit < arguments.third.toNat + pages) .badAddress
  let known ← residence start (min pages 0x100000)
  writeMemory arguments.third ⟨known.toArray⟩
  failIf (known.length < pages) .noMemory
  return 0

def synchronize : Service := fun arguments => do
  let start := arguments.first.toNat
  let flags := low arguments.third
  failIf (7 < flags || start % pageBytes ≠ 0 || hasBits arguments.third 5) .invalidArgument
  let stop := start + alignedLength arguments.second
  failIf (UInt64.size ≤ stop) .noMemory
  if start = stop then return 0
  writeBack flags ((← space).within start stop) start stop false
  return 0

def sealRange : Service := fun arguments => do
  let start := arguments.first.toNat
  failIf (arguments.third != 0 || start % pageBytes ≠ 0) .invalidArgument
  let stop := start + pageAligned arguments.second.toNat
  failIf (UInt64.size ≤ stop) .invalidArgument
  if start = stop then return 0
  failIf (!(← space).isCovered start stop) .noMemory
  modifySpace (·.update start stop ({ · with isSealed := true }))
  return 0

end Service

end StaticElf.Linux
