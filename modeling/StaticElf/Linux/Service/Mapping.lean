/-
**Mapping memory.**

* `Kernel.mapAt` — puts a mapping where a request wants it.
* `Kernel.protect` — changes the access to a range.
* `Service.map`, `Service.unmap`, `Service.protect`, … — the system calls.
-/

import StaticElf.Linux.Residence
import StaticElf.Linux.Transfer

namespace StaticElf.Linux

/-- What is asked for when memory is mapped. -/
structure MapRequest where
  address : Nat
  length : Nat
  access : UInt64
  flags : UInt64

namespace MapRequest

def shared : UInt64 := 1
def fixed : UInt64 := 0x10
def anonymous : UInt64 := 0x20
def low : UInt64 := 0x40
def growsDown : UInt64 := 0x100
def locked : UInt64 := 0x2000
def unreserved : UInt64 := 0x4000
def populated : UInt64 := 0x8000
def unhurried : UInt64 := 0x10000
def huge : UInt64 := 0x40000
def ifFree : UInt64 := 0x100000

/-- Whether something is asked for. -/
def has (request : MapRequest) (flag : UInt64) : Bool := request.flags &&& flag != 0

def synchronous : UInt64 := 0x80000

/-- All that can be asked for of a mapping that is strict about it. -/
def known : UInt64 := 0x7c07f9f3

/-- The kind of mapping: shared (1), private (2), or shared and strict about what is asked for (3). -/
def kind (request : MapRequest) : UInt64 := request.flags &&& 0xf

/-- Whether the mapping has to be at the address. -/
def isFixed (request : MapRequest) : Bool := request.has fixed || request.has ifFree

/-- Whether the pages can be written. -/
def writes (request : MapRequest) : Bool := request.access &&& 2 != 0

end MapRequest

namespace Kernel

/-! ### Protection keys -/

/-- The lowest protection key that is not in use. -/
def freeKey : Kernel (Option Nat) := do
  let keys := (← space).keys
  return (List.range 16).find? fun key => keys >>> key &&& 1 = 0

/-- Takes a protection key into use, with what it forbids. -/
def takeKey (key : Nat) (forbidden : UInt64) : Kernel Unit := do
  modifySpace fun space => { space with keys := space.keys ||| (1 <<< key) }
  let place := UInt64.ofNat (2 * key)
  modifyCpu fun cpu => { cpu with
    keyRights := (cpu.keyRights &&& ~~~(3 <<< place)) ||| (forbidden <<< place) }

/-- The key of pages that can only be run. -/
def runOnlyKey : Kernel Nat := do
  match (← space).runOnlyKey with
  | some key =>
    takeKey key 1
    return key
  | none =>
    match ← freeKey with
    | none => return 0
    | some key =>
      takeKey key 1
      modifySpace ({ · with runOnlyKey := some key })
      return key

/-- The key of fresh pages. -/
def keyFor (access : UInt64) : Kernel Nat := if access = 4 then runOnlyKey else return 0

/-! ### Limits -/

/-- The most bytes that can be promised at once. -/
def mostPromised : Nat := 0x800000000

/-- The bytes of private pages that can be written. -/
def dataBytes (space : Space) : Nat :=
  space.mappings.foldr
    (fun mapping bytes =>
      if mapping.access &&& 2 ≠ 0 && !mapping.shared && !mapping.growsDown then
        mapping.stop - mapping.start + bytes
      else bytes)
    0

/-- Sees whether so many more bytes can be mapped. -/
def checkRoom (length freed : Nat) (private_ writes : Bool) : Kernel Unit := do
  let process ← process
  let space ← space
  failIf (process.limit .space < space.total + length - freed) .noMemory
  failIf (private_ && writes && process.limit .data < dataBytes space + length - freed) .noMemory
  failIf (65530 ≤ space.mappings.length) .noMemory

/-- Whether what is mapped in a range cannot be changed. -/
def isSealed (start stop : Nat) : Kernel Bool := do
  return ((← space).within start stop).any (·.isSealed)

/-! ### Places -/

/-- Where mappings are put that may be anywhere: below this address. -/
def mapTop : Nat := 0x7ff000000000

/-- The place for a mapping that may be anywhere, with a hint. -/
def choosePlace (hint length : Nat) (isLow : Bool) : Kernel Nat := do
  let space ← space
  let hint := hint / pageBytes * pageBytes
  let hint := if hint = 0 then 0 else max hint lowestMapped
  let top := if isLow then 0x80000000 else mapTop
  failIf (addressLimit < length) .noMemory
  if hint ≠ 0 && hint + length ≤ (if isLow then top else addressLimit)
      && space.isRoom hint (hint + length) then return hint
  ofOption (space.gap? length top) .noMemory

/-- The number of bytes of a huge page. -/
def hugeBytes : Nat := 0x200000

/-- The place for a mapping. -/
def placeFor (request : MapRequest) (length : Nat) : Kernel Nat := do
  if request.isFixed then
    failIf (request.has MapRequest.huge && length ≤ addressLimit && request.address % hugeBytes ≠ 0)
      .invalidArgument
    failIf (addressLimit < request.address + length) .noMemory
    failIf (request.address % pageBytes ≠ 0) .invalidArgument
    failIf (request.address < lowestMapped) .notPermitted
    failIf (request.has MapRequest.ifFree
      && !(← space).isFree request.address (request.address + length)) .alreadyThere
    return request.address
  else choosePlace request.address length (request.has MapRequest.low)

/-- What is mapped, besides where. -/
structure MapSource where
  source : Source := .zeros
  shared : Bool := false
  mayWrite : Bool := true
  droppable : Bool := false
  /-- Why nothing can be mapped in the end. -/
  refusal : Option Errno := none

/-- The largest place that a file can be mapped up to. -/
def mostMapped (description : Description) : Kernel Nat := do
  match description.opened with
  | .node node => return if ← isRegular node then largestPlace else Limit.unlimited
  | .memory _ _ => return largestPlace
  | _ => return Limit.unlimited

/-- Sees whether a file that can be mapped up to a place can be mapped as far as a request wants it. -/
def checkOffset (request : MapRequest) (most : Nat) (offset : UInt64) : Kernel Unit := do
  let length := pageAligned request.length
  failIf (most < length || (most - length) / pageBytes < offset.toNat / pageBytes) .overflow

/-- Sees whether the kind of a mapping of a file is known, and all that is asked for. -/
def checkKind (request : MapRequest) (known : UInt64) : Kernel Unit := do
  let kind := request.kind
  failIf (kind = 0 || 3 < kind) .invalidArgument
  failIf (kind = 3 && request.flags &&& ~~~known != 0) .notSupported

/-- What is mapped of an open file. -/
def fileSource (request : MapRequest) (descriptor offset : UInt64) : Kernel MapSource := do
  let (_, description) ← opened (low descriptor)
  checkOffset request (← mostMapped description) offset
  let onDevice ← match description.opened with
    | .node node => isRegular node
    | _ => pure false
  checkKind request
    (if onDevice then MapRequest.known ||| MapRequest.synchronous else MapRequest.known)
  let shared := request.kind != 2
  failIf (shared && request.writes && !description.writable) .permissionDenied
  failIf (!description.readable) .permissionDenied
  let of (content : Nat) : MapSource :=
    { source := .content content offset.toNat
      shared
      mayWrite := !shared || description.writable
      refusal := if request.kind = 3 && request.has MapRequest.synchronous then some .notSupported
        else none }
  let source ← match description.opened with
    | .memory content seals =>
      failIf (shared && request.writes && seals &&& 0x18 ≠ 0) .notPermitted
      pure (of content)
    | .node node =>
      match ← leafAt node with
      | some (.regular content) => pure (of content)
      | some .zero =>
        if shared then pure (of (← addContent { size := addressLimit })) else pure {}
      | _ => fail .unknownDevice
    | _ => fail .unknownDevice
  failIf (request.has MapRequest.growsDown) .invalidArgument
  return source

/-- What is mapped without a file. -/
def anonymousSource (request : MapRequest) (offset : UInt64) : Kernel MapSource := do
  let kind := request.kind
  if request.has MapRequest.huge then
    checkOffset request largestPlace offset
    checkKind request MapRequest.known
    failIf (request.has MapRequest.growsDown) .invalidArgument
    return { refusal := some (if offset.toNat % hugeBytes = 0 then .noMemory else .invalidArgument) }
  if kind = 1 then
    failIf (request.has MapRequest.growsDown) .invalidArgument
    let content ← addContent { size := addressLimit }
    return { source := .content content 0, shared := true }
  else
    failIf (kind != 2 && kind != 8) .invalidArgument
    failIf (kind = 8 && request.has MapRequest.growsDown) .invalidArgument
    return { droppable := kind = 8 }

/-- Whether the pages of a mapping have to stay in memory. -/
def askedResidence (request : MapRequest) : Kernel Residence := do
  let future := (← space).futureResidence
  return if future = .free && request.has MapRequest.locked then .locked else future

/-- Puts a mapping where a request wants it, and gives its place. -/
def mapAt (request : MapRequest) (source : Kernel MapSource) : Kernel Nat := do
  failIf (request.length = 0) .invalidArgument
  let length := pageAligned request.length
  failIf (UInt64.size ≤ length) .noMemory
  let key ← keyFor request.access
  let place ← placeFor request length
  failIf (request.has MapRequest.locked && (← process).limit .lockedMemory = 0) .notPermitted
  let residence ← askedResidence request
  checkLocked residence length
  let what ← source
  let writes := request.writes
  let private_ := !what.shared
  let space ← space
  let freed := ((space.within place (place + length)).map fun mapping =>
    mapping.stop - mapping.start).foldr (· + ·) 0
  failIf (space.writeOrRun && request.access &&& 6 = 6) .permissionDenied
  failIf (← isSealed place (place + length)) .notPermitted
  checkRoom length freed private_ writes
  failIf (private_ && writes && !request.has MapRequest.unreserved && mostPromised < length) .noMemory
  modifySpace (·.clear place (place + length))
  match what.refusal with
  | some errno => fail errno
  | none => pure ()
  modifySpace (·.insert {
    start := place
    stop := place + length
    access := (request.access &&& 7).toNat
    source := what.source
    shared := what.shared
    mayWrite := what.mayWrite
    growsDown := request.has MapRequest.growsDown
    key
    wiped := what.droppable
    droppable := what.droppable
    residence := if what.droppable then .free else residence })
  if residence ≠ .free || (request.has MapRequest.populated && !request.has MapRequest.unhurried) then
    populateSome place (place + length)
  return place

/-- The access that is asked for. Under an old way of running programs, what can be read can be run. -/
def askedAccess (access : UInt64) : Kernel UInt64 := do
  if (← process).persona &&& 0x400000 ≠ 0 && access &&& 1 != 0 then return access ||| 4
  else return access

/-! ### Changing access -/

/-- The key of pages after a change of their access. -/
def keyAfter (access : UInt64) (key : Option Nat) (mapping : Mapping) : Kernel Nat := do
  match key with
  | some key => return key
  | none =>
    if access = 4 then runOnlyKey
    else if (← space).runOnlyKey = some mapping.key && mapping.access = 4 then return 0
    else return mapping.key

/-- Changes the access to mappings that follow each other, up to the first hole. -/
def protectAll (access : UInt64) (key : Option Nat) : List Mapping → (reached stop : Nat) → Kernel Unit
  | [], reached, stop => failIf (reached < stop) .noMemory
  | mapping :: rest, reached, stop => do
    failIf (reached < mapping.start) .noMemory
    let key' ← keyAfter access key mapping
    failIf (access &&& 2 != 0 && !mapping.mayWrite) .permissionDenied
    failIf ((← space).writeOrRun && access &&& 4 != 0
      && (access &&& 2 != 0 || mapping.access &&& 4 = 0)) .permissionDenied
    failIf mapping.isSealed .notPermitted
    modifySpace (·.update mapping.start mapping.stop fun mapping =>
      { mapping with access := (access &&& 7).toNat, key := key' })
    protectAll access key rest mapping.stop stop

/-- Changes the access to a range. -/
def protect (address length access : UInt64) (key : Option Nat) : Kernel Unit := do
  let grows := access &&& 0x3000000
  let access := access &&& ~~~(0x3000000 : UInt64)
  let start := address.toNat
  failIf (grows = 0x3000000 || start % pageBytes ≠ 0) .invalidArgument
  if length != 0 then
    let stop := start + pageAligned length.toNat
    failIf (UInt64.size ≤ stop) .noMemory
    failIf (15 < access) .invalidArgument
    match key with
    | some key =>
      let space ← space
      failIf (15 < key || space.keys >>> key &&& 1 = 0 || space.runOnlyKey = some key)
        .invalidArgument
    | none => pure ()
    let access ← askedAccess access
    let first ← ofOption ((← space).findFrom? start) .noMemory
    failIf (stop ≤ first.start) .noMemory
    failIf (grows != 0x1000000 && start < first.start) .noMemory
    failIf (grows = 0x2000000 || (grows = 0x1000000 && !first.growsDown)) .invalidArgument
    let start := if grows = 0x1000000 then first.start else start
    protectAll access key ((← space).within start stop) start stop

end Kernel

namespace Service

open Kernel

def map : Service := fun arguments => do
  failIf (arguments.sixth.toNat % pageBytes ≠ 0) .invalidArgument
  let flags := arguments.fourth
  let isAnonymous := flags &&& MapRequest.anonymous != 0
  let isHuge := flags &&& MapRequest.huge != 0
  if !isAnonymous then
    let _ ← opened (low arguments.fifth)
    failIf isHuge .invalidArgument
  else if isHuge then
    failIf (!([0, 21].contains (flags.toNat / 0x4000000 % 64))) .invalidArgument
  let length := arguments.second.toNat
  let request : MapRequest := {
    address := arguments.first.toNat
    length := if isHuge then (length + hugeBytes - 1) / hugeBytes * hugeBytes % UInt64.size else length
    access := ← askedAccess arguments.third
    flags }
  let place ← mapAt request
    (if isAnonymous then anonymousSource request arguments.sixth
      else fileSource request arguments.fifth arguments.sixth)
  return result place

def unmap : Service := fun arguments => do
  let start := arguments.first.toNat
  let length := arguments.second.toNat
  failIf (start % pageBytes ≠ 0 || length = 0 || addressLimit < start + length) .invalidArgument
  let stop := start + pageAligned length
  failIf (← isSealed start stop) .notPermitted
  modifySpace (·.clear start stop)
  return 0

def protect : Service := fun arguments => do
  Kernel.protect arguments.first arguments.second arguments.third none
  return 0

def protectWithKey : Service := fun arguments => do
  let key := low arguments.fourth
  Kernel.protect arguments.first arguments.second arguments.third
    (if key = 0xffffffff then none else some key)
  return 0

def allocateKey : Service := fun arguments => do
  failIf (arguments.first != 0 || 3 < arguments.second) .invalidArgument
  let key ← ofOption (← freeKey) .noSpace
  takeKey key arguments.second
  return result key

def freeKey : Service := fun arguments => do
  let key := low arguments.first
  let space ← space
  failIf (15 < key || space.keys >>> key &&& 1 = 0 || space.runOnlyKey = some key)
    .invalidArgument
  modifySpace fun space => { space with keys := space.keys - (1 <<< key) }
  return 0

def setBreak : Service := fun arguments => do
  let space ← space
  let wanted := arguments.first.toNat
  let now := result space.breakStop
  let old := pageAligned space.breakStop
  let new := pageAligned wanted
  let grows := old < new
  if wanted < space.breakStart || addressLimit < new then return now
  if (← process).limit .data < wanted - space.breakStart then return now
  if grows && (mostPromised < new - old || !space.isRoom old (new + pageBytes)) then return now
  let residence := space.futureResidence
  let check : Kernel Unit := do
    if grows then
      checkRoom (new - old) 0 true true
      checkLocked residence (new - old)
    else failIf (← isSealed new old) .notPermitted
  match ← attempt check with
  | .error _ => return now
  | .ok () =>
    modifySpace fun space =>
      let space := { space with breakStop := wanted }
      if grows then space.insert { start := old, stop := new, access := 3, residence }
      else space.clear new old
    if grows && residence ≠ .free then populateSome old new
    return result wanted

end Service

end StaticElf.Linux
