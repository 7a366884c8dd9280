/-
**Memory of machines with several nodes.**

The memory of a machine may lie at several nodes, and a thread can say from which of them it wants to have
its pages. This machine has one node, with the number zero.

* `Kernel.readNodes` — a set of nodes in memory.
* `NodePolicy.make?` — a policy, if it makes sense here.
* `Service.setPolicyOf`, `Service.tellNodePolicy`, `Service.movePages`, … — the system calls.
-/

import StaticElf.Linux.Peer
import StaticElf.Linux.Service.Advice

namespace StaticElf.Linux

namespace NodePolicy

def preferred : Nat := 1
def bound : Nat := 2
def interleaved : Nat := 3
def nearby : Nat := 4
def manyPreferred : Nat := 5
def weighted : Nat := 6

/-- The nodes are meant as they are, whatever there is. -/
def absolute : Nat := 0x8000
/-- The nodes are counted among those that there are. -/
def relative : Nat := 0x4000
/-- Pages may be moved to where they are used. -/
def balanced : Nat := 0x2000

/-- The mode and the flags of a number that stands for both, if it makes sense. -/
def split? (number : Nat) : Option (Nat × Nat) :=
  let flags := number &&& (absolute ||| relative ||| balanced)
  let mode := number - flags
  if weighted < mode || flags &&& (absolute ||| relative) = absolute ||| relative then none
  else if flags &&& balanced ≠ 0 && mode ≠ bound && mode ≠ manyPreferred then none
  else some (mode, flags)

/-- Whether the nodes are kept as they were given. -/
def keepsNodes (flags : Nat) : Bool := flags &&& (absolute ||| relative) ≠ 0

/-- The nodes of this machine that are meant by a set of nodes. -/
def present (flags nodes : Nat) : Nat :=
  if flags &&& relative ≠ 0 then (if nodes = 0 then 0 else 1) else nodes &&& 1

/-- A policy: nothing if it is the usual one. -/
def make? (mode flags nodes : Nat) : Except Errno (Option NodePolicy) :=
  let bad : Except Errno (Option NodePolicy) := .error .invalidArgument
  if mode = 0 then if nodes = 0 then .ok none else bad
  else if mode = nearby || (mode = preferred && nodes = 0) then
    if nodes ≠ 0 || keepsNodes flags then bad else .ok (some { mode := nearby, flags })
  else if present flags nodes = 0 then bad
  else .ok (some { mode, flags, nodes := if keepsNodes flags then nodes else present flags nodes })

end NodePolicy

namespace Kernel

/-- The most nodes that there can be. -/
def mostNodes : Nat := 1024

/-- The number that some bytes are. -/
def bigNumber (bytes : ByteArray) : Nat := bytes.toList.foldr (fun byte number => byte.toNat + 256 * number) 0

/-- A set of nodes in memory, one bit for each. -/
def readNodes (address count : UInt64) : Kernel Nat := do
  let bits := (count - 1).toNat
  if bits = 0 || address = 0 then return 0
  failIf (8 * pageBytes < bits) .invalidArgument
  let bytes ← readMemory address ((bits + 63) / 64 * 8)
  let number := bigNumber bytes % (1 <<< bits)
  failIf (1 <<< mostNodes ≤ number) .invalidArgument
  return number

/-- The mode and the flags of a policy that an argument asks for. -/
def askedMode (value : UInt64) : Kernel (Nat × Nat) :=
  ofOption (NodePolicy.split? (low value)) .invalidArgument

/-- Tells a set of nodes. -/
def writeNodes (address count : UInt64) (nodes : Nat) : Kernel Unit := do
  let length := ((count - 1).toNat + 63) / 64 * 8
  failIf (8 < length && pageBytes < length) .invalidArgument
  writeMemory address (padded (wordBytes 8 (UInt64.ofNat nodes)) (max length 8) |>.extract 0 length)

/-- Whether something is in memory in a range. -/
def anyResident (mapping : Mapping) : Kernel Bool := do
  let pages := (← space).pages
  let first := mapping.start / pageBytes
  return (List.range (min (mapping.stop / pageBytes - first) mostPopulated)).any fun index =>
    pages.contains (first + index)

end Kernel

namespace Service

open Kernel

def setNodePolicy : Service := fun arguments => do
  let (mode, flags) ← askedMode arguments.first
  let nodes ← readNodes arguments.second arguments.third
  let policy ← ofExcept (NodePolicy.make? mode flags nodes)
  modifyThread ({ · with policy })
  return 0

def bindNodes : Service := fun arguments => do
  let start := arguments.first.toNat
  let (mode, flags) ← askedMode arguments.third
  let nodes ← readNodes arguments.fourth arguments.fifth
  let options := low arguments.sixth
  failIf (7 < options) .invalidArgument
  failIf (options &&& 4 ≠ 0) .notPermitted
  failIf (start % pageBytes ≠ 0) .invalidArgument
  let stop := start + alignedLength arguments.second
  failIf (UInt64.size ≤ stop) .invalidArgument
  if start = stop then return 0
  let policy ← ofExcept (NodePolicy.make? mode flags nodes)
  let within := (← space).within start stop
  failIf (within.isEmpty || (mode ≠ 0 && !(← space).isCovered start stop)) .badAddress
  modifySpace (·.update start stop ({ · with policy }))
  let misplaced ← within.anyM anyResident
  failIf (options = 1 && mode ≠ 0 && nodes &&& 1 = 0 && misplaced) .inputOutput
  return 0

def tellNodePolicy : Service := fun arguments => do
  let flags := low arguments.fifth
  failIf (arguments.second != 0 && arguments.third = 0) .invalidArgument
  failIf (7 < flags || (flags &&& 4 ≠ 0 && flags ≠ 4)) .invalidArgument
  let byAddress := flags &&& 2 ≠ 0
  let asksNode := flags &&& 1 ≠ 0
  let address := arguments.fourth.toNat
  let policy ← if flags = 4 then pure (some { mode := 0, nodes := 1 })
    else if byAddress then do
      let mapping ← ofOption ((← space).find? address) .badAddress
      if asksNode then
        failIf (mapping.access &&& 1 = 0) .badAddress
        let _ ← readMemory arguments.fourth 1
      pure mapping.policy
    else do
      failIf (arguments.fourth != 0) .invalidArgument
      pure (← thread).policy
  let own := policy.getD { mode := 0 }
  failIf (asksNode && !byAddress && own.mode ≠ NodePolicy.interleaved
    && own.mode ≠ NodePolicy.weighted) .invalidArgument
  let answer := if asksNode then 0 else own.mode + own.flags
  if arguments.first != 0 then writeNumber arguments.first 4 (result answer)
  if arguments.second != 0 then writeNodes arguments.second arguments.third own.nodes
  return 0

def setHomeNode : Service := fun arguments => do
  let start := arguments.first.toNat
  failIf (start % pageBytes ≠ 0 || arguments.fourth != 0 || arguments.third != 0) .invalidArgument
  let stop := start + alignedLength arguments.second
  failIf (UInt64.size ≤ stop) .invalidArgument
  if start = stop then return 0
  let policies := (((← space).within start stop).filterMap (·.policy)).map (·.mode)
  failIf (policies.any fun mode => mode ≠ NodePolicy.bound && mode ≠ NodePolicy.manyPreferred)
    .notSupported
  failIf policies.isEmpty .noEntry
  return 0

def movePagesBetween : Service := fun arguments => do
  let _ ← readNodes arguments.third arguments.second
  let target ← readNodes arguments.fourth arguments.second
  let _ ← visible (lowSigned arguments.first)
  failIf (1 < target) .notPermitted
  failIf (target = 0) .invalidArgument
  return 0

/-- Where a page of a thread is: at the only node, not in memory, or nowhere. -/
def pageState (space : Nat) (address : UInt64) : Kernel UInt64 := do
  let space := (← get).spaces.getD space {}
  match space.find? address.toNat with
  | none => return failure .badAddress
  | some mapping => return if ← isResident mapping address.toNat then 0 else failure .noEntry

def movePages : Service := fun arguments => do
  let flags := low arguments.sixth
  let count := arguments.second.toNat
  failIf (flags &&& 6 ≠ flags) .invalidArgument
  failIf (flags &&& 4 ≠ 0) .notPermitted
  let index ← visible (lowSigned arguments.first)
  let space := ((← get).threads.getD index {}).space
  let addresses ← readNumbers arguments.third count
  for (address, place) in addresses.zip (List.range count) do
    if arguments.fourth != 0 then
      let node ← readNumber (arguments.fourth + UInt64.ofNat (4 * place)) 4
      failIf (node != 0) .unknownDevice
    writeNumber (arguments.fifth + UInt64.ofNat (4 * place)) 4 (← pageState space address)
  return 0

end Service

end StaticElf.Linux
