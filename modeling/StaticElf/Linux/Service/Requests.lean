/-
**Requests to devices.**

* `Kernel.readyBytes` — how much can be read from an open file without waiting.
* `Service.request` — what can be asked of what is open, by number.
-/

import StaticElf.Linux.Service.SocketRequests

namespace StaticElf.Linux

namespace Kernel

/-- The answer to a request that an open file does not know. -/
def unknownRequest (description : Description) : Kernel Errno := do
  match description.opened with
  | .watch _ => return .invalidArgument
  | .node node =>
    let leaf ← leafAt node
    return if leaf = some .random then .invalidArgument else .notTerminal
  | _ => return .notTerminal

/-- The number of bytes that can be read from an open file without waiting. -/
def readyBytes (description : Description) : Kernel Int := do
  match description.opened with
  | .pipe number _ _ => return (← Kernel.pipe number).length
  | .other => return 0
  | _ =>
    match ← contentOf description with
    | some (content, _) => return (← Kernel.content content).size - (description.position : Int)
    | none => fail (← unknownRequest description)

/-- The device on which an open file is. -/
def deviceOfOpen (description : Description) : Kernel (Nat × Nat × Nat) := do
  let files ← files
  match ← fileKey description with
  | .node node => return (0, 0, files.deviceOfNode node)
  | file =>
    let (kind, number) := deviceOfFile file
    return (kind, number, 0)

/-- Lets a file have the content of another one, where the device knows how to share it. -/
def shareContent (target : Description) (descriptor : UInt64) : Kernel UInt64 := do
  let (_, source) ← opened (low descriptor)
  failIf ((← deviceOfOpen source) ≠ (← deviceOfOpen target)) .otherDevice
  let kinds := [← kindOf source, ← kindOf target]
  failIf (kinds.contains 0o040000) .isDirectory
  failIf (kinds.any (· ≠ 0o100000)) .invalidArgument
  failIf (!source.readable || !target.writable || target.has OpenFlags.append) .badDescriptor
  fail .notSupported

/-- Whether an open file is a file or a directory on a device. -/
def isOnDevice (description : Description) : Kernel Bool := do
  match description.opened with
  | .node node => return (← isRegular node) || (← isDirectory node)
  | _ => return false

end Kernel

namespace Service

open Kernel

/-- Asks something about how a device keeps a file. -/
def requestOfDevice (description : Description) (command : Nat) (address : UInt64) :
    Kernel UInt64 := do
  let onDevice ← isOnDevice description
  let inMemory := description.opened matches .memory ..
  let unknown ← unknownRequest description
  match command with
  | 1 =>
    failIf ((← kindOf description) ≠ 0o100000) unknown
    fail .notPermitted
  | 0x80086601 =>
    failIf (!onDevice && !inMemory) unknown
    writeNumber address 4 (if onDevice then 0x80000 else 0)
    return 0
  | 0x40086602 =>
    let flags := (← readNumber address 4).toNat
    failIf (!onDevice && !inMemory) unknown
    failIf (inMemory && flags &&& 0x70 ≠ flags) .notSupported
    failIf (flags &&& 0x30 ≠ 0) .notPermitted
    return 0
  | 0x80087601 =>
    failIf (!onDevice) unknown
    writeNumber address 4 0
    return 0
  | 0x40087602 =>
    failIf (!onDevice) unknown
    let _ ← readNumber address 4
    return 0
  | 0x801c581f =>
    failIf (!onDevice && !inMemory) unknown
    writeMemory address (padded ByteArray.empty 28)
    return 0
  | 0xc020660b =>
    failIf (!onDevice) .notSupported
    let _ ← readMemory address 32
    fail .invalidArgument
  | _ => fail unknown

/-- Asks something of a file. -/
def requestOfFile (number : Nat) (description : Description) (command : Nat) (address : UInt64) :
    Kernel UInt64 := do
  let kind ← kindOf description
  let hasSize := kind = 0o100000 || kind = 0o040000
  if let .socket socket := description.opened then
    if command &&& 0xff00 = 0x8900 || command = 0x5411 || command = 0x541b then
      return ← requestOfSocket number description socket command address
  match command with
  | 0x541b =>
    writeNumber address 4 (UInt64.ofInt (← readyBytes description))
    return 0
  | 0x5460 =>
    failIf (!hasSize) .notTerminal
    writeNumber address 8 (result (512 * (← openStatus description).blocks))
    return 0
  | 2 =>
    writeNumber address 4 4096
    return 0
  | 0x40049409 => shareContent description address
  | _ => requestOfDevice description command address

/-- What can be asked of what is open. -/
def request : Service := fun arguments => do
  let descriptor := low arguments.first
  let command := low arguments.second
  let (number, description) ← opened descriptor
  let setBinding (closeOnExec : Bool) : Kernel UInt64 := do
    modifyDescriptors (·.insert descriptor ⟨number, closeOnExec⟩)
    return 0
  match command with
  | 0x5421 =>
    let on := (← readNumber arguments.third 4) != 0
    let kept := description.flags - (description.flags &&& OpenFlags.nonBlocking)
    modifyDescription number
      ({ · with flags := if on then kept + OpenFlags.nonBlocking else kept })
    return 0
  | 0x5450 => setBinding false
  | 0x5451 => setBinding true
  | 0x5452 =>
    let on := (← readNumber arguments.third 4) != 0
    if on != description.has OpenFlags.signalled then
      failIf (!(← knowsSignals description)) .notTerminal
      setSignalled number on
    return 0
  | _ => requestOfFile number description command arguments.third

end Service

end StaticElf.Linux
