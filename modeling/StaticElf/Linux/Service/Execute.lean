/-
**Running another file.**

* `Kernel.replaceProgram` — what is left of a process that runs another file, and what is not.
* `Service.execute`, `Service.executeFrom` — the system calls.
-/

import StaticElf.Linux.Load
import StaticElf.Linux.Service.Opening

namespace StaticElf.Linux

namespace Kernel

/-- A file that is to be run: its content, its node if it has one, and its name. -/
structure ProgramFile where
  content : Nat
  node : Nat
  path : Bytes

/-- What stands for the node of a file that has none. -/
def noNode : Nat := 0xffffffff

/-- Whether somebody can write to a node. -/
def isWritten (node : Nat) : Kernel Bool := do
  return (← get).anyOpen fun description => description.opened = .node node && description.writable

/-- The file behind a node, if it can be run. -/
def programAt (node : Nat) (path : Bytes) : Kernel ProgramFile := do
  match (← files).kind? node with
  | some (.file (.regular content)) =>
    failIf (!(← files).permits node FileMode.ownerRun) .permissionDenied
    failIf (← isWritten node) .textBusy
    return { content, node, path }
  | some (.link _) => fail .tooManyLinks
  | _ => fail .permissionDenied

/-- The file behind a descriptor, if it can be run. -/
def programOf (descriptor : Nat) (path : Bytes) : Kernel ProgramFile := do
  let description ← description (← binding descriptor).description
  match description.opened with
  | .node node => programAt node path
  | .memory content seals =>
    failIf (seals &&& 0x20 ≠ 0) .permissionDenied
    return { content, node := noNode, path }
  | _ => fail .permissionDenied

/-- The texts whose addresses are listed in memory, up to the first address that is zero. -/
def readTexts (list : UInt64) : (most : Nat) → Kernel (List Bytes)
  | 0 => fail .listTooLong
  | most + 1 => do
    if list = 0 then return []
    let address ← readNumber list 8
    if address = 0 then return []
    let text ← readText address 0x20000 .listTooLong
    return text :: (← readTexts (list + 8) most)

/-- The most texts that can be given to a program. -/
def mostTexts : Nat := 100000

/-- Ends the other threads of the running process. -/
def endOthers : Kernel Unit := do
  let current := (← get).current
  let process := (← thread).process
  modify fun world => (world.threadsOf process).foldl
    (fun world index =>
      if index = current then world
      else world.modifyThread index ({ · with activity := .ended })) world

/-- What is left of a process that runs another file, and what is not. -/
def replaceProgram (file : ProgramFile) : Kernel Unit := do
  endOthers
  let kept := (← descriptors).filter fun _ binding => !binding.closeOnExec
  let dispositions := (← dispositions).afterLoad
  let number := (← process).number
  modify fun world => { world with
    tables := world.tables.push kept
    dispositions := world.dispositions.push dispositions }
  let world ← get
  modifyThread fun thread => { thread with
    number
    descriptors := world.tables.size - 1
    dispositions := world.dispositions.size - 1
    stack := {}
    name := ((Path.names file.path).getLastD []).take 15
    interception := none
    clearedAtEnd := 0
    lockList := 0
    restarts := none
    clockRefused := false
    featuresRefused := false }
  modifyProcess ({ · with madeAlarms := [], endSignal := Signal.child, dumpable := 1 })
  modify fun world => world.release world.current

/-- Runs a file in place of the running one. -/
def runFile (file : ProgramFile) (arguments environment : UInt64) : Kernel UInt64 := do
  let given ← readTexts arguments mostTexts
  let environment ← readTexts environment mostTexts
  let content ← Kernel.content file.content
  let executable ← ofOption (Executable.ofContent? content) .badFormat
  replaceProgram file
  loadProgram executable file.content file.node file.path (if given.isEmpty then [[]] else given)
    environment
  throw .diverted

end Kernel

namespace Service

open Kernel

/-- Runs the file that a path leads to. -/
def executeAt (descriptor : UInt64) (path arguments environment : UInt64) (flags : Nat) :
    Kernel UInt64 := do
  failIf (flags &&& 0x1100 ≠ flags) .invalidArgument
  let text ← readName path
  failIf (text.isEmpty && flags &&& 0x1000 = 0) .noEntry
  let file ← if text.isEmpty && flags &&& 0x1000 ≠ 0 then
      programOf (low descriptor) (toString (low descriptor)).toUTF8.toList
    else match descriptorNamed? text with
      | some number => programOf number text
      | none => (do
        let node ← findAt descriptor text (flags &&& 0x100 = 0)
        programAt node text)
  runFile file arguments environment

def execute : Service := fun arguments =>
  executeAt currentDirectory arguments.first arguments.second arguments.third 0

def executeFrom : Service := fun arguments =>
  executeAt arguments.first arguments.second arguments.third arguments.fourth (low arguments.fifth)

end Service

end StaticElf.Linux
