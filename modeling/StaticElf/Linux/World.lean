/-
**The state of the kernel, and actions on it.**

* `World` — all processes, all that they share, and which thread is running.
* `Stop` — why an action does not come to its end.
* `Kernel` — actions on the world. What was done before an action stops stays done.
-/

import StaticElf.Linux.FileLock
import StaticElf.Linux.Pipe
import StaticElf.Linux.Socket
import StaticElf.Linux.Thread

namespace StaticElf.Linux

/-- The times of a file that were set: seconds and nanoseconds of the last access and the last change. -/
structure FileTimes where
  accessed : Option (UInt64 × UInt64) := none
  modified : Option (UInt64 × UInt64) := none
  deriving DecidableEq, Repr

/-- What is kept of a file besides its content. -/
structure FileNotes where
  times : FileTimes := {}
  /-- The permission bits of a file without a node. -/
  mode : Option Nat := none
  /-- The attributes by their names, the first to be set first. -/
  attributes : List (Bytes × Bytes) := []
  /-- How long what is written will be of use. -/
  hint : Nat := 0
  /-- Whether a file without a name may get one. -/
  linkable : Bool := false
  deriving DecidableEq, Repr

/-- All that the kernel keeps. -/
structure World where
  threads : Array Thread := #[]
  processes : Array Process := #[]
  spaces : Array Space := #[]
  tables : Array Descriptors := #[]
  places : Array Place := #[]
  dispositions : Array Dispositions := #[]
  contents : Array Content := #[]
  files : FileSystem Leaf := .empty
  notes : List (FileKey × FileNotes) := []
  locks : List FileLock := []
  wholeLocks : List WholeLock := []
  descriptions : Array Description := #[]
  pipes : Array Pipe := #[]
  sockets : Array Socket := #[]
  /-- The time since the start, in nanoseconds. -/
  clock : Nat := 0
  /-- How many instructions were executed. -/
  steps : Nat := 0
  /-- The thread that is running, and the processor that runs it. -/
  current : Nat := 0
  cpu : Cpu := {}

/-- Why an action does not come to its end. -/
inductive Stop where
  | error (errno : Errno)
  /-- It has to be tried again later. -/
  | wait
  /-- Memory cannot be accessed, or an instruction cannot be executed: a signal, why it is sent, and what
  is told with it. -/
  | fault (info : SignalInfo)
  /-- The thread does not go on where it was. -/
  | diverted
  deriving DecidableEq, Repr

/-- Actions on the world. -/
abbrev Kernel := ExceptT Stop (StateM World)

namespace Kernel

/-- Ends with an error. -/
def fail {α : Type} (errno : Errno) : Kernel α := throw (.error errno)

/-- Ends with an error if a condition holds. -/
def failIf (condition : Bool) (errno : Errno) : Kernel Unit :=
  if condition then fail errno else pure ()

/-- A result that may be an error. -/
def ofExcept {α : Type} (result : Except Errno α) : Kernel α :=
  match result with
  | .ok value => pure value
  | .error errno => fail errno

/-- What is there, or an error. -/
def ofOption {α : Type} (value : Option α) (errno : Errno) : Kernel α :=
  match value with
  | some value => pure value
  | none => fail errno

/-- The action with an error as a result. Any other stop goes on. -/
def attempt {α : Type} (action : Kernel α) : Kernel (Except Errno α) :=
  tryCatch (Except.ok <$> action) fun
    | .error errno => pure (.error errno)
    | stop => throw stop

/-! ### The thread that is running -/

def thread : Kernel Thread := do
  let world ← get
  return world.threads.getD world.current {}

def modifyThread (change : Thread → Thread) : Kernel Unit :=
  modify fun world => { world with threads := world.threads.modify world.current change }

def process : Kernel Process := do
  let world ← get
  return world.processes.getD (world.threads.getD world.current {}).process {}

def modifyProcessAt (index : Nat) (change : Process → Process) : Kernel Unit :=
  modify fun world => { world with processes := world.processes.modify index change }

def modifyProcess (change : Process → Process) : Kernel Unit := do
  modifyProcessAt (← thread).process change

def space : Kernel Space := do
  let world ← get
  return world.spaces.getD (world.threads.getD world.current {}).space {}

def modifySpace (change : Space → Space) : Kernel Unit := do
  let index := (← thread).space
  modify fun world => { world with spaces := world.spaces.modify index change }

def place : Kernel Place := do
  let world ← get
  return world.places.getD (world.threads.getD world.current {}).place {}

def modifyPlace (change : Place → Place) : Kernel Unit := do
  let index := (← thread).place
  modify fun world => { world with places := world.places.modify index change }

def dispositions : Kernel Dispositions := do
  let world ← get
  return world.dispositions.getD (world.threads.getD world.current {}).dispositions .usual

def modifyDispositions (change : Dispositions → Dispositions) : Kernel Unit := do
  let index := (← thread).dispositions
  modify fun world => { world with dispositions := world.dispositions.modify index change }

def descriptors : Kernel Descriptors := do
  let world ← get
  return world.tables.getD (world.threads.getD world.current {}).descriptors {}

def modifyDescriptors (change : Descriptors → Descriptors) : Kernel Unit := do
  let index := (← thread).descriptors
  modify fun world => { world with tables := world.tables.modify index change }

def modifyCpu (change : Cpu → Cpu) : Kernel Unit :=
  modify fun world => { world with cpu := change world.cpu }

/-! ### Waiting -/

/-- Tries again later. -/
def wait {α : Type} : Kernel α := throw .wait

/-- Waits until some time has passed since the call was made first. When it has, the action goes on. -/
def waitAtMost (nanoseconds : Nat) : Kernel Unit := do
  let clock := (← get).clock
  match (← thread).deadline with
  | none =>
    if nanoseconds = 0 then pure ()
    else
      modifyThread fun thread => { thread with deadline := some (clock + nanoseconds) }
      wait
  | some deadline => if deadline ≤ clock then pure () else wait

/-! ### What numbers stand for -/

/-- The binding of a file descriptor. -/
def binding (descriptor : Nat) : Kernel Binding := do
  ofOption (← descriptors)[descriptor]? .badDescriptor

/-- An open file by its number. -/
def description (number : Nat) : Kernel Description := do
  return (← get).descriptions.getD number default

def modifyDescription (number : Nat) (change : Description → Description) : Kernel Unit :=
  modify fun world => { world with descriptions := world.descriptions.modify number change }

/-- The open file behind a file descriptor, and its number. One that is only a name does not count. -/
def opened (descriptor : Nat) : Kernel (Nat × Description) := do
  let number := (← binding descriptor).description
  let description ← description number
  failIf description.pathOnly .badDescriptor
  return (number, description)

def content (number : Nat) : Kernel Content := do return (← get).contents.getD number {}

def modifyContent (number : Nat) (change : Content → Content) : Kernel Unit :=
  modify fun world => { world with contents := world.contents.modify number change }

def addContent (content : Content) : Kernel Nat :=
  modifyGet fun world =>
    (world.contents.size, { world with contents := world.contents.push content })

def pipe (number : Nat) : Kernel Pipe := do return (← get).pipes.getD number {}

def modifyPipe (number : Nat) (change : Pipe → Pipe) : Kernel Unit :=
  modify fun world => { world with pipes := world.pipes.modify number change }

def addPipe (pipe : Pipe) : Kernel Nat :=
  modifyGet fun world => (world.pipes.size, { world with pipes := world.pipes.push pipe })

def files : Kernel (FileSystem Leaf) := do return (← get).files

def modifyFiles (change : FileSystem Leaf → FileSystem Leaf) : Kernel Unit :=
  modify fun world => { world with files := change world.files }

/-- The file behind an open file. -/
def fileKey (description : Description) : Kernel FileKey := do
  match description.opened with
  | .node number => return .node number
  | .memory content _ => return .memory content
  | .pipe number _ _ => return (((← pipe number).node.map FileKey.node).getD (.pipe number))
  | .socket number => return .socket number
  | _ => return .shared

/-- What is kept of a file. -/
def notes (file : FileKey) : Kernel FileNotes := do
  return ((← get).notes.lookup file).getD {}

def modifyNotes (file : FileKey) (change : FileNotes → FileNotes) : Kernel Unit := do
  let notes ← notes file
  modify fun world => { world with
    notes := (file, change notes) :: world.notes.filter fun (other, _) => other ≠ file }

/-- Closes a file descriptor. What its process had locked in the file is free. -/
def closeDescriptor (descriptor : Nat) : Kernel Unit := do
  let table := (← thread).descriptors
  match (← descriptors)[descriptor]? with
  | none => pure ()
  | some binding =>
    modifyDescriptors (·.erase descriptor)
    if !(← get).locks.isEmpty then
      let file ← fileKey (← description binding.description)
      modify fun world => { world with
        locks := world.locks.filter fun lock =>
          !(lock.file = file && lock.holder = .table table) }

/-- The lowest free file descriptor from `least` on. -/
def freeDescriptor (least : Nat) : Kernel Nat := do
  let descriptor := (← descriptors).lowestFree least
  failIf ((← process).limit .openFiles ≤ descriptor) .tooManyOpen
  return descriptor

/-- Opens something: it gets the lowest free file descriptor. -/
def install (description : Description) (closeOnExec : Bool) : Kernel Nat := do
  let descriptor ← freeDescriptor 0
  let number ← modifyGet fun world =>
    (world.descriptions.size,
      { world with descriptions := world.descriptions.push description })
  modifyDescriptors (·.insert descriptor ⟨number, closeOnExec⟩)
  return descriptor

end Kernel

namespace World

/-- Whether a thread has not ended. -/
def isAlive (world : World) (index : Nat) : Bool :=
  match world.threads[index]? with
  | some thread => thread.activity ≠ .ended
  | none => false

/-- The numbers of all files that are open. -/
def openNumbers (world : World) : List Nat :=
  let tables := ((world.threads.toList.filter fun thread =>
    thread.activity ≠ .ended).map (·.descriptors)).eraseDups
  let held := tables.flatMap fun table =>
    (world.tables.getD table {}).toList.map fun (_, binding) => binding.description
  held ++ world.sockets.toList.flatMap Socket.inFlight

/-- Whether some thread has the file descriptors with a number. -/
def isUsedTable (world : World) (table : Nat) : Bool :=
  world.threads.any fun thread => thread.activity ≠ .ended && thread.descriptors = table

/-- The locks that are still held. -/
def heldLocks (world : World) : List FileLock :=
  let opened := world.openNumbers
  world.locks.filter fun lock =>
    match lock.holder with
    | .table number => world.isUsedTable number
    | .description number => opened.contains number

/-- The locks of whole files that are still held. -/
def heldWholeLocks (world : World) : List WholeLock :=
  let opened := world.openNumbers
  world.wholeLocks.filter fun lock => opened.contains lock.description

/-- Whether something that is open satisfies a condition. -/
def anyOpen (world : World) (condition : Description → Bool) : Bool :=
  world.openNumbers.any fun number => condition (world.descriptions.getD number default)

/-- Whether a pipe can be read by somebody. -/
def hasReader (world : World) (pipe : Nat) : Bool :=
  (world.pipes.getD pipe {}).outside || world.anyOpen fun description =>
    match description.opened with
    | .pipe number reads _ => number = pipe && reads
    | _ => false

/-- Whether a pipe can be written by somebody. -/
def hasWriter (world : World) (pipe : Nat) : Bool :=
  world.anyOpen fun description =>
    match description.opened with
    | .pipe number _ writes => number = pipe && writes
    | _ => false

/-- Whether a socket is open, or waits for being accepted. -/
def isOpenSocket (world : World) (socket : Nat) : Bool :=
  world.sockets.any (·.callers.contains socket)
    || world.anyOpen fun description => description.opened = .socket socket

end World

end StaticElf.Linux
