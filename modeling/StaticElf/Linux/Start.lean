/-
**Starting a program.**

* `World.initial` — a world with some files and one process that has not started.
* `World.started` — the world in which it has, and has not run.
* `runProgram` — runs a file to its end.
-/

import StaticElf.Linux.Scheduler

namespace StaticElf.Linux

/-- How a program ended, and what it wrote. -/
structure Report where
  ended : Ended
  stdout : Bytes
  stderr : Bytes
  deriving DecidableEq, Repr

namespace Start

/-- The name of a file, in bytes. -/
def name (text : String) : Bytes := Utf8.ofString text

/-- A file system and the numbers of the directory in which names are entered. -/
abbrev Files := FileSystem Leaf

/-- A directory with everything that is put into it. -/
def directory (files : Files) (parent : Nat) (text : String) : Files × Nat :=
  files.makeDirectory parent (name text) FileMode.executable

/-- A file that everybody can read and write. -/
def device (files : Files) (parent : Nat) (text : String) (leaf : Leaf) : Files × Nat :=
  files.create parent (name text) ⟨.file leaf, 0o666⟩

/-- The files that are there before a program is: some devices and directories. The number of the device
that is always empty is told. -/
def files : Files × Nat :=
  let (files, devices) := directory .empty FileSystem.root "dev"
  let (files, null) := device files devices "null" .null
  let (files, _) := device files devices "zero" .zero
  let (files, _) := device files devices "full" .full
  let (files, _) := device files devices "random" .random
  let (files, _) := device files devices "urandom" .random
  let (files, temporary) := directory files FileSystem.root "tmp"
  let files := files.modify temporary ({ · with mode := 0o1777 })
  let files := files.enter FileSystem.root (name "work") FileSystem.start
  ({ files with mounts := [devices] }, null)

/-- The directory with a name, which is made if it is not there. -/
def openDirectory (files : Files) (parent : Nat) (name : Bytes) : Files × Nat :=
  if name = Path.here then (files, parent)
  else if name = Path.above then (files, files.parentOf parent)
  else match (files.namesIn parent).lookup name with
    | some number => (files, number)
    | none => files.makeDirectory parent name FileMode.executable

/-- Puts a file at a path. -/
def put (files : Files) (path : Bytes) (leaf : Leaf) : Files × Nat :=
  let names := Path.names path
  let start := if Path.isRooted path then FileSystem.root else FileSystem.start
  let (files, parent) := names.dropLast.foldl
    (fun (files, parent) name => openDirectory files parent name) (files, start)
  files.create parent (names.getLastD []) ⟨.file leaf, FileMode.executable⟩

end Start

/-- The most bytes of the name of a thread. -/
def mostNameBytes : Nat := 15

/-- A world with one process, which has not started: its input is empty, and what it writes is kept. -/
def World.initial (path : Bytes) (content : Content) : World × Nat :=
  let (files, null) := Start.files
  let (files, node) := Start.put files path (.regular 0)
  let name := ((Path.names path).getLastD []).take mostNameBytes
  let number := 4242
  ({ threads := #[{ number, name }]
     processes := #[{ number, processGroup := 4200, session := 4200 }]
     spaces := #[{}]
     tables := #[Std.HashMap.ofList [(0, ⟨0, false⟩), (1, ⟨1, false⟩), (2, ⟨2, false⟩)]]
     places := #[{}]
     dispositions := #[.usual]
     contents := #[content]
     files
     descriptions := #[{ opened := .node null, flags := OpenFlags.largeFile },
       { opened := .pipe 0 false true, flags := OpenFlags.writeOnly },
       { opened := .pipe 1 false true, flags := OpenFlags.writeOnly }]
     pipes := #[{ outside := true }, { outside := true }] }, node)

/-- The environment of a program. -/
def environment : List Bytes :=
  [Start.name "PATH=/usr/local/sbin:/usr/local/bin:/usr/sbin:/usr/bin:/sbin:/bin",
    Start.name "HOSTNAME=localhost", Start.name "HOME=/root"]

/-- The world with one process in which an executable is loaded and was not run. -/
def World.started (path : Bytes) (content : Content) (executable : Executable) : World :=
  let (world, node) := World.initial path content
  world.doing (Kernel.loadProgram executable 0 node path [path] environment)

/-- How the program ended that was started in a world. -/
def World.report (world : World) : Report where
  ended := ((world.processes.getD 0 {}).ended).getD (.killed Signal.kill)
  stdout := (world.pipes.getD 0 {}).output
  stderr := (world.pipes.getD 1 {}).output

/-- Runs a file to its end, unless it cannot be run. -/
def runProgram (path : Bytes) (file : ByteFile) : Option Report := do
  let content := Content.ofFile file
  let executable ← Executable.ofContent? content
  return ((World.started path content executable).run World.mostSlices 0).report

end StaticElf.Linux
