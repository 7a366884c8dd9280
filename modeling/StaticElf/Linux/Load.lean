/-
**Loading an executable.**

* `Executable` — what the headers of a file ask for.
* `initialStack` — what a program finds on its stack: its arguments, its environment, and what the kernel
  tells it.
* `Kernel.loadProgram` — puts a file into a fresh address space and starts the running thread in it.
-/

import StaticElf.Elf.Reader
import StaticElf.Linux.Delivery

namespace StaticElf.Linux

/-- What the headers of an executable ask for. -/
structure Executable where
  entry : UInt64
  headersAt : Nat
  progHeaders : List Elf.ProgHeader

namespace Executable

/-- The parts that are loaded. -/
def loads (executable : Executable) : List Elf.ProgHeader := executable.progHeaders.filter (·.type == 1)

/-- The headers of a file, if it is an executable for this machine that needs no other file. -/
def ofContent? (content : Content) : Option Executable := do
  let view ← Elf.readFileHeader (content.read 0 64).toList
  let header := view.header
  if view.ident.take 4 != Elf.magic || (header.type != 2 && header.type != 3)
      || header.machine != 0x3e || view.progHeaderSize != 56 || header.progHeaderCount = 0
      || 0x10000 < 56 * header.progHeaderCount.toNat then none
  let headersAt := header.progHeaderOffset.toNat
  let progHeaders ← (List.range header.progHeaderCount.toNat).mapM fun i =>
    Elf.readProgHeader (content.read (headersAt + 56 * i) 56).toList
  if progHeaders.any (·.type == 3) then none
  return { entry := header.entry, headersAt, progHeaders }

/-- The first address behind all parts. -/
def limit (executable : Executable) : Nat :=
  executable.loads.foldl
    (fun most header => max most (header.virtualAddress.toNat + header.memorySize.toNat)) 0

/-- The address of the headers in memory. -/
def headersAddress (executable : Executable) : UInt64 :=
  match executable.loads.find? fun header =>
      header.offset.toNat ≤ executable.headersAt
        && executable.headersAt < header.offset.toNat + header.fileSize.toNat with
  | some header =>
    header.virtualAddress + UInt64.ofNat (executable.headersAt - header.offset.toNat)
  | none => 0

end Executable

/-- What may be done with a part. -/
def accessOf (permissions : Permissions) : Nat :=
  (if permissions.has .read then 1 else 0) + (if permissions.has .write then 2 else 0)
    + (if permissions.has .execute then 4 else 0)

/-- The mappings of a part: pages of the file, then pages of zeros. -/
def partMappings (content : Nat) (header : Elf.ProgHeader) : List Mapping :=
  let address := header.virtualAddress.toNat
  let within := address % pageBytes
  let start := address - within
  let filled := start + pageAligned (header.fileSize.toNat + within)
  let stop := start + pageAligned (header.memorySize.toNat + within)
  let access := accessOf header.flags
  let file : List Mapping := if header.fileSize = 0 then [] else
    [{ start, stop := filled, access, source := .content content (header.offset.toNat - within) }]
  let middle := if header.fileSize = 0 then start else filled
  let zeros : List Mapping := if header.memorySize = 0 || stop ≤ middle then [] else
    [{ start := middle, stop, access }]
  file ++ zeros

/-! ### The stack -/

/-- Where the stack ends. -/
def stackTop : Nat := 0x7ffe10000000

/-- How many bytes of the stack are there from the start. -/
def stackBytes : Nat := 0x21000

/-- The length of texts with a zero behind each. -/
def textsLength (texts : List Bytes) : Nat :=
  texts.foldr (fun text bytes => text.length + 1 + bytes) 0

/-- The addresses of texts that stand one after the other. -/
def textAddresses (start : Nat) : List Bytes → List UInt64
  | [] => []
  | text :: rest => UInt64.ofNat start :: textAddresses (start + text.length + 1) rest

/-- Where the stack of a program starts, what it is told about the machine, and what it finds on its
stack. -/
def initialStack (executable : Executable) (path : Bytes) (arguments environment : List Bytes) :
    Nat × ByteArray × ByteArray :=
  let texts := arguments ++ environment ++ [path]
  let textsStart := stackTop - 8 - textsLength texts
  let addresses := textAddresses textsStart texts
  let platform := (textsStart - 8) / 16 * 16
  let random := platform - 16
  let tell (key value : Nat) : List UInt64 := [UInt64.ofNat key, UInt64.ofNat value]
  let told : List UInt64 := ([tell 33 0x7ffe20000000, tell 51 3632, tell 16 0xbfebfbff,
    tell 6 pageBytes, tell 17 100, tell 3 executable.headersAddress.toNat, tell 4 56,
    tell 5 executable.progHeaders.length, tell 7 0, tell 8 0, tell 9 executable.entry.toNat, tell 11 0,
    tell 12 0, tell 13 0, tell 14 0, tell 23 0, tell 25 random, tell 26 2, tell 27 28, tell 28 32,
    tell 31 (addresses.getLastD 0).toNat, tell 15 platform, tell 0 0] : List (List UInt64)).flatten
  let numbers := UInt64.ofNat arguments.length :: addresses.take arguments.length
    ++ 0 :: (addresses.drop arguments.length).take environment.length ++ 0 :: told
  let start := (random - 8 * numbers.length) / 16 * 16
  let words := padded (packNumbers numbers) (random - start)
  let tail := padded (padded words (platform - start) ++ ⟨#[0x78, 0x38, 0x36, 0x5f, 0x36, 0x34, 0]⟩)
    (textsStart - start)
  (start, packNumbers told, tail ++ ⟨(texts.flatMap (· ++ [0])).toArray⟩ ++ ⟨Array.replicate 8 0⟩)

namespace Kernel

/-- The number of a fresh address space. -/
def addSpace (space : Space) : Kernel Nat :=
  modifyGet fun world => (world.spaces.size, { world with spaces := world.spaces.push space })

/-- Where data that can grow starts, behind the parts of a program. -/
def breakDistance : Nat := 0x20000000

/-- The address space of a program before it runs. -/
def spaceFor (executable : Executable) (content node : Nat) : Space :=
  let stack : Mapping :=
    { start := stackTop - stackBytes, stop := stackTop, access := 3, growsDown := true }
  let parts := executable.loads.flatMap (partMappings content)
  let break_ := pageAligned executable.limit + breakDistance
  parts.foldl
    (fun space mapping => (space.clear mapping.start mapping.stop).insert mapping)
    { mappings := [stack], breakStart := break_, breakStop := break_, executable := node }

/-- Puts zeros behind the bytes of a part that come from its file. -/
def clearBehind (header : Elf.ProgHeader) : Kernel Unit := do
  let start := header.virtualAddress.toNat + header.fileSize.toNat
  if header.fileSize < header.memorySize && start % pageBytes ≠ 0 then
    match (← space).find? start with
    | some mapping => alterPage mapping start fun page => page.cutAt (start % pageBytes)
    | none => pure ()

/-- Puts a file into a fresh address space and starts the running thread in it. -/
def loadProgram (executable : Executable) (content node : Nat) (path : Bytes) (arguments environment : List Bytes) :
    Kernel Unit := do
  let (top, auxiliary, bytes) := initialStack executable path arguments environment
  let fresh := (← space).heir (spaceFor executable content node)
  let number ← addSpace { fresh with auxiliary }
  modifyThread ({ · with space := number })
  executable.loads.forM clearBehind
  let _ ← copyOut top bytes
  modifyCpu fun _ => ({ next := executable.entry : Cpu }).set X86.sp (UInt64.ofNat top)

end Kernel

end StaticElf.Linux
