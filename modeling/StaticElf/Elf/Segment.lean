/-
**Which assemblies an executable can hold.**

An assembly becomes a file with headers and two loaded segments. Not every assembly can: its segments
may lie in the headers, too high, on each other, or out of step with the pages.

* `Segment` and `segments` — the code and the data as they are loaded.
* `check` — accepts exactly the assemblies that an executable can hold; `AssemblyError` is the first
  thing wrong with another.
* `headers` — the 176 bytes of the headers of an assembly that is accepted.
-/

import StaticElf.Elf.Header
import StaticElf.Fault

namespace StaticElf.Elf

/-- A segment to be loaded. -/
structure Segment where
  name : String
  permissions : Permissions
  place : Placement
  payload : Bytes
  deriving DecidableEq, Repr

/-- The number of bytes of a segment in the file, as a word. -/
def Segment.fileSize (segment : Segment) : UInt64 := UInt64.ofNat segment.payload.length

/-- The code, which can be read and run. -/
def codeSegment (assembly : Assembly) : Segment :=
  ⟨"code", Permissions.read.join .execute, assembly.codeAt, assembly.code⟩

/-- The data, which can be read. -/
def dataSegment (assembly : Assembly) : Segment :=
  ⟨"data", .read, assembly.dataAt, assembly.data⟩

/-- Both segments, the code first. -/
def segments (assembly : Assembly) : List Segment := [codeSegment assembly, dataSegment assembly]

/-! ### What can be wrong -/

/-- Why an executable cannot hold an assembly. -/
inductive AssemblyError where
  /-- There is no assembly. -/
  | noAssembly
  /-- The segment starts within the headers. -/
  | inHeaders (segment : String) (offset : UInt64)
  /-- The segment ends above the largest file offset. -/
  | fileEndTooHigh (segment : String) (size offset : UInt64)
  /-- The segment ends above the largest address. -/
  | memoryEndTooHigh (segment : String) (size address : UInt64)
  /-- The segment is larger in the file than in memory. -/
  | largerThanMemory (segment : String) (memorySize fileSize : UInt64)
  /-- The segment's offset and address lie at different places of a page. -/
  | outOfStep (segment : String) (offset address : UInt64)
  /-- Both segments hold the same byte of the file. -/
  | sharedFileBytes (codeOffset codeSize dataOffset dataSize : UInt64)
  /-- Both segments hold the same address. -/
  | sharedAddresses (codeAddress codeSize dataAddress dataSize : UInt64)
  /-- The headers have the wrong number of bytes. -/
  | headersLength (length : Int)
  deriving DecidableEq, Repr

namespace AssemblyError

/-- Two ranges, each with its first value and its length. -/
def rangesText (codeStart codeSize dataStart dataSize : UInt64) : String :=
  s!"code [{Text.hexNumeral codeStart.toNat},+{codeSize.toNat}) and data " ++
    s!"[{Text.hexNumeral dataStart.toNat},+{dataSize.toNat})"

/-- What is said about the failure. -/
def text : AssemblyError → String
  | noAssembly => "emit"
  | inHeaders segment offset =>
    s!"{segment} segment at file offset {Text.hexNumeral offset.toNat} overlaps the headers " ++
      s!"ending at {Text.hexNumeral headersEnd}"
  | fileEndTooHigh segment size offset =>
    s!"{segment} segment of {size.toNat} bytes at file offset {Text.hexNumeral offset.toNat}"
  | memoryEndTooHigh segment size address =>
    s!"{segment} segment of {size.toNat} bytes at address {Text.hexNumeral address.toNat}"
  | largerThanMemory segment memorySize fileSize =>
    s!"{segment} segment memory size {memorySize.toNat} is below its file size {fileSize.toNat}"
  | outOfStep segment offset address =>
    s!"{segment} segment offset {Text.hexNumeral offset.toNat} and address " ++
      s!"{Text.hexNumeral address.toNat} differ modulo {Text.hexNumeral pageSize.toNat}"
  | sharedFileBytes codeOffset codeSize dataOffset dataSize =>
    rangesText codeOffset codeSize dataOffset dataSize ++ " share file bytes"
  | sharedAddresses codeAddress codeSize dataAddress dataSize =>
    rangesText codeAddress codeSize dataAddress dataSize ++ " share addresses"
  | headersLength length => s!"headers are {length} bytes, expected {headersEnd}"

/-- The kind of the failure. -/
def kind : AssemblyError → FaultKind
  | noAssembly => .noAssembly
  | inHeaders .. | sharedFileBytes .. | sharedAddresses .. => .segmentOverlap
  | fileEndTooHigh .. | memoryEndTooHigh .. | largerThanMemory .. | headersLength _ => .fieldOverflow
  | outOfStep .. => .unalignedLayout

/-- The failure as it is reported: a missing assembly is a bad argument, all else is out of range. -/
def fault (error : AssemblyError) : Fault :=
  match error with
  | noAssembly => .argument error.text error.kind
  | _ => .range error.text error.kind

end AssemblyError

/-! ### The check -/

/-- Whether two ranges of words, each given by its start and its length, share a value. The ends
are taken modulo `2 ^ 64`. -/
def overlaps (start length otherStart otherLength : UInt64) : Bool :=
  length != 0 && otherLength != 0 &&
    start < otherStart + otherLength && otherStart < start + length

/-- Accepts a segment that starts behind the headers, ends within the range of file offsets and of
addresses, fits in its memory, and lies in the file as it lies in its page. -/
def Segment.check (segment : Segment) : Except AssemblyError Unit := do
  let place := segment.place
  let size := segment.fileSize
  if place.offset < UInt64.ofNat headersEnd then
    throw (.inHeaders segment.name place.offset)
  if place.offset > 0x7fffffffffffffff - size then
    throw (.fileEndTooHigh segment.name size place.offset)
  if place.virtualAddress > 0xffffffffffffffff - place.memorySize then
    throw (.memoryEndTooHigh segment.name place.memorySize place.virtualAddress)
  if place.memorySize < size then
    throw (.largerThanMemory segment.name place.memorySize size)
  if place.offset % pageSize != place.virtualAddress % pageSize then
    throw (.outOfStep segment.name place.offset place.virtualAddress)

/-- Accepts an assembly whose segments are accepted one by one, the code first, and share neither
bytes of the file nor addresses. -/
def check (assembly : Assembly) : Except AssemblyError Unit := do
  (segments assembly).forM Segment.check
  let code := codeSegment assembly
  let data := dataSegment assembly
  if overlaps code.place.offset code.fileSize data.place.offset data.fileSize then
    throw (.sharedFileBytes code.place.offset code.fileSize data.place.offset data.fileSize)
  if overlaps code.place.virtualAddress code.place.memorySize
      data.place.virtualAddress data.place.memorySize then
    throw (.sharedAddresses code.place.virtualAddress code.place.memorySize
      data.place.virtualAddress data.place.memorySize)

/-- The assembly that was given. -/
def given (assembly : Option Assembly) : Except AssemblyError Assembly :=
  match assembly with
  | none => .error .noAssembly
  | some assembly => .ok assembly

/-- Accepts an assembly that was given and that an executable can hold. -/
def checkGiven (assembly : Option Assembly) : Except AssemblyError Unit := do
  check (← given assembly)

/-! ### The headers -/

/-- The file header of an assembly: an x86-64 executable without sections. -/
def fileHeader (assembly : Assembly) : FileHeader where
  type := 2
  machine := 0x3e
  entry := assembly.entry
  progHeaderOffset := UInt64.ofNat fileHeaderSize
  progHeaderCount := UInt16.ofNat progHeaderCount

/-- The program header of a segment that is loaded. -/
def Segment.progHeader (segment : Segment) : ProgHeader where
  type := 1
  flags := segment.permissions
  offset := segment.place.offset
  virtualAddress := segment.place.virtualAddress
  physicalAddress := segment.place.physicalAddress
  fileSize := segment.fileSize
  memorySize := segment.place.memorySize
  align := pageSize

/-- Accepts the number of bytes that the headers have. -/
def checkHeadersLength (length : Int) : Except AssemblyError Unit :=
  if length = headersEnd then .ok () else .error (.headersLength length)

/-- The file header and both program headers in a buffer. -/
def headerBuffer (verbose : Bool) (assembly : Assembly) : HeaderBuffer :=
  let buffer : HeaderBuffer := { verbose }
  let buffer := (fileHeader assembly).encode (buffer.note (.headerOpened "ELF header"))
  let buffer := (segments assembly).foldl
    (fun buffer segment =>
      segment.progHeader.encode
        (buffer.note (.headerOpened ("\n" ++ segment.name ++ " program header"))))
    buffer
  buffer.note .headersClosed

/-- The headers of an assembly that is accepted. -/
def headers (verbose : Bool) (assembly : Assembly) : Traced AssemblyError Bytes := do
  Traced.ofExcept (check assembly)
  let buffer := headerBuffer verbose assembly
  (⟨.ok (), buffer.trace⟩ : Traced AssemblyError Unit)
  Traced.ofExcept (checkHeadersLength buffer.content.length)
  return buffer.content

end StaticElf.Elf
