/-
**ELF64 header records.**

The file header and the program headers of a little-endian ELF64 file, written field by field into a
buffer.

* `HeaderBuffer` — bytes so far, with a trace of every byte in verbose mode.
* `HeaderBuffer.append` — appends a piece and tells how many bytes that were.
* `FileHeader.encode`, `ProgHeader.encode` — append 64 and 56 bytes.
-/

import StaticElf.Elf.Permissions
import StaticElf.Trace

namespace StaticElf.Elf

/-- The number of bytes of a file header. -/
def fileHeaderSize : Nat := 64

/-- The number of bytes of a program header. -/
def progHeaderSize : Nat := 56

/-- The number of program headers: one for the code, one for the data. -/
def progHeaderCount : Nat := 2

/-- The first byte behind the program headers. -/
def headersEnd : Nat := fileHeaderSize + progHeaderCount * progHeaderSize

/-- The number of bytes of a page. -/
def pageSize : UInt64 := 0x1000

/-! ### Buffers -/

/-- What can be appended at once. -/
inductive Piece where
  | byte (value : UInt8)
  | repeated (value : UInt8) (count : Int)
  | word16 (value : UInt16)
  | word32 (value : UInt32)
  | word64 (value : UInt64)
  | bytes (content : Bytes)
  deriving DecidableEq, Repr

/-- The header bytes so far, and their trace. -/
structure HeaderBuffer where
  verbose : Bool := false
  content : Bytes := []
  trace : List Event := []
  deriving DecidableEq, Repr

namespace HeaderBuffer

/-- Appends an event to the trace, in verbose mode. -/
def note (buffer : HeaderBuffer) (event : Event) : HeaderBuffer :=
  if buffer.verbose then { buffer with trace := buffer.trace ++ [event] } else buffer

/-- Appends bytes. -/
def putBytes (buffer : HeaderBuffer) (bytes : Bytes) : HeaderBuffer :=
  { buffer with content := buffer.content ++ bytes }.note (.headerBytes bytes)

/-- Appends one byte. -/
def put8 (buffer : HeaderBuffer) (byte : UInt8) : HeaderBuffer := buffer.putBytes [byte]

/-- Appends `count` copies of a byte, none when `count` is negative. -/
def putRepeated (buffer : HeaderBuffer) (byte : UInt8) (count : Int) : HeaderBuffer :=
  buffer.putBytes (List.replicate count.toNat byte)

/-- Appends a 16-bit word. -/
def put16 (buffer : HeaderBuffer) (word : UInt16) : HeaderBuffer := buffer.putBytes (u16Bytes word)

/-- Appends a 32-bit word. -/
def put32 (buffer : HeaderBuffer) (word : UInt32) : HeaderBuffer := buffer.putBytes (u32Bytes word)

/-- Appends a 64-bit word. -/
def put64 (buffer : HeaderBuffer) (word : UInt64) : HeaderBuffer := buffer.putBytes (u64Bytes word)

/-- Appends a piece, and tells how many bytes that were. For a repeated byte that is the count that was
asked for, also if it is negative. -/
def append (buffer : HeaderBuffer) : Piece → Int × HeaderBuffer
  | .byte value => (1, buffer.put8 value)
  | .repeated value count => (count, buffer.putRepeated value count)
  | .word16 value => (2, buffer.put16 value)
  | .word32 value => (4, buffer.put32 value)
  | .word64 value => (8, buffer.put64 value)
  | .bytes content => (content.length, buffer.putBytes content)

@[simp] theorem content_note (buffer : HeaderBuffer) (event : Event) :
    (buffer.note event).content = buffer.content := by
  unfold note
  split <;> rfl

@[simp] theorem content_putBytes (buffer : HeaderBuffer) (bytes : Bytes) :
    (buffer.putBytes bytes).content = buffer.content ++ bytes := by
  simp [putBytes]

end HeaderBuffer

/-! ### Records -/

/-- The bytes that open every ELF file. -/
def magic : Bytes := [0x7f, 0x45, 0x4c, 0x46]

/-- The fields of a file header that vary. -/
structure FileHeader where
  type : UInt16 := 0
  machine : UInt16 := 0
  entry : UInt64 := 0
  progHeaderOffset : UInt64 := 0
  sectionHeaderOffset : UInt64 := 0
  flags : UInt32 := 0
  progHeaderCount : UInt16 := 0
  sectionHeaderSize : UInt16 := 0
  sectionHeaderCount : UInt16 := 0
  sectionNameIndex : UInt16 := 0
  deriving DecidableEq, Repr

/-- Appends a file header: identification (64-bit, little-endian, version 1, no ABI), then the
fields in order with the fixed sizes between them. -/
def FileHeader.encode (header : FileHeader) (buffer : HeaderBuffer) : HeaderBuffer :=
  buffer
    |>.putBytes magic
    |>.put8 2
    |>.put8 1
    |>.put8 1
    |>.put8 0
    |>.put8 0
    |>.putRepeated 0 7
    |>.put16 header.type
    |>.put16 header.machine
    |>.put32 1
    |>.put64 header.entry
    |>.put64 header.progHeaderOffset
    |>.put64 header.sectionHeaderOffset
    |>.put32 header.flags
    |>.put16 (UInt16.ofNat fileHeaderSize)
    |>.put16 (UInt16.ofNat progHeaderSize)
    |>.put16 header.progHeaderCount
    |>.put16 header.sectionHeaderSize
    |>.put16 header.sectionHeaderCount
    |>.put16 header.sectionNameIndex

/-- One program header. -/
structure ProgHeader where
  type : UInt32 := 0
  flags : Permissions := ⟨0⟩
  offset : UInt64 := 0
  virtualAddress : UInt64 := 0
  physicalAddress : UInt64 := 0
  fileSize : UInt64 := 0
  memorySize : UInt64 := 0
  align : UInt64 := 0
  deriving DecidableEq, Repr

/-- Appends a program header, field by field. -/
def ProgHeader.encode (header : ProgHeader) (buffer : HeaderBuffer) : HeaderBuffer :=
  buffer
    |>.put32 header.type
    |>.put32 header.flags.bits
    |>.put64 header.offset
    |>.put64 header.virtualAddress
    |>.put64 header.physicalAddress
    |>.put64 header.fileSize
    |>.put64 header.memorySize
    |>.put64 header.align

end StaticElf.Elf
