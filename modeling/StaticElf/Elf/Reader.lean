/-
**Reading ELF64 headers.**

Headers are read by the offsets of their fields, as any loader reads them.

* `readFileHeader`, `readProgHeader` — the fields of a header, if there are enough bytes.
* `Image` — an executable file by its own headers: where it starts and what is loaded.
-/

import StaticElf.ByteFile

namespace StaticElf.Elf

/-- The number in a field of `width` bytes at an offset. -/
def fieldAt (bytes : Bytes) (offset width : Nat) : Nat := leValue ((bytes.drop offset).take width)

/-- All that a file header says, its fixed fields included. -/
structure FileHeaderView where
  ident : Bytes
  version : UInt32
  headerSize : UInt16
  progHeaderSize : UInt16
  header : FileHeader
  deriving DecidableEq, Repr

/-- The file header at the start of some bytes. -/
def readFileHeader (bytes : Bytes) : Option FileHeaderView :=
  if bytes.length < 64 then none
  else some {
    ident := bytes.take 16
    version := UInt32.ofNat (fieldAt bytes 0x14 4)
    headerSize := UInt16.ofNat (fieldAt bytes 0x34 2)
    progHeaderSize := UInt16.ofNat (fieldAt bytes 0x36 2)
    header := {
      type := UInt16.ofNat (fieldAt bytes 0x10 2)
      machine := UInt16.ofNat (fieldAt bytes 0x12 2)
      entry := UInt64.ofNat (fieldAt bytes 0x18 8)
      progHeaderOffset := UInt64.ofNat (fieldAt bytes 0x20 8)
      sectionHeaderOffset := UInt64.ofNat (fieldAt bytes 0x28 8)
      flags := UInt32.ofNat (fieldAt bytes 0x30 4)
      progHeaderCount := UInt16.ofNat (fieldAt bytes 0x38 2)
      sectionHeaderSize := UInt16.ofNat (fieldAt bytes 0x3a 2)
      sectionHeaderCount := UInt16.ofNat (fieldAt bytes 0x3c 2)
      sectionNameIndex := UInt16.ofNat (fieldAt bytes 0x3e 2) } }

/-- The program header at the start of some bytes. -/
def readProgHeader (bytes : Bytes) : Option ProgHeader :=
  if bytes.length < 56 then none
  else some {
    type := UInt32.ofNat (fieldAt bytes 0x00 4)
    flags := ⟨UInt32.ofNat (fieldAt bytes 0x04 4)⟩
    offset := UInt64.ofNat (fieldAt bytes 0x08 8)
    virtualAddress := UInt64.ofNat (fieldAt bytes 0x10 8)
    physicalAddress := UInt64.ofNat (fieldAt bytes 0x18 8)
    fileSize := UInt64.ofNat (fieldAt bytes 0x20 8)
    memorySize := UInt64.ofNat (fieldAt bytes 0x28 8)
    align := UInt64.ofNat (fieldAt bytes 0x30 8) }

/-- An executable file as its headers describe it. -/
structure Image where
  file : ByteFile
  entry : UInt64
  progHeaders : List ProgHeader
  deriving Repr

/-- The identification of a 64-bit little-endian file of version 1 without an ABI. -/
def executableIdent : Bytes := magic ++ [2, 1, 1, 0, 0] ++ List.replicate 7 0

/-- The image of a file that is an x86-64 executable. -/
def Image.ofFile? (file : ByteFile) : Option Image := do
  let view ← readFileHeader (file.read 0 64)
  if view.ident = executableIdent && view.header.type = 2 && view.header.machine = 0x3e
      && view.progHeaderSize = 56 then
    let progHeaders ← (List.range view.header.progHeaderCount.toNat).mapM fun i =>
      readProgHeader (file.read (view.header.progHeaderOffset.toNat + 56 * i) 56)
    return { file, entry := view.header.entry, progHeaders }
  else none

/-- The parts of an image that are loaded. -/
def Image.loads (image : Image) : List ProgHeader := image.progHeaders.filter (·.type == 1)

end StaticElf.Elf
