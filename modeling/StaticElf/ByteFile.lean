/-
**Files of bytes.**

A file has a size and holds the byte that was last written at each place; a place below the size that
was never written holds zero. Only what was written is kept.

* `ByteFile.byteAt`, `ByteFile.read` — what a file holds.
* `ByteFile.write`, `ByteFile.truncate` — writing past the end leaves zeros between, and writing
  nothing changes nothing.
* `OpenFile` — a file with a position, as an output for an executable.
-/

import StaticElf.Elf.Emission

namespace StaticElf

/-- Bytes that were written, and where. -/
structure Extent where
  start : Nat
  bytes : Array UInt8
  deriving DecidableEq, Repr

/-- The byte that an extent holds at a place. -/
def Extent.byteAt? (extent : Extent) (place : Nat) : Option UInt8 :=
  if place < extent.start then none else extent.bytes[place - extent.start]?

/-- A file: its size and what was written, the latest first. -/
structure ByteFile where
  size : Nat := 0
  extents : List Extent := []
  deriving DecidableEq, Repr

namespace ByteFile

/-- The byte at a place, zero where nothing was written and behind the end. -/
def byteAt (file : ByteFile) (place : Nat) : UInt8 :=
  if place < file.size then (file.extents.findSome? (·.byteAt? place)).getD 0 else 0

/-- Bytes from a place on, at most up to the end of the file. -/
def read (file : ByteFile) (start length : Nat) : Bytes :=
  (List.range (min length (file.size - start))).map fun i => file.byteAt (start + i)

/-- All bytes of a file. -/
def toBytes (file : ByteFile) : Bytes := file.read 0 file.size

/-- The file that holds the given bytes. -/
def ofBytes (bytes : Bytes) : ByteFile :=
  if bytes.isEmpty then {} else { size := bytes.length, extents := [⟨0, bytes.toArray⟩] }

/-- Writes bytes from a place on. -/
def write (file : ByteFile) (place : Nat) (bytes : Bytes) : ByteFile :=
  if bytes.isEmpty then file
  else {
    size := max file.size (place + bytes.length)
    extents := ⟨place, bytes.toArray⟩ :: file.extents }

/-- Cuts a file, or extends it with zeros, to a size. -/
def truncate (file : ByteFile) (size : Nat) : ByteFile where
  size := size
  extents := file.extents.map fun extent =>
    { extent with bytes := extent.bytes.take (size - extent.start) }

end ByteFile

/-- A file and the position at which the next write goes. -/
structure OpenFile where
  file : ByteFile := {}
  position : Nat := 0
  deriving DecidableEq, Repr

namespace OpenFile

/-- A call on an open file. A write moves the position behind what was written; a negative position
or size is refused. -/
def perform (opened : OpenFile) : Elf.Call → Except String Unit × OpenFile
  | .seek offset =>
    if offset < 0 then (.error "invalid argument", opened)
    else (.ok (), { opened with position := offset.toNatClampNeg })
  | .truncate size =>
    if size < 0 then (.error "invalid argument", opened)
    else (.ok (), { opened with file := opened.file.truncate size.toNatClampNeg })
  | .write data =>
    (.ok (), {
      file := opened.file.write opened.position data
      position := opened.position + data.length })

/-- The open file as an output. -/
def output : Elf.Output (StateM OpenFile) where
  perform call := fun opened => opened.perform call

end OpenFile

end StaticElf
