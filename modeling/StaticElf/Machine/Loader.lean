/-
**Loading an executable into memory.**

* `exactMemory` — each loaded part byte for byte: its file bytes, then zeros up to its memory size.
* `pagedMemory` — each loaded part by whole pages of the file, as an operating system maps it: the
  bytes of the file around the part are there too.
-/

import StaticElf.Elf.Reader
import StaticElf.Machine.Memory

namespace StaticElf.Machine

/-- The byte of a loaded part at an address, exactly. -/
def exactCell (file : ByteFile) (header : Elf.ProgHeader) (address : Nat) : Option Cell :=
  let start := header.virtualAddress.toNat
  if address < start || start + header.memorySize.toNat ≤ address then none
  else if address < start + header.fileSize.toNat then
    some ⟨file.byteAt (header.offset.toNat + (address - start)), header.flags⟩
  else some ⟨0, header.flags⟩

/-- The byte of a loaded part at an address, when whole pages are mapped. A part without bytes is not
mapped. -/
def pagedCell (file : ByteFile) (header : Elf.ProgHeader) (address : Nat) : Option Cell :=
  let start := header.virtualAddress.toNat
  let firstByte := start / pageBytes * pageBytes
  let behind := (start + header.memorySize.toNat + pageBytes - 1) / pageBytes * pageBytes
  if header.memorySize = 0 || address < firstByte || behind ≤ address then none
  else if header.fileSize < header.memorySize && start + header.fileSize.toNat ≤ address then
    some ⟨0, header.flags⟩
  else some ⟨file.byteAt (header.offset.toNat + address - start), header.flags⟩

/-- The memory of an image, byte for byte. Where parts lie on each other the last one counts. -/
def exactMemory (image : Elf.Image) : Memory := fun address =>
  image.loads.reverse.findSome? (exactCell image.file · address)

/-- The memory of an image by whole pages. Where pages lie on each other the last one counts. -/
def pagedMemory (image : Elf.Image) : Memory := fun address =>
  image.loads.reverse.findSome? (pagedCell image.file · address)

end StaticElf.Machine
