/-
**Headers can be read back.**

A header is written field by field and read by the offsets of its fields. Each field lies where the
reader looks for it, whatever the values of the others are.

* `FileHeader.bytes`, `ProgHeader.bytes` — the bytes of a record; `content_encode` says that
  encoding appends them.
* `readFileHeader_bytes`, `readProgHeader_bytes` — a reader gets every field back.
* `Recoverable` — a way to write records that loses nothing; `headers_recoverable` says that both
  kinds of headers are written so.
* `headerBytes` — the headers of an assembly, 176 bytes; `result_headers` says that they are what is
  made for an accepted assembly, so the check of their length never fails.
-/

import StaticElf.Elf.Reader
import StaticElf.Proofs.Outcome
import StaticElf.Theory.LittleEndian

namespace StaticElf

/-! ### Words in a string of bytes -/

theorem leValue_u16Bytes (word : UInt16) : leValue (u16Bytes word) = word.toNat := by
  rw [u16Bytes, leValue_leBytes]
  exact Nat.mod_eq_of_lt word.toNat_lt

theorem leValue_u32Bytes (word : UInt32) : leValue (u32Bytes word) = word.toNat := by
  rw [u32Bytes, leValue_leBytes]
  exact Nat.mod_eq_of_lt word.toNat_lt

theorem leValue_u64Bytes (word : UInt64) : leValue (u64Bytes word) = word.toNat := by
  rw [u64Bytes, leValue_leBytes]
  exact Nat.mod_eq_of_lt word.toNat_lt

namespace Elf

section Fields

variable {bytes : Bytes} {offset : Nat}

theorem fieldAt_u16 {word : UInt16} (held : (bytes.drop offset).take 2 = u16Bytes word) :
    UInt16.ofNat (fieldAt bytes offset 2) = word := by
  rw [fieldAt, held, leValue_u16Bytes, UInt16.ofNat_toNat]

theorem fieldAt_u32 {word : UInt32} (held : (bytes.drop offset).take 4 = u32Bytes word) :
    UInt32.ofNat (fieldAt bytes offset 4) = word := by
  rw [fieldAt, held, leValue_u32Bytes, UInt32.ofNat_toNat]

theorem fieldAt_u64 {word : UInt64} (held : (bytes.drop offset).take 8 = u64Bytes word) :
    UInt64.ofNat (fieldAt bytes offset 8) = word := by
  rw [fieldAt, held, leValue_u64Bytes, UInt64.ofNat_toNat]

end Fields

/-! ### The file header -/

/-- The bytes of a file header. -/
def FileHeader.bytes (header : FileHeader) : Bytes :=
  magic ++ ([2, 1, 1, 0, 0] ++ (List.replicate 7 0
    ++ (u16Bytes header.type ++ (u16Bytes header.machine ++ (u32Bytes 1
    ++ (u64Bytes header.entry ++ (u64Bytes header.progHeaderOffset
    ++ (u64Bytes header.sectionHeaderOffset ++ (u32Bytes header.flags
    ++ (u16Bytes 64 ++ (u16Bytes 56 ++ (u16Bytes header.progHeaderCount
    ++ (u16Bytes header.sectionHeaderSize ++ (u16Bytes header.sectionHeaderCount
    ++ u16Bytes header.sectionNameIndex))))))))))))))

@[simp] theorem FileHeader.length_bytes (header : FileHeader) : header.bytes.length = 64 := rfl

/-- Encoding appends the bytes of the header and keeps what was there. -/
theorem FileHeader.content_encode (header : FileHeader) (buffer : HeaderBuffer) :
    (header.encode buffer).content = buffer.content ++ header.bytes := by
  simp [FileHeader.encode, FileHeader.bytes, HeaderBuffer.put8, HeaderBuffer.putRepeated,
    HeaderBuffer.put16, HeaderBuffer.put32, HeaderBuffer.put64, fileHeaderSize, progHeaderSize]

/-- **A file header is read back**, whatever follows it: the fixed fields and all that vary. -/
theorem readFileHeader_bytes (header : FileHeader) (rest : Bytes) :
    readFileHeader (header.bytes ++ rest) = some {
      ident := executableIdent
      version := 1
      headerSize := 64
      progHeaderSize := 56
      header } := by
  have long : ¬ (header.bytes ++ rest).length < 64 := by
    rw [List.length_append, FileHeader.length_bytes]
    omega
  have ident : (header.bytes ++ rest).take 16 = executableIdent := rfl
  have type : UInt16.ofNat (fieldAt (header.bytes ++ rest) 0x10 2) = header.type :=
    fieldAt_u16 rfl
  have machine : UInt16.ofNat (fieldAt (header.bytes ++ rest) 0x12 2) = header.machine :=
    fieldAt_u16 rfl
  have version : UInt32.ofNat (fieldAt (header.bytes ++ rest) 0x14 4) = 1 := fieldAt_u32 rfl
  have entry : UInt64.ofNat (fieldAt (header.bytes ++ rest) 0x18 8) = header.entry :=
    fieldAt_u64 rfl
  have progOffset : UInt64.ofNat (fieldAt (header.bytes ++ rest) 0x20 8)
      = header.progHeaderOffset := fieldAt_u64 rfl
  have sectionOffset : UInt64.ofNat (fieldAt (header.bytes ++ rest) 0x28 8)
      = header.sectionHeaderOffset := fieldAt_u64 rfl
  have flags : UInt32.ofNat (fieldAt (header.bytes ++ rest) 0x30 4) = header.flags :=
    fieldAt_u32 rfl
  have headerSize : UInt16.ofNat (fieldAt (header.bytes ++ rest) 0x34 2) = 64 := fieldAt_u16 rfl
  have progSize : UInt16.ofNat (fieldAt (header.bytes ++ rest) 0x36 2) = 56 := fieldAt_u16 rfl
  have progCount : UInt16.ofNat (fieldAt (header.bytes ++ rest) 0x38 2)
      = header.progHeaderCount := fieldAt_u16 rfl
  have sectionSize : UInt16.ofNat (fieldAt (header.bytes ++ rest) 0x3a 2)
      = header.sectionHeaderSize := fieldAt_u16 rfl
  have sectionCount : UInt16.ofNat (fieldAt (header.bytes ++ rest) 0x3c 2)
      = header.sectionHeaderCount := fieldAt_u16 rfl
  have nameIndex : UInt16.ofNat (fieldAt (header.bytes ++ rest) 0x3e 2)
      = header.sectionNameIndex := fieldAt_u16 rfl
  unfold readFileHeader
  rw [if_neg long, ident, type, machine, version, entry, progOffset, sectionOffset, flags,
    headerSize, progSize, progCount, sectionSize, sectionCount, nameIndex]

/-! ### Program headers -/

/-- The bytes of a program header. -/
def ProgHeader.bytes (header : ProgHeader) : Bytes :=
  u32Bytes header.type ++ (u32Bytes header.flags.bits ++ (u64Bytes header.offset
    ++ (u64Bytes header.virtualAddress ++ (u64Bytes header.physicalAddress
    ++ (u64Bytes header.fileSize ++ (u64Bytes header.memorySize ++ u64Bytes header.align))))))

@[simp] theorem ProgHeader.length_bytes (header : ProgHeader) : header.bytes.length = 56 := rfl

/-- Encoding appends the bytes of the header and keeps what was there. -/
theorem ProgHeader.content_encode (header : ProgHeader) (buffer : HeaderBuffer) :
    (header.encode buffer).content = buffer.content ++ header.bytes := by
  simp [ProgHeader.encode, ProgHeader.bytes, HeaderBuffer.put32, HeaderBuffer.put64]

/-- **A program header is read back**, whatever follows it. -/
theorem readProgHeader_bytes (header : ProgHeader) (rest : Bytes) :
    readProgHeader (header.bytes ++ rest) = some header := by
  have long : ¬ (header.bytes ++ rest).length < 56 := by
    rw [List.length_append, ProgHeader.length_bytes]
    omega
  have type : UInt32.ofNat (fieldAt (header.bytes ++ rest) 0x00 4) = header.type := fieldAt_u32 rfl
  have flags : UInt32.ofNat (fieldAt (header.bytes ++ rest) 0x04 4) = header.flags.bits :=
    fieldAt_u32 rfl
  have offset : UInt64.ofNat (fieldAt (header.bytes ++ rest) 0x08 8) = header.offset :=
    fieldAt_u64 rfl
  have virtualAddress : UInt64.ofNat (fieldAt (header.bytes ++ rest) 0x10 8)
      = header.virtualAddress := fieldAt_u64 rfl
  have physicalAddress : UInt64.ofNat (fieldAt (header.bytes ++ rest) 0x18 8)
      = header.physicalAddress := fieldAt_u64 rfl
  have fileSize : UInt64.ofNat (fieldAt (header.bytes ++ rest) 0x20 8) = header.fileSize :=
    fieldAt_u64 rfl
  have memorySize : UInt64.ofNat (fieldAt (header.bytes ++ rest) 0x28 8) = header.memorySize :=
    fieldAt_u64 rfl
  have align : UInt64.ofNat (fieldAt (header.bytes ++ rest) 0x30 8) = header.align :=
    fieldAt_u64 rfl
  unfold readProgHeader
  rw [if_neg long, type, flags, offset, virtualAddress, physicalAddress, fileSize, memorySize,
    align]

/-! ### Records in a buffer -/

/-- **A way to write records that loses nothing.** What was in the buffer stays before the record, which
takes `size` bytes and is read at its place, whatever follows it. The content of the buffer tells which
record was written, and on what. -/
structure Recoverable {ρ ν : Type} (size : Nat) (encode : ρ → HeaderBuffer → HeaderBuffer)
    (read : Bytes → Option ν) (view : ρ → ν) : Prop where
  keeps : ∀ record buffer, buffer.content <+: (encode record buffer).content
  grows : ∀ record buffer,
    (encode record buffer).content.length = buffer.content.length + size
  reads : ∀ record buffer rest,
    read (((encode record buffer).content ++ rest).drop buffer.content.length) = some (view record)
  injective : ∀ record record' buffer buffer',
    (encode record buffer).content = (encode record' buffer').content
      ↔ buffer.content = buffer'.content ∧ record = record'

/-- A record that is appended as bytes which can be read back is recoverable. -/
theorem Recoverable.of_bytes {ρ ν : Type} {size : Nat} {encode : ρ → HeaderBuffer → HeaderBuffer}
    {read : Bytes → Option ν} {view : ρ → ν} (bytes : ρ → Bytes)
    (content : ∀ record buffer, (encode record buffer).content = buffer.content ++ bytes record)
    (length : ∀ record, (bytes record).length = size)
    (read_bytes : ∀ record rest, read (bytes record ++ rest) = some (view record))
    (view_inj : ∀ record record', view record = view record' → record = record') :
    Recoverable size encode read view where
  keeps record buffer := by
    rw [content]
    exact List.prefix_append _ _
  grows record buffer := by rw [content, List.length_append, length]
  reads record buffer rest := by rw [content, List.append_assoc, List.drop_left, read_bytes]
  injective record record' buffer buffer' := by
    rw [content, content]
    constructor
    · intro same
      obtain ⟨before, written⟩ := List.append_inj' same ((length record).trans (length record').symm)
      have views := read_bytes record []
      rw [written, read_bytes record' []] at views
      exact ⟨before, view_inj record record' (Option.some.inj views).symm⟩
    · rintro ⟨before, rfl⟩
      rw [before]

/-- **Both kinds of headers are recoverable**, for any values of their fields and in any buffer. A file
header takes 64 bytes, among them the identification, version and sizes that do not vary, and a program
header takes 56. -/
theorem headers_recoverable :
    Recoverable 64 FileHeader.encode readFileHeader (fun header => {
        ident := [0x7f, 0x45, 0x4c, 0x46, 2, 1, 1, 0, 0, 0, 0, 0, 0, 0, 0, 0]
        version := 1
        headerSize := 64
        progHeaderSize := 56
        header })
      ∧ Recoverable 56 ProgHeader.encode readProgHeader id :=
  ⟨.of_bytes FileHeader.bytes FileHeader.content_encode FileHeader.length_bytes readFileHeader_bytes
      fun _ _ same => congrArg FileHeaderView.header same,
    .of_bytes ProgHeader.bytes ProgHeader.content_encode ProgHeader.length_bytes readProgHeader_bytes
      fun _ _ same => same⟩

/-! ### The headers of an assembly -/

/-- The file header and both program headers of an assembly. -/
def headerBytes (assembly : Assembly) : Bytes :=
  (fileHeader assembly).bytes ++ ((codeSegment assembly).progHeader.bytes
    ++ (dataSegment assembly).progHeader.bytes)

@[simp] theorem length_headerBytes (assembly : Assembly) : (headerBytes assembly).length = 176 := by
  simp [headerBytes]

theorem content_headerBuffer (verbose : Bool) (assembly : Assembly) :
    (headerBuffer verbose assembly).content = headerBytes assembly := by
  simp [headerBuffer, segments, headerBytes, FileHeader.content_encode, ProgHeader.content_encode]

/-- **The headers of an accepted assembly are made**; they always have the right length. -/
theorem result_headers (verbose : Bool) {assembly : Assembly} (accepted : check assembly = .ok ()) :
    (headers verbose assembly).result = .ok (headerBytes assembly) := by
  have length : checkHeadersLength (headerBytes assembly).length = .ok () := by
    rw [length_headerBytes]
    exact if_pos rfl
  unfold headers
  simp only [Traced.result_bind, Traced.result_ofExcept, accepted, ok_bind, content_headerBuffer,
    length, Traced.result_pure]

/-- An assembly that is not accepted has no headers, for the reason of its check. -/
theorem result_headers_error (verbose : Bool) {assembly : Assembly} {error : AssemblyError}
    (refused : check assembly = .error error) :
    (headers verbose assembly).result = .error error := by
  unfold headers
  rw [Traced.result_bind, Traced.result_ofExcept, refused]
  rfl

end Elf

end StaticElf
