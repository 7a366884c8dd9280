/-
**An executable gives its assembly back.**

A reader that knows only the format finds the headers at the start of the file, the segments where
the headers say, and so the assembly that was written.

* `FileOf.read_heading`, `FileOf.read_code`, `FileOf.read_data` — what can be read from the file of
  an assembly.
* `imageOf`, `FileOf.ofFile?` — the image of that file.
* `Image.assembly?`, `assemblyOf?` — the assembly that an image and a file stand for.
* `assemblyOf_emit` — what was emitted is read back, so that files of different assemblies differ.
-/

import StaticElf.Proofs.Emission

namespace StaticElf.Elf

/-! ### Reading the file of an assembly -/

section Reading

variable {assembly : Assembly} {file : ByteFile}

/-- A part of the headers can be read at its offset. -/
theorem FileOf.read_heading (fileOf : FileOf assembly file) {offset count : Nat}
    (inside : offset + count ≤ 176) :
    file.read offset count = ((headerBytes assembly).drop offset).take count := by
  have whole : file.read 0 (headerBytes assembly).length = headerBytes assembly := by
    apply ByteFile.read_eq_of_byteAt
    · intro _
      rw [length_headerBytes, fileOf.size]
      omega
    · intro place inHeaders
      rw [length_headerBytes] at inHeaders
      rw [Nat.zero_add, fileOf.header place inHeaders]
  rw [← whole, length_headerBytes, ByteFile.read_eq_toBytes, ByteFile.read_eq_toBytes,
    List.drop_zero, List.drop_take, List.take_take, Nat.min_eq_left (by omega)]

/-- A segment that ends in the file, and whose places hold its bytes, can be read. -/
theorem read_segment (segment : Segment) (ends : segment.fileEnd ≤ file.size)
    (held : ∀ place, segment.Covers place → file.byteAt place = segment.byteAt place) :
    file.read segment.place.offset.toNat segment.payload.length = segment.payload := by
  apply ByteFile.read_eq_of_byteAt
  · intro notEmpty
    rwa [Segment.fileEnd, if_neg notEmpty] at ends
  · intro i inside
    rw [held _ ⟨Nat.le_add_right _ _, Nat.add_lt_add_left inside _⟩, Segment.byteAt,
      Nat.add_sub_cancel_left]

theorem FileOf.read_code (fileOf : FileOf assembly file) :
    file.read assembly.codeAt.offset.toNat assembly.code.length = assembly.code :=
  read_segment (codeSegment assembly) (by rw [fileOf.size]; omega) fileOf.code

theorem FileOf.read_data (fileOf : FileOf assembly file) :
    file.read assembly.dataAt.offset.toNat assembly.data.length = assembly.data :=
  read_segment (dataSegment assembly) (by rw [fileOf.size]; omega) fileOf.data

/-- **The file header of the file.** -/
theorem FileOf.readFileHeader (fileOf : FileOf assembly file) :
    readFileHeader (file.read 0 64) = some {
      ident := executableIdent
      version := 1
      headerSize := 64
      progHeaderSize := 56
      header := fileHeader assembly } := by
  have bytes : file.read 0 64 = (fileHeader assembly).bytes ++ [] :=
    fileOf.read_heading (by decide)
  rw [bytes, readFileHeader_bytes]

theorem FileOf.readProgHeader_code (fileOf : FileOf assembly file) :
    readProgHeader (file.read 64 56) = some (codeSegment assembly).progHeader := by
  have bytes : file.read 64 56 = (codeSegment assembly).progHeader.bytes ++ [] :=
    fileOf.read_heading (by decide)
  rw [bytes, readProgHeader_bytes]

theorem FileOf.readProgHeader_data (fileOf : FileOf assembly file) :
    readProgHeader (file.read 120 56) = some (dataSegment assembly).progHeader := by
  have bytes : file.read 120 56 = (dataSegment assembly).progHeader.bytes ++ [] :=
    fileOf.read_heading (by decide)
  rw [bytes, readProgHeader_bytes]

/-- The image of an assembly in a file. -/
def imageOf (assembly : Assembly) (file : ByteFile) : Image where
  file := file
  entry := assembly.entry
  progHeaders := [(codeSegment assembly).progHeader, (dataSegment assembly).progHeader]

/-- **The image of the file of an assembly.** -/
theorem FileOf.ofFile? (fileOf : FileOf assembly file) :
    Image.ofFile? file = some (imageOf assembly file) := by
  have progHeaders : (List.range 2).mapM (fun i => readProgHeader (file.read (64 + 56 * i) 56))
      = some [(codeSegment assembly).progHeader, (dataSegment assembly).progHeader] := by
    show (do
      let code ← readProgHeader (file.read 64 56)
      let data ← readProgHeader (file.read 120 56)
      pure [code, data]) = _
    rw [fileOf.readProgHeader_code, fileOf.readProgHeader_data]
    rfl
  have count : (fileHeader assembly).progHeaderCount.toNat = 2 := rfl
  have offset : (fileHeader assembly).progHeaderOffset.toNat = 64 := rfl
  have type : (fileHeader assembly).type = 2 := rfl
  have machine : (fileHeader assembly).machine = 0x3e := rfl
  unfold Image.ofFile?
  rw [fileOf.readFileHeader]
  simp only [Option.bind_eq_bind, Option.bind_some, type, machine, decide_true, Bool.and_true,
    if_true, count, offset, progHeaders]
  rfl

end Reading

/-! ### The assembly of a file -/

/-- The placement that a program header gives. -/
def ProgHeader.placement (header : ProgHeader) : Placement where
  offset := header.offset
  virtualAddress := header.virtualAddress
  physicalAddress := header.physicalAddress
  memorySize := header.memorySize

/-- The bytes of the file that a program header names. -/
def Image.payload (image : Image) (header : ProgHeader) : Bytes :=
  image.file.read header.offset.toNat header.fileSize.toNat

/-- The assembly of an image in which two parts are loaded, the code first. -/
def Image.assembly? (image : Image) : Option Assembly :=
  match image.loads with
  | [code, data] => some {
      code := image.payload code
      data := image.payload data
      codeAt := code.placement
      dataAt := data.placement }
  | _ => none

/-- The assembly of a file, by its headers. -/
def assemblyOf? (file : ByteFile) : Option Assembly := (Image.ofFile? file).bind Image.assembly?

/-- **The assembly of a file depends on its content alone**, not on how it was written. -/
theorem assemblyOf?_congr {file other : ByteFile} (same : file.toBytes = other.toBytes) :
    assemblyOf? file = assemblyOf? other := by
  have reads (start length : Nat) : file.read start length = other.read start length := by
    rw [ByteFile.read_eq_toBytes, ByteFile.read_eq_toBytes, same]
  have images (entry : UInt64) (progHeaders : List ProgHeader) :
      Image.assembly? ⟨file, entry, progHeaders⟩ = Image.assembly? ⟨other, entry, progHeaders⟩ := by
    simp only [Image.assembly?, Image.loads, Image.payload, reads]
  unfold assemblyOf? Image.ofFile?
  simp only [reads, Option.bind_eq_bind, Option.bind_assoc]
  congr 1
  funext view
  split
  · simp only [Option.bind_assoc]
    congr 1
    funext progHeaders
    exact images _ progHeaders
  · rfl

section Payloads

variable {assembly : Assembly} {file : ByteFile}

theorem FileOf.payload_code (fileOf : FileOf assembly file) (sized : assembly.Sized) :
    (imageOf assembly file).payload (codeSegment assembly).progHeader = assembly.code := by
  show file.read assembly.codeAt.offset.toNat (codeSegment assembly).fileSize.toNat = _
  rw [Segment.toNat_fileSize sized.1]
  exact fileOf.read_code

theorem FileOf.payload_data (fileOf : FileOf assembly file) (sized : assembly.Sized) :
    (imageOf assembly file).payload (dataSegment assembly).progHeader = assembly.data := by
  show file.read assembly.dataAt.offset.toNat (dataSegment assembly).fileSize.toNat = _
  rw [Segment.toNat_fileSize sized.2]
  exact fileOf.read_data

theorem FileOf.assemblyOf? (fileOf : FileOf assembly file) (sized : assembly.Sized) :
    assemblyOf? file = some assembly := by
  rw [Elf.assemblyOf?, fileOf.ofFile?]
  show some (Assembly.mk _ _ _ _) = _
  rw [fileOf.payload_code sized, fileOf.payload_data sized]
  rfl

end Payloads

/-- **An emitted executable is read back.** The headers of an accepted assembly are made and have
176 bytes; on any open file it is written; and what is written says that it is a 64-bit
little-endian x86-64 executable without sections, which starts at its code and has two loaded parts,
the code that can be read and run and the data that can be read. The assembly is read back whole,
and the file of another assembly has another content. -/
theorem assemblyOf_emit (verbose : Bool) (before : OpenFile) {assembly : Assembly}
    (accepted : check assembly = .ok ()) (sized : assembly.Sized) :
    let emission := (emit verbose (some OpenFile.output) (some assembly)).run before
    (∃ heading, (headers verbose assembly).result = .ok heading ∧ heading.length = 176)
      ∧ emission.1.result = .ok ()
      ∧ readFileHeader (emission.2.file.read 0 64) = some {
          ident := [0x7f, 0x45, 0x4c, 0x46, 2, 1, 1, 0, 0, 0, 0, 0, 0, 0, 0, 0]
          version := 1
          headerSize := 64
          progHeaderSize := 56
          header := {
            type := 2, machine := 0x3e, entry := assembly.codeAt.virtualAddress
            progHeaderOffset := 64, progHeaderCount := 2, flags := 0
            sectionHeaderOffset := 0, sectionHeaderSize := 0, sectionHeaderCount := 0
            sectionNameIndex := 0 } }
      ∧ (∃ image code data, Image.ofFile? emission.2.file = some image
          ∧ image.entry = assembly.codeAt.virtualAddress
          ∧ image.progHeaders = [code, data] ∧ image.loads = [code, data]
          ∧ code.flags = Permissions.read.join .execute ∧ data.flags = .read
          ∧ code.placement = assembly.codeAt ∧ data.placement = assembly.dataAt
          ∧ image.payload code = assembly.code ∧ image.payload data = assembly.data)
      ∧ assemblyOf? emission.2.file = some assembly
      ∧ ∀ (verbose' : Bool) (before' : OpenFile) (other : Assembly), check other = .ok () →
          other.Sized → other ≠ assembly →
          ((emit verbose' (some OpenFile.output) (some other)).run before').2.file.toBytes
            ≠ emission.2.file.toBytes := by
  intro emission
  obtain ⟨succeeds, fileOf⟩ := emit_openFile verbose accepted sized before
  refine ⟨⟨_, result_headers verbose accepted, length_headerBytes assembly⟩, succeeds,
    fileOf.readFileHeader, ?_, fileOf.assemblyOf? sized, ?_⟩
  · exact ⟨_, _, _, fileOf.ofFile?, rfl, rfl, rfl, rfl, rfl, rfl, rfl,
      fileOf.payload_code sized, fileOf.payload_data sized⟩
  · intro verbose' before' other accepted' sized' different same
    obtain ⟨-, fileOf'⟩ := emit_openFile verbose' accepted' sized' before'
    have recovered := assemblyOf?_congr same
    rw [fileOf'.assemblyOf? sized', fileOf.assemblyOf? sized] at recovered
    exact different (Option.some.inj recovered)

/-- The assembly `dataFirst` with a shorter payload. -/
def dataShortened : Assembly := { dataFirst with data := [0x68] }

theorem assemblyOf_emit_dataFirst :
    check dataFirst = .ok () ∧ dataFirst.Sized
      ∧ assemblyOf? ((emit true (some OpenFile.output) (some dataFirst)).run
          { file := ByteFile.ofBytes [1, 2, 3], position := 7 }).2.file = some dataFirst
      ∧ ((emit false (some OpenFile.output) (some dataShortened)).run {}).2.file.toBytes
        ≠ ((emit true (some OpenFile.output) (some dataFirst)).run
          { file := ByteFile.ofBytes [1, 2, 3], position := 7 }).2.file.toBytes := by
  have accepted : check dataFirst = .ok () := rfl
  have sized : dataFirst.Sized := by decide
  obtain ⟨-, -, -, -, recovered, apart⟩ := assemblyOf_emit true
    { file := ByteFile.ofBytes [1, 2, 3], position := 7 } accepted sized
  exact ⟨accepted, sized, recovered, apart false {} dataShortened rfl (by decide) (by decide)⟩

end StaticElf.Elf
