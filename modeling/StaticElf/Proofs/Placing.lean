/-
**Where a build places everything.**

A build works on 64-bit words. It refuses symbols above the last address and code that would run into
the data, so that every address and every end is the sum that one would write down in numbers.

* `Builder.LaidOut` — the layout law: addresses, payloads and placements of a program, in numbers.
* `Builder.laidOut_of_build` — every successful build obeys it.
* `Elf.Segment.InMemory` — a segment that ends in memory and is as long there as in the file; every
  segment that is built is one.
* `Builder.Built.admissible_iff` — what an executable still asks of a built assembly.
* `Elf.check_built_iff` — the assemblies that a builder makes and an executable can hold.
-/

import StaticElf.Proofs.Admission
import StaticElf.Proofs.Building
import StaticElf.Proofs.Layouts

namespace StaticElf

/-! ### The layout law -/

/-- A placement at an offset and an address, in memory as long as its payload, and with the same
physical as virtual address. -/
structure Placement.IsAt (place : Placement) (offset address : UInt64) (length : Nat) : Prop where
  offset : place.offset = offset
  virtualAddress : place.virtualAddress = address
  physicalAddress : place.physicalAddress = place.virtualAddress
  memorySize : place.memorySize.toNat = length

namespace Builder

/-- **The layout law.** All sums are sums of natural numbers. -/
structure LaidOut (layout : Layout) (contents : List Bytes) (slots : List Slot)
    (addresses : SymbolTable) (assembly : Assembly) : Prop where
  /-- Each symbol has an address. -/
  addressCount : addresses.length = contents.length
  /-- Each symbol begins where those before it end. -/
  address : ∀ (index : Nat) (address : UInt64), addresses[index]? = some address →
    address.toNat = layout.dataAddress.toNat + ((contents.take index).map List.length).sum
  /-- The data is all symbols, one after the other. -/
  data : assembly.data = contents.flatten
  /-- A symbol is the part of the data at its address. -/
  symbol : ∀ (index : Nat) (address : UInt64) (bytes : Bytes), addresses[index]? = some address →
    contents[index]? = some bytes →
    (assembly.data.drop (address.toNat - layout.dataAddress.toNat)).take bytes.length = bytes
  /-- The code is that of all operations, each with all addresses. -/
  code : ∃ codes, slots.mapM (Slot.encode? (SymbolTable.address? addresses)) = .ok codes
    ∧ assembly.code = codes.flatten
  codeAt : assembly.codeAt.IsAt layout.codeOffset layout.codeAddress assembly.code.length
  dataAt : assembly.dataAt.IsAt layout.dataOffset layout.dataAddress assembly.data.length
  /-- In the file the code ends before the data. -/
  codeInFile : layout.codeOffset.toNat + assembly.code.length ≤ layout.dataOffset.toNat
  /-- In memory the code ends before the data. -/
  codeInMemory : layout.codeAddress.toNat + assembly.code.length ≤ layout.dataAddress.toNat
  /-- The data ends below the last address. -/
  dataInMemory : layout.dataAddress.toNat + assembly.data.length ≤ 2 ^ 64 - 1

/-- Symbols that all have bytes are a list of byte strings. -/
theorem eq_map_some_of_declared {symbols : List (Option Bytes)}
    (declared : ∀ symbol ∈ symbols, symbol ≠ none) :
    symbols = (symbols.map (·.getD [])).map some := by
  rw [List.map_map]
  refine (List.map_id symbols).symm.trans (List.map_congr_left fun symbol member => ?_)
  obtain ⟨bytes, rfl⟩ := Option.ne_none_iff_exists'.mp (declared symbol member)
  rfl

theorem symbolOffset_le (symbols : List (Option Bytes)) (index : Nat) :
    symbolOffset symbols index ≤ (symbolContent symbols).length := by
  rw [symbolOffset_eq]
  calc (symbolContent (symbols.take index)).length
      ≤ (symbolContent (symbols.take index ++ symbols.drop index)).length := by
        rw [symbolContent_append, List.length_append]
        exact Nat.le_add_right _ _
    _ = _ := by rw [List.take_append_drop]

section Built

variable {layout : Layout} {program : Program} {assembly : Assembly}

/-- **The code fits before the data**, in the file and in memory. -/
theorem Built.code_fits (built : Built layout program assembly) :
    layout.codeOffset.toNat + assembly.code.length ≤ layout.dataOffset.toNat
      ∧ layout.codeAddress.toNat + assembly.code.length ≤ layout.dataAddress.toNat :=
  ((layout.check_eq_ok_iff.mp built.accepted).le_codeCapacity_iff _).mp built.fits

/-- Code that fits is not too long for a word. -/
theorem Built.toNat_codeSize (built : Built layout program assembly) :
    assembly.codeAt.memorySize.toNat = assembly.code.length := by
  rw [built.codeAt]
  exact UInt64.toNat_ofNat_of_lt' (built.fits.trans_lt layout.codeCapacity.toNat_lt)

theorem Built.toNat_dataSize (built : Built layout program assembly)
    (small : assembly.data.length < 2 ^ 63) :
    assembly.dataAt.memorySize.toNat = assembly.data.length := by
  rw [built.dataAt]
  exact UInt64.toNat_ofNat_of_lt' (small.trans (by decide))

theorem Built.toNat_memorySize (built : Built layout program assembly) (sized : assembly.Sized) :
    assembly.codeAt.memorySize.toNat = assembly.code.length
      ∧ assembly.dataAt.memorySize.toNat = assembly.data.length :=
  ⟨built.toNat_codeSize, built.toNat_dataSize sized.2⟩

/-- **The address of a symbol in numbers**: no sum of words has wrapped. -/
theorem Built.toNat_address (built : Built layout program assembly)
    (small : assembly.data.length < 2 ^ 63) {index : Nat} {address : UInt64}
    (found : (program.addressTable layout.dataAddress)[index]? = some address) :
    address.toNat = layout.dataAddress.toNat + symbolOffset program.symbols index := by
  have inMemory := built.inMemory small
  have inside := symbolOffset_le program.symbols index
  rw [← built.data] at inside
  rw [Program.addressTable, List.getElem?_map] at found
  obtain ⟨place, listed, rfl⟩ := Option.map_eq_some_iff.mp found
  obtain ⟨within, same⟩ := List.getElem?_eq_some_iff.mp listed
  rw [List.getElem_range] at same
  have below : layout.dataAddress.toNat + symbolOffset program.symbols index < 2 ^ 64 := by omega
  rw [← same]
  exact UInt64.toNat_ofNat_of_lt' below

end Built

/-- **A build obeys the layout law.** -/
theorem laidOut_of_build {verbose : Bool} {builder : Builder} {program : Program}
    {assembly : Assembly}
    (builds : (builder.build verbose (some program)).1.result = .ok assembly)
    (small : (symbolContent program.symbols).length < 2 ^ 63) :
    ∃ contents, program.symbols = contents.map some
      ∧ LaidOut builder.layout contents program.slots
        (builder.build verbose (some program)).2.addresses assembly := by
  have built := built_of_build builds
  rw [← built.data] at small
  obtain ⟨codeInFile, codeInMemory⟩ := built.code_fits
  have codeMemory := built.toNat_codeSize
  have dataMemory := built.toNat_dataSize small
  have offset (index : Nat) : symbolOffset program.symbols index
      = (((program.symbols.map (·.getD [])).take index).map List.length).sum := by
    rw [← List.map_take, List.map_map]
    rfl
  have declared := eq_map_some_of_declared built.declared
  refine ⟨program.symbols.map (·.getD []), declared, ?_⟩
  rw [addresses_of_build builds]
  refine ⟨?_, ?_, built.data, ?_, ?_, ?_, ?_, codeInFile, codeInMemory, built.inMemory small⟩
  · rw [Program.addressTable, List.length_map, List.length_map, List.length_range]
  · intro index address found
    rw [built.toNat_address small found, offset]
  · intro index address bytes found listed
    have symbol : program.symbols[index]? = some (some bytes) := by
      rw [declared, List.getElem?_map, listed]
      rfl
    obtain ⟨before, behind, content, length⟩ := symbolContent_at symbol
    rw [built.toNat_address small found, Nat.add_sub_cancel_left, built.data, content, ← length,
      List.append_assoc, List.drop_left, List.take_left]
  · obtain ⟨codes, encoded, same⟩ := except_map_eq_ok.mp built.code
    rw [program.address?_addressTable]
    exact ⟨codes, encoded, same.symm⟩
  · rw [built.codeAt] at codeMemory ⊢
    exact ⟨rfl, rfl, rfl, codeMemory⟩
  · rw [built.dataAt] at dataMemory ⊢
    exact ⟨rfl, rfl, rfl, dataMemory⟩

/-- Three symbols, one of them without bytes, and 20 bytes of code that refer to the last. -/
def packed : Program where
  symbols := [some [0x68], some [], some [0x69, 0x21]]
  slots := [.op (.loadImm .si .byte 0x2ff), .op (.loadSymbol ⟨9⟩ ⟨2⟩), .op (.syscall .write)]

/-- A layout in which that code just fits and the data ends at the last address. -/
def tight : Layout where
  codeOffset := 0xb0
  codeAddress := 0xffffffffffffffe8
  dataOffset := 0xc4
  dataAddress := 0xfffffffffffffffc
  align := 1

/-- What the program is built to in that layout. -/
def tightlyPacked : Assembly where
  code := [0x40, 0xb6, 0xff,
    0x49, 0xb9, 0xfd, 0xff, 0xff, 0xff, 0xff, 0xff, 0xff, 0xff,
    0xb8, 1, 0, 0, 0, 0x0f, 0x05]
  data := [0x68, 0x69, 0x21]
  codeAt := {
    offset := 0xb0, virtualAddress := 0xffffffffffffffe8, physicalAddress := 0xffffffffffffffe8
    memorySize := 20 }
  dataAt := {
    offset := 0xc4, virtualAddress := 0xfffffffffffffffc, physicalAddress := 0xfffffffffffffffc
    memorySize := 3 }

theorem laidOut_of_build_tight :
    (({ layout := tight } : Builder).build false (some packed)).1.result = .ok tightlyPacked
      ∧ (symbolContent packed.symbols).length < 2 ^ 63
      ∧ LaidOut tight [[0x68], [], [0x69, 0x21]] packed.slots
        [0xfffffffffffffffc, 0xfffffffffffffffd, 0xfffffffffffffffd] tightlyPacked := by
  have builds :
      (({ layout := tight } : Builder).build false (some packed)).1.result = .ok tightlyPacked := rfl
  have small : (symbolContent packed.symbols).length < 2 ^ 63 := by decide
  obtain ⟨contents, symbols, law⟩ := laidOut_of_build builds small
  have same : [[0x68], [], [0x69, 0x21]] = contents :=
    (List.map_inj_right fun _ _ => Option.some.inj).mp symbols
  rw [← same] at law
  exact ⟨builds, small, law⟩

end Builder

/-! ### What an executable can hold of it -/

namespace Elf

/-- A segment that ends in memory and is as long there as in the file. -/
def Segment.InMemory (segment : Segment) : Prop :=
  segment.place.memorySize.toNat = segment.payload.length
    ∧ segment.place.virtualAddress.toNat + segment.payload.length ≤ 2 ^ 64 - 1

/-- What is asked of such a segment concerns the file and the step of the pages. -/
theorem Segment.InMemory.admissible_iff {segment : Segment} (inMemory : segment.InMemory) :
    segment.Admissible
      ↔ 176 ≤ segment.place.offset.toNat
        ∧ segment.place.offset.toNat + segment.payload.length ≤ 2 ^ 63 - 1
        ∧ segment.place.offset.toNat % 4096 = segment.place.virtualAddress.toNat % 4096 := by
  obtain ⟨size, ends⟩ := inMemory
  constructor
  · rintro ⟨behindHeaders, endsInFile, -, -, inStep⟩
    exact ⟨behindHeaders, endsInFile, inStep⟩
  · rintro ⟨behindHeaders, endsInFile, inStep⟩
    exact ⟨behindHeaders, endsInFile, by omega, size.ge, inStep⟩

/-- A failure that says where in the file a segment must not be. -/
def AssemblyError.IsOfFilePlace (error : AssemblyError) (segment : Segment) : Prop :=
  error = .inHeaders segment.name segment.place.offset
    ∨ error = .fileEndTooHigh segment.name segment.fileSize segment.place.offset
    ∨ error = .outOfStep segment.name segment.place.offset segment.place.virtualAddress

/-- **Why such a segment is refused**: never for its end or its size in memory. -/
theorem Segment.InMemory.check_eq_error {segment : Segment} (inMemory : segment.InMemory)
    (small : segment.payload.length < 2 ^ 63) {error : AssemblyError}
    (refused : segment.check = .error error) : error.IsOfFilePlace segment := by
  obtain ⟨size, ends⟩ := inMemory
  have refuses := (Segment.settles_check small).eq_error_iff.mp refused
  rcases Demand.refuses_cons.mp refuses with ⟨-, same⟩ | ⟨-, rest⟩
  · exact .inl same.symm
  rcases Demand.refuses_cons.mp rest with ⟨-, same⟩ | ⟨-, rest⟩
  · exact .inr (.inl same.symm)
  rcases Demand.refuses_cons.mp rest with ⟨high, -⟩ | ⟨-, rest⟩
  · rw [← size] at ends
    exact absurd ends high
  rcases Demand.refuses_cons.mp rest with ⟨larger, -⟩ | ⟨-, rest⟩
  · exact absurd size.ge larger
  · exact .inr (.inr (Demand.refuses_singleton.mp rest).2.symm)

end Elf

namespace Builder

section Built

variable {layout : Layout} {program : Program} {assembly : Assembly}

theorem Built.inMemory_code (built : Built layout program assembly) :
    (Elf.codeSegment assembly).InMemory := by
  refine ⟨built.toNat_codeSize, ?_⟩
  have ends := built.code_fits.2
  have last := layout.dataAddress.toNat_lt
  show assembly.codeAt.virtualAddress.toNat + assembly.code.length ≤ 2 ^ 64 - 1
  rw [built.codeAt]
  dsimp only
  omega

theorem Built.inMemory_data (built : Built layout program assembly)
    (small : assembly.data.length < 2 ^ 63) : (Elf.dataSegment assembly).InMemory := by
  refine ⟨built.toNat_dataSize small, ?_⟩
  show assembly.dataAt.virtualAddress.toNat + assembly.data.length ≤ 2 ^ 64 - 1
  rw [built.dataAt]
  exact built.inMemory small

/-- What is built keeps code and data apart, in the file and in memory. -/
theorem Built.rangesApart (built : Built layout program assembly) :
    Elf.RangesApart assembly.codeAt.offset.toNat assembly.code.length
        assembly.dataAt.offset.toNat assembly.data.length
      ∧ Elf.RangesApart assembly.codeAt.virtualAddress.toNat assembly.codeAt.memorySize.toNat
        assembly.dataAt.virtualAddress.toNat assembly.dataAt.memorySize.toNat := by
  obtain ⟨inFile, inMemory⟩ := built.code_fits
  rw [built.toNat_codeSize, built.codeAt, built.dataAt]
  exact ⟨.inr (.inr (.inl inFile)), .inr (.inr (.inl inMemory))⟩

/-- **What an executable asks of a built assembly** beyond what the builder sees to. -/
theorem Built.admissible_iff (built : Built layout program assembly) (sized : assembly.Sized) :
    Elf.Admissible assembly
      ↔ 0xb0 ≤ layout.codeOffset.toNat
        ∧ layout.codeOffset.toNat % 0x1000 = layout.codeAddress.toNat % 0x1000
        ∧ layout.dataOffset.toNat % 0x1000 = layout.dataAddress.toNat % 0x1000
        ∧ layout.dataOffset.toNat + assembly.data.length ≤ 2 ^ 63 - 1 := by
  have accepted := layout.check_eq_ok_iff.mp built.accepted
  have dataBehind := accepted.inFile
  obtain ⟨codeInFile, -⟩ := built.code_fits
  obtain ⟨filesApart, addressesApart⟩ := built.rangesApart
  have code : (Elf.codeSegment assembly).Admissible
      ↔ 176 ≤ layout.codeOffset.toNat
        ∧ layout.codeOffset.toNat + assembly.code.length ≤ 2 ^ 63 - 1
        ∧ layout.codeOffset.toNat % 4096 = layout.codeAddress.toNat % 4096 := by
    rw [built.inMemory_code.admissible_iff]
    simp only [Elf.codeSegment, built.codeAt]
  have data : (Elf.dataSegment assembly).Admissible
      ↔ 176 ≤ layout.dataOffset.toNat
        ∧ layout.dataOffset.toNat + assembly.data.length ≤ 2 ^ 63 - 1
        ∧ layout.dataOffset.toNat % 4096 = layout.dataAddress.toNat % 4096 := by
    rw [(built.inMemory_data sized.2).admissible_iff]
    simp only [Elf.dataSegment, built.dataAt]
  constructor
  · intro admissible
    obtain ⟨behindHeaders, -, codeInStep⟩ := code.mp admissible.code
    obtain ⟨-, endsInFile, dataInStep⟩ := data.mp admissible.data
    exact ⟨behindHeaders, codeInStep, dataInStep, endsInFile⟩
  · rintro ⟨behindHeaders, codeInStep, dataInStep, endsInFile⟩
    exact ⟨code.mpr ⟨behindHeaders, by omega, codeInStep⟩,
      data.mpr ⟨by omega, endsInFile, dataInStep⟩, filesApart, addressesApart⟩

end Built

end Builder

namespace Elf

/-- **What a builder makes and an executable can hold.** A built assembly is accepted exactly when
its code lies behind the headers, both segments lie in the file as in their pages, and the data ends
within the range of file offsets. A layout that is aligned to pages sees to all but the last. Nothing
that is built is refused for its size or its end in memory or because code and data overlap. -/
theorem check_built_iff {verbose : Bool} {builder : Builder} {program : Program}
    {assembly : Assembly}
    (builds : (builder.build verbose (some program)).1.result = .ok assembly)
    (sized : assembly.Sized) :
    let layout := builder.layout
    (check assembly = .ok ()
        ↔ 0xb0 ≤ layout.codeOffset.toNat
          ∧ layout.codeOffset.toNat % 0x1000 = layout.codeAddress.toNat % 0x1000
          ∧ layout.dataOffset.toNat % 0x1000 = layout.dataAddress.toNat % 0x1000
          ∧ layout.dataOffset.toNat + assembly.data.length ≤ 2 ^ 63 - 1)
      ∧ (0x1000 ∣ layout.align.toNat →
          layout.dataOffset.toNat + assembly.data.length ≤ 2 ^ 63 - 1 → check assembly = .ok ())
      ∧ ∀ error, check assembly = .error error →
          ∃ segment ∈ segments assembly, error.IsOfFilePlace segment := by
  intro layout
  have built : Builder.Built layout program assembly := Builder.built_of_build builds
  have accepts := (check_eq_ok_iff sized).trans (built.admissible_iff sized)
  refine ⟨accepts, fun paged endsInFile => ?_, fun error refused => ?_⟩
  · have accepted := layout.check_eq_ok_iff.mp built.accepted
    obtain ⟨codeOffset, codeAddress, dataOffset, dataAddress⟩ := accepted.mod_page paged
    have behindStart := accepted.behindStart
    exact accepts.mpr ⟨by omega, by omega, by omega, endsInFile⟩
  · rw [check_eq] at refused
    rcases except_bind_eq_error.mp refused with segment | ⟨_, each, -⟩
    · obtain ⟨segment, member, failed⟩ := except_forM_eq_error segment
      have inMemory : segment.InMemory ∧ segment.payload.length < 2 ^ 63 := by
        have which : segment = codeSegment assembly ∨ segment = dataSegment assembly := by
          simpa [segments] using member
        rcases which with rfl | rfl
        · exact ⟨built.inMemory_code, sized.1⟩
        · exact ⟨built.inMemory_data sized.2, sized.2⟩
      exact ⟨segment, member, inMemory.1.check_eq_error inMemory.2 failed⟩
    · -- Segments that are accepted one by one are apart, so the assembly is accepted.
      obtain ⟨code, data⟩ := (forM_segments_eq_ok_iff assembly).mp each
      obtain ⟨filesApart, addressesApart⟩ := built.rangesApart
      have admissible : Admissible assembly :=
        ⟨(Segment.check_eq_ok_iff sized.1).mp code, (Segment.check_eq_ok_iff sized.2).mp data,
          filesApart, addressesApart⟩
      have accepted := (check_eq_ok_iff sized).mpr admissible
      rw [← check_eq, accepted] at refused
      cases refused

/-- A layout with both segments in one page of the file and of memory. -/
def sharedPage : Layout where
  codeOffset := 0xb0
  codeAddress := 0x4000b0
  dataOffset := 0xd0
  dataAddress := 0x4000d0
  align := 0x10

/-- What the program `packed` is built to in that layout. -/
def packedInPage : Assembly where
  code := [0x40, 0xb6, 0xff,
    0x49, 0xb9, 0xd1, 0x00, 0x40, 0, 0, 0, 0, 0,
    0xb8, 1, 0, 0, 0, 0x0f, 0x05]
  data := [0x68, 0x69, 0x21]
  codeAt := {
    offset := 0xb0, virtualAddress := 0x4000b0, physicalAddress := 0x4000b0, memorySize := 20 }
  dataAt := {
    offset := 0xd0, virtualAddress := 0x4000d0, physicalAddress := 0x4000d0, memorySize := 3 }

theorem check_built_iff_sharedPage :
    (({ layout := sharedPage } : Builder).build false (some Builder.packed)).1.result
        = .ok packedInPage
      ∧ packedInPage.Sized ∧ ¬ 0x1000 ∣ sharedPage.align.toNat ∧ check packedInPage = .ok () := by
  have builds : (({ layout := sharedPage } : Builder).build false (some Builder.packed)).1.result
      = .ok packedInPage := rfl
  have sized : packedInPage.Sized := by decide
  exact ⟨builds, sized, by decide, (check_built_iff builds sized).1.mpr (by decide)⟩

end Elf

end StaticElf
