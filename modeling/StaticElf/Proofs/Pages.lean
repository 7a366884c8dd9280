/-
**Segments and the pages that they touch.**

An executable is checked byte by byte: code and data share no address. An operating system maps whole
pages, and where both segments touch one page only the segment that is mapped last has it. So the
check does not say whether the code can be run; where the pages lie does.

* `Segment.Touches`, `PagesApart` — the pages of a segment, and segments without a common page.
* `pagesApart_iff` — they have none exactly when one ends in a page before the first of the other.
* `FileOf.pagedMemory_data` — the data is always where it should be.
* `FileOf.pagedMemory_code_iff` — the code is, and can be run, exactly when no page is shared.
* `pagesApart_iff_intact` — all of this for what is emitted, and the layouts for which it holds.
* `shared_page_accepted` — a layout, a program and its assembly that pass all checks and share a page.
-/

import StaticElf.Proofs.Loading
import StaticElf.Proofs.Placing

namespace StaticElf

open Machine

namespace Elf

/-! ### Pages of segments -/

/-- The page in which a segment begins. -/
def Segment.firstPage (segment : Segment) : Nat := segment.place.virtualAddress.toNat / pageBytes

/-- The page in which the last address of a segment lies. -/
def Segment.lastPage (segment : Segment) : Nat :=
  (segment.place.virtualAddress.toNat + segment.place.memorySize.toNat - 1) / pageBytes

/-- **A page that a segment touches**: an address of the segment lies in it. -/
def Segment.Touches (segment : Segment) (page : Nat) : Prop :=
  ∃ address, segment.place.virtualAddress.toNat ≤ address
    ∧ address < segment.place.virtualAddress.toNat + segment.place.memorySize.toNat
    ∧ address / pageBytes = page

/-- **Segments apart by pages**: no page is touched by code and data. -/
def PagesApart (assembly : Assembly) : Prop :=
  ∀ page, ¬ ((codeSegment assembly).Touches page ∧ (dataSegment assembly).Touches page)

theorem Segment.memorySize_pos (segment : Segment) (notEmpty : segment.place.memorySize ≠ 0) :
    0 < segment.place.memorySize.toNat :=
  Nat.pos_of_ne_zero fun zero => notEmpty (UInt64.toNat_inj.mp zero)

/-- A segment with addresses touches the pages from its first to its last. -/
theorem Segment.touches_iff (segment : Segment) (notEmpty : segment.place.memorySize ≠ 0)
    (page : Nat) : segment.Touches page ↔ segment.firstPage ≤ page ∧ page ≤ segment.lastPage := by
  have positive := segment.memorySize_pos notEmpty
  have size : pageBytes = 4096 := rfl
  unfold Touches firstPage lastPage
  rw [size]
  constructor
  · rintro ⟨address, above, below, rfl⟩
    exact ⟨Nat.div_le_div_right above, Nat.div_le_div_right (by omega)⟩
  · rintro ⟨above, below⟩
    -- The first address of the segment that is not before the page
    refine ⟨max segment.place.virtualAddress.toNat (page * 4096), Nat.le_max_left _ _, ?_, ?_⟩
    · omega
    · omega

/-- **When no page is shared**: one segment ends in a page before the first of the other. -/
theorem pagesApart_iff {assembly : Assembly} (someCode : assembly.codeAt.memorySize ≠ 0)
    (someData : assembly.dataAt.memorySize ≠ 0) :
    PagesApart assembly
      ↔ (codeSegment assembly).lastPage < (dataSegment assembly).firstPage
        ∨ (dataSegment assembly).lastPage < (codeSegment assembly).firstPage := by
  have ordered (segment : Segment) (notEmpty : segment.place.memorySize ≠ 0) :
      segment.firstPage ≤ segment.lastPage := by
    have positive := segment.memorySize_pos notEmpty
    exact Nat.div_le_div_right (by omega)
  have code := ordered (codeSegment assembly) someCode
  have data := ordered (dataSegment assembly) someData
  unfold PagesApart
  simp only [(codeSegment assembly).touches_iff someCode,
    (dataSegment assembly).touches_iff someData]
  constructor
  · intro apart
    -- The later of the two first pages is not a page of both
    have later := apart (max (codeSegment assembly).firstPage (dataSegment assembly).firstPage)
    omega
  · intro apart page
    omega

/-- Segments that share no address and begin at pages share no page. -/
theorem Admissible.pagesApart {assembly : Assembly} (admissible : Admissible assembly)
    (code : assembly.codeAt.virtualAddress.toNat % 4096 = 0)
    (data : assembly.dataAt.virtualAddress.toNat % 4096 = 0) : PagesApart assembly := by
  rintro page ⟨⟨first, codeFrom, codeTo, inPage⟩, ⟨second, dataFrom, dataTo, inSamePage⟩⟩
  have apart := admissible.addressesApart
  have size : pageBytes = 4096 := rfl
  unfold RangesApart at apart
  rw [size] at inPage inSamePage
  simp only [codeSegment, dataSegment] at codeFrom codeTo dataFrom dataTo
  omega

end Elf

namespace Machine

open Elf

/-! ### Segments that are mapped by pages -/

section Cells

variable {file : ByteFile} {segment : Segment} {address : Nat}

/-- A segment by whole pages: bytes of the file around it, zeros behind it, all with its
permissions. -/
theorem pagedCell_progHeader (file : ByteFile) (segment : Segment) (address : Nat) :
    pagedCell file segment.progHeader address =
      let start := segment.place.virtualAddress.toNat
      if segment.place.memorySize = 0 || address < start / pageBytes * pageBytes
          || (start + segment.place.memorySize.toNat + pageBytes - 1) / pageBytes * pageBytes
            ≤ address then none
      else if segment.fileSize < segment.place.memorySize
          && start + segment.fileSize.toNat ≤ address then some ⟨0, segment.permissions⟩
      else some ⟨file.byteAt (segment.place.offset.toNat + address - start),
        segment.permissions⟩ := rfl

/-- **What is mapped of a segment** are the pages that it touches. -/
theorem pagedCell_guard (segment : Segment) (address : Nat)
    (notEmpty : segment.place.memorySize ≠ 0) :
    (segment.place.memorySize = 0
        || address < segment.place.virtualAddress.toNat / pageBytes * pageBytes
        || (segment.place.virtualAddress.toNat + segment.place.memorySize.toNat + pageBytes - 1)
            / pageBytes * pageBytes ≤ address) = false
      ↔ segment.Touches (address / pageBytes) := by
  have positive := segment.memorySize_pos notEmpty
  have size : pageBytes = 4096 := rfl
  rw [segment.touches_iff notEmpty]
  unfold Segment.firstPage Segment.lastPage
  rw [size]
  simp only [notEmpty, decide_false, Bool.false_or, Bool.or_eq_false_iff, decide_eq_false_iff_not]
  omega

theorem pagedCell_eq_none (file : ByteFile) (segment : Segment)
    (notEmpty : segment.place.memorySize ≠ 0)
    (outside : ¬ segment.Touches (address / pageBytes)) :
    pagedCell file segment.progHeader address = none := by
  rw [pagedCell_progHeader]
  dsimp only
  rw [if_pos]
  rw [← pagedCell_guard segment address notEmpty, Bool.not_eq_false] at outside
  exact outside

/-- A page that a segment touches is mapped with its permissions. -/
theorem exists_pagedCell (file : ByteFile) (segment : Segment)
    (notEmpty : segment.place.memorySize ≠ 0)
    (inside : segment.Touches (address / pageBytes)) :
    ∃ byte, pagedCell file segment.progHeader address
      = some ⟨byte, segment.permissions⟩ := by
  rw [pagedCell_progHeader]
  dsimp only
  rw [(pagedCell_guard segment address notEmpty).mpr inside, if_neg Bool.false_ne_true]
  split
  · exact ⟨_, rfl⟩
  · exact ⟨_, rfl⟩

/-- **A segment is where it should be** in the pages that are mapped for it: its payload, and zeros
up to its end. -/
theorem pagedCell_inside (admissible : segment.Admissible)
    (held : ∀ place, segment.Covers place → file.byteAt place = segment.byteAt place)
    {i : Nat} (inside : i < segment.place.memorySize.toNat) :
    pagedCell file segment.progHeader (segment.place.virtualAddress.toNat + i)
      = some ⟨segment.payload.getD i 0, segment.permissions⟩ := by
  have notEmpty : segment.place.memorySize ≠ 0 := by
    rintro zero
    rw [zero] at inside
    exact Nat.not_lt_zero i inside
  have touched :
      segment.Touches ((segment.place.virtualAddress.toNat + i) / pageBytes) :=
    ⟨segment.place.virtualAddress.toNat + i, Nat.le_add_right _ _, by omega, rfl⟩
  have size : segment.fileSize.toNat = segment.payload.length :=
    Segment.toNat_fileSize (by have := admissible.endsInFile; omega)
  rw [pagedCell_progHeader]
  dsimp only
  rw [(pagedCell_guard segment _ notEmpty).mpr touched, if_neg Bool.false_ne_true]
  by_cases inFile : i < segment.payload.length
  · have notBehind : ¬ (segment.fileSize < segment.place.memorySize
        && segment.place.virtualAddress.toNat + segment.fileSize.toNat
          ≤ segment.place.virtualAddress.toNat + i) = true := by
      simp only [Bool.and_eq_true, decide_eq_true_eq]
      omega
    have place : segment.place.offset.toNat + (segment.place.virtualAddress.toNat + i)
        - segment.place.virtualAddress.toNat = segment.place.offset.toNat + i := by omega
    rw [if_neg notBehind, place,
      held _ ⟨Nat.le_add_right _ _, Nat.add_lt_add_left inFile _⟩, Segment.byteAt,
      Nat.add_sub_cancel_left]
  · have behind : (segment.fileSize < segment.place.memorySize
        && segment.place.virtualAddress.toNat + segment.fileSize.toNat
          ≤ segment.place.virtualAddress.toNat + i) = true := by
      simp only [Bool.and_eq_true, decide_eq_true_eq, UInt64.lt_iff_toNat_lt]
      omega
    rw [if_pos behind, List.getD_eq_getElem?_getD, List.getElem?_eq_none (by omega)]
    rfl

end Cells

end Machine

namespace Elf

/-! ### Code and data that are mapped by pages -/

section Memory

variable {assembly : Assembly} {file : ByteFile}

theorem pagedMemory_imageOf (assembly : Assembly) (file : ByteFile) (address : Nat) :
    pagedMemory (imageOf assembly file) address
      = (pagedCell file (dataSegment assembly).progHeader address).or
          (pagedCell file (codeSegment assembly).progHeader address) :=
  findSome?_segments assembly (pagedCell file · address)

/-- **The data is always in place**, with its permission. -/
theorem FileOf.pagedMemory_data (fileOf : FileOf assembly file) (admissible : Admissible assembly)
    {i : Nat} (inside : i < assembly.dataAt.memorySize.toNat) :
    pagedMemory (imageOf assembly file) (assembly.dataAt.virtualAddress.toNat + i)
      = some ⟨assembly.data.getD i 0, .read⟩ := by
  have data : pagedCell file (dataSegment assembly).progHeader
      (assembly.dataAt.virtualAddress.toNat + i) = some ⟨assembly.data.getD i 0, .read⟩ :=
    pagedCell_inside admissible.data fileOf.data inside
  rw [pagedMemory_imageOf, data, Option.some_or]

/-- **The code is in place and can be run exactly when it shares no page with the data.** -/
theorem FileOf.pagedMemory_code_iff (fileOf : FileOf assembly file)
    (admissible : Admissible assembly) (someData : assembly.dataAt.memorySize ≠ 0) :
    (∀ i < assembly.codeAt.memorySize.toNat,
        pagedMemory (imageOf assembly file) (assembly.codeAt.virtualAddress.toNat + i)
          = some ⟨assembly.code.getD i 0, Permissions.read.join .execute⟩)
      ↔ PagesApart assembly := by
  constructor
  · rintro intact page ⟨⟨address, above, below, rfl⟩, touched⟩
    -- A byte of the code in a page of the data has the permission of the data
    obtain ⟨i, rfl⟩ := Nat.exists_eq_add_of_le above
    obtain ⟨byte, mapped⟩ := exists_pagedCell file (dataSegment assembly) someData touched
    have here := intact i (Nat.lt_of_add_lt_add_left below)
    rw [pagedMemory_imageOf] at here
    rw [show pagedCell file (dataSegment assembly).progHeader
      (assembly.codeAt.virtualAddress.toNat + i) = some ⟨byte, .read⟩ from mapped,
      Option.some_or] at here
    have permissions : Permissions.read = Permissions.read.join .execute :=
      congrArg Cell.permissions (Option.some.inj here)
    exact absurd permissions (by decide)
  · intro apart i inside
    have touched : (codeSegment assembly).Touches
        ((assembly.codeAt.virtualAddress.toNat + i) / pageBytes) :=
      ⟨assembly.codeAt.virtualAddress.toNat + i, Nat.le_add_right _ _,
        Nat.add_lt_add_left inside _, rfl⟩
    have notData := pagedCell_eq_none file (dataSegment assembly) someData
      fun shared => apart _ ⟨touched, shared⟩
    rw [pagedMemory_imageOf, notData, Option.none_or]
    exact pagedCell_inside admissible.code fileOf.code inside

end Memory

end Elf

/-! ### What is built and emitted -/

/-- What is built in a layout that is aligned to pages shares no page. -/
theorem Builder.Built.pagesApart {layout : Layout} {program : Program} {assembly : Assembly}
    (built : Builder.Built layout program assembly) (admissible : Elf.Admissible assembly)
    (paged : 0x1000 ∣ layout.align.toNat) : Elf.PagesApart assembly := by
  obtain ⟨-, code, -, data⟩ := (layout.check_eq_ok_iff.mp built.accepted).mod_page paged
  refine admissible.pagesApart ?_ ?_
  · rw [built.codeAt]
    exact code
  · rw [built.dataAt]
    exact data

namespace Elf

/-- **Where the pages of an executable lie.** An accepted assembly with code and data is emitted and
mapped by whole pages. Code and data share no page exactly when one of them ends in a page before the
first of the other, and exactly when every byte of the code is in place and can be read and run. Every
byte of the data is in place and can be read in any case. What is built in a layout that is aligned to
pages shares no page; in other layouts it may. -/
theorem pagesApart_iff_intact (verbose : Bool) (before : OpenFile) {assembly : Assembly}
    (accepted : check assembly = .ok ()) (sized : assembly.Sized)
    (someCode : assembly.codeAt.memorySize ≠ 0) (someData : assembly.dataAt.memorySize ≠ 0) :
    let file := ((emit verbose (some OpenFile.output) (some assembly)).run before).2.file
    ∃ image, Image.ofFile? file = some image
      ∧ (PagesApart assembly
        ↔ (codeSegment assembly).lastPage < (dataSegment assembly).firstPage
          ∨ (dataSegment assembly).lastPage < (codeSegment assembly).firstPage)
      ∧ (PagesApart assembly
        ↔ ∀ i < assembly.codeAt.memorySize.toNat,
          pagedMemory image (assembly.codeAt.virtualAddress.toNat + i)
            = some ⟨assembly.code.getD i 0, Permissions.read.join .execute⟩)
      ∧ (∀ i < assembly.dataAt.memorySize.toNat,
          pagedMemory image (assembly.dataAt.virtualAddress.toNat + i)
            = some ⟨assembly.data.getD i 0, .read⟩)
      ∧ ∀ (chatty : Bool) (builder : Builder) (program : Program),
          (builder.build chatty (some program)).1.result = .ok assembly →
          0x1000 ∣ builder.layout.align.toNat → PagesApart assembly := by
  intro file
  have admissible := (check_eq_ok_iff sized).mp accepted
  have fileOf : FileOf assembly file := (emit_openFile verbose accepted sized before).2
  refine ⟨imageOf assembly file, fileOf.ofFile?, pagesApart_iff someCode someData,
    (fileOf.pagedMemory_code_iff admissible someData).symm, ?_, ?_⟩
  · exact fun i inside => fileOf.pagedMemory_data admissible inside
  · exact fun chatty builder program builds paged =>
      (Builder.built_of_build builds).pagesApart admissible paged

theorem pagesApart_iff_intact_dataFirst :
    check dataFirst = .ok () ∧ dataFirst.Sized ∧ PagesApart dataFirst
      ∧ ∃ image, Image.ofFile?
            ((emit false (some OpenFile.output) (some dataFirst)).run {}).2.file = some image
        ∧ pagedMemory image 0x4000c1 = some ⟨0x05, Permissions.read.join .execute⟩
        ∧ pagedMemory image 0x6000b3 = some ⟨0, .read⟩ := by
  have accepted : check dataFirst = .ok () := rfl
  have sized : dataFirst.Sized := by decide
  obtain ⟨image, found, separate, intact, data, -⟩ :=
    pagesApart_iff_intact false {} accepted sized (by decide) (by decide)
  have apart : PagesApart dataFirst := separate.mpr (by decide)
  exact ⟨accepted, sized, apart, image, found, intact.mp apart 1 (by decide), data 3 (by decide)⟩

/-- A layout with the data in another page of the file than the code, and in the same page of
memory. -/
def crowded : Layout where
  codeOffset := 0x1000
  codeAddress := 0x401000
  dataOffset := 0x2020
  dataAddress := 0x401020
  align := 0x20

/-- What the program `Builder.packed` is built to in that layout. -/
def packedCrowded : Assembly where
  code := [0x40, 0xb6, 0xff,
    0x49, 0xb9, 0x21, 0x10, 0x40, 0, 0, 0, 0, 0,
    0xb8, 1, 0, 0, 0, 0x0f, 0x05]
  data := [0x68, 0x69, 0x21]
  codeAt := {
    offset := 0x1000, virtualAddress := 0x401000, physicalAddress := 0x401000, memorySize := 20 }
  dataAt := {
    offset := 0x2020, virtualAddress := 0x401020, physicalAddress := 0x401020, memorySize := 3 }

/-- **Passing all checks does not keep pages apart.** The layout is accepted, the program is built in
it and the assembly is accepted; but both segments touch one page, and when it is mapped the first
byte of the code is gone and nothing can be run at the entry. -/
theorem shared_page_accepted :
    crowded.check = .ok ()
      ∧ (({ layout := crowded } : Builder).build false (some Builder.packed)).1.result
        = .ok packedCrowded
      ∧ check packedCrowded = .ok ()
      ∧ packedCrowded.codeAt.memorySize ≠ 0 ∧ packedCrowded.dataAt.memorySize ≠ 0
      ∧ (codeSegment packedCrowded).Touches 0x401 ∧ (dataSegment packedCrowded).Touches 0x401
      ∧ ∃ image, Image.ofFile?
            ((emit false (some OpenFile.output) (some packedCrowded)).run {}).2.file = some image
        ∧ image.entry = 0x401000 ∧ packedCrowded.code.head? = some 0x40
        ∧ pagedMemory image 0x401000 = some ⟨0, .read⟩
        ∧ (pagedMemory image).runnable? 0x401000 = none := by
  have accepted : check packedCrowded = .ok () := rfl
  have sized : packedCrowded.Sized := by decide
  have admissible := (check_eq_ok_iff sized).mp accepted
  have fileOf := (emit_openFile false accepted sized {}).2
  have first : pagedMemory (imageOf packedCrowded
      ((emit false (some OpenFile.output) (some packedCrowded)).run {}).2.file) 0x401000
      = some ⟨0, .read⟩ := by
    rw [pagedMemory_imageOf, pagedCell_progHeader]
    show (some (Cell.mk (ByteFile.byteAt _ 0x2000) .read)).or _ = _
    rw [fileOf.zero 0x2000 (by decide) (by decide) (by decide)]
    rfl
  refine ⟨rfl, rfl, accepted, by decide, by decide, ⟨0x401000, by decide⟩, ⟨0x401020, by decide⟩,
    imageOf packedCrowded _, fileOf.ofFile?, rfl, rfl, first, ?_⟩
  rw [Memory.runnable?, first]
  rfl

end Elf

end StaticElf
