/-
**What is in memory when an executable is loaded.**

* `Machine.exactCell_payload`, `Machine.exactCell_eq_none` — a loaded segment byte for byte, and
  where it is not.
* `Machine.Memory.HoldsCode` — code that can be run from an address on, and nothing behind it.
* `FileOf.holdsCode` — the code of an assembly in memory, where it is as long as in the file.
* `FileOf.readable?_data` — the data of an assembly in memory.
-/

import StaticElf.Machine.Loader
import StaticElf.Proofs.ReadBack

namespace StaticElf

namespace Machine

open Elf

/-! ### Segments in memory -/

section Cells

variable {file : ByteFile} {segment : Segment} {address : Nat}

/-- A segment in memory: its file bytes, then zeros, all with its permissions. -/
theorem exactCell_progHeader (file : ByteFile) (segment : Segment) (address : Nat) :
    exactCell file segment.progHeader address =
      let start := segment.place.virtualAddress.toNat
      if address < start || start + segment.place.memorySize.toNat ≤ address then none
      else if address < start + segment.fileSize.toNat then
        some ⟨file.byteAt (segment.place.offset.toNat + (address - start)), segment.permissions⟩
      else some ⟨0, segment.permissions⟩ := rfl

theorem exactCell_eq_none (file : ByteFile) (segment : Segment)
    (outside : address < segment.place.virtualAddress.toNat
      ∨ segment.place.virtualAddress.toNat + segment.place.memorySize.toNat ≤ address) :
    exactCell file segment.progHeader address = none := by
  rw [exactCell_progHeader]
  exact if_pos (by simpa using outside)

/-- **A byte of a segment in memory** is the byte of its payload. -/
theorem exactCell_payload (admissible : segment.Admissible)
    (held : ∀ place, segment.Covers place → file.byteAt place = segment.byteAt place)
    {i : Nat} (inside : i < segment.payload.length) :
    exactCell file segment.progHeader (segment.place.virtualAddress.toNat + i)
      = some ⟨segment.payload[i], segment.permissions⟩ := by
  have fits := admissible.fits
  have size : segment.fileSize.toNat = segment.payload.length :=
    Segment.toNat_fileSize (by have := admissible.endsInFile; omega)
  have byte : file.byteAt (segment.place.offset.toNat + i) = segment.payload[i] := by
    rw [held _ ⟨Nat.le_add_right _ _, Nat.add_lt_add_left inside _⟩, Segment.byteAt,
      Nat.add_sub_cancel_left]
    simp [inside]
  rw [exactCell_progHeader]
  dsimp only
  rw [if_neg (by simp only [Bool.or_eq_true, decide_eq_true_eq]; omega), if_pos (by omega),
    Nat.add_sub_cancel_left, byte]

/-- Every byte of a segment has its permissions. -/
theorem permissions_exactCell {cell : Cell}
    (found : exactCell file segment.progHeader address = some cell) :
    cell.permissions = segment.permissions := by
  rw [exactCell_progHeader] at found
  dsimp only at found
  split at found
  · cases found
  · split at found
    · cases found
      rfl
    · cases found
      rfl

end Cells

/-! ### Code in memory -/

/-- **Code that can be run**: its bytes lie in memory from an address on, and behind them there is
nothing to run. -/
def Memory.HoldsCode (memory : Memory) (start : Nat) (code : Bytes) : Prop :=
  ∀ i ≤ code.length, memory.runnable? (start + i) = code[i]?

/-- Where both segments are loaded the data counts, which comes last. -/
theorem findSome?_segments (assembly : Assembly) (cellOf : ProgHeader → Option Cell) :
    [(dataSegment assembly).progHeader, (codeSegment assembly).progHeader].findSome? cellOf
      = (cellOf (dataSegment assembly).progHeader).or
          (cellOf (codeSegment assembly).progHeader) := by
  rw [List.findSome?_cons, List.findSome?_cons, List.findSome?_nil]
  cases cellOf (dataSegment assembly).progHeader with
  | some cell => rfl
  | none => cases cellOf (codeSegment assembly).progHeader <;> rfl

theorem exactMemory_imageOf (assembly : Assembly) (file : ByteFile) (address : Nat) :
    exactMemory (imageOf assembly file) address
      = (exactCell file (dataSegment assembly).progHeader address).or
          (exactCell file (codeSegment assembly).progHeader address) :=
  findSome?_segments assembly (exactCell file · address)

end Machine

namespace Elf

open Machine

section Memory

variable {assembly : Assembly} {file : ByteFile}

theorem FileOf.exactMemory_code (fileOf : FileOf assembly file) (admissible : Admissible assembly)
    {i : Nat} (inside : i < assembly.code.length) :
    exactMemory (imageOf assembly file) (assembly.codeAt.virtualAddress.toNat + i)
      = some ⟨assembly.code[i], Permissions.read.join .execute⟩ := by
  have fits : assembly.code.length ≤ assembly.codeAt.memorySize.toNat := admissible.code.fits
  have apart := admissible.addressesApart
  unfold RangesApart at apart
  have notData : assembly.codeAt.virtualAddress.toNat + i < assembly.dataAt.virtualAddress.toNat
      ∨ assembly.dataAt.virtualAddress.toNat + assembly.dataAt.memorySize.toNat
        ≤ assembly.codeAt.virtualAddress.toNat + i := by omega
  rw [exactMemory_imageOf, exactCell_eq_none file (dataSegment assembly) notData, Option.none_or]
  exact exactCell_payload admissible.code fileOf.code inside

theorem FileOf.exactMemory_data (fileOf : FileOf assembly file) (admissible : Admissible assembly)
    {i : Nat} (inside : i < assembly.data.length) :
    exactMemory (imageOf assembly file) (assembly.dataAt.virtualAddress.toNat + i)
      = some ⟨assembly.data[i], .read⟩ := by
  have data : exactCell file (dataSegment assembly).progHeader
      (assembly.dataAt.virtualAddress.toNat + i) = some ⟨assembly.data[i], .read⟩ :=
    exactCell_payload admissible.data fileOf.data inside
  rw [exactMemory_imageOf, data, Option.some_or]

/-- **The data of an assembly can be read** where it is loaded. -/
theorem FileOf.readable?_data (fileOf : FileOf assembly file) (admissible : Admissible assembly)
    {i : Nat} (inside : i < assembly.data.length) :
    (exactMemory (imageOf assembly file)).readable? (assembly.dataAt.virtualAddress.toNat + i)
      = assembly.data[i]? := by
  rw [Memory.readable?, fileOf.exactMemory_data admissible inside, List.getElem?_eq_getElem inside]
  exact if_pos (show Permissions.read.has .read = true by decide)

/-- **The code of an assembly can be run** where it is loaded. Behind it there is nothing to run
when it is as long in memory as in the file: what may be there is data. -/
theorem FileOf.holdsCode (fileOf : FileOf assembly file) (admissible : Admissible assembly)
    (tight : assembly.codeAt.memorySize.toNat = assembly.code.length) :
    (exactMemory (imageOf assembly file)).HoldsCode assembly.codeAt.virtualAddress.toNat
      assembly.code := by
  intro i within
  rw [Memory.runnable?]
  rcases Nat.lt_or_eq_of_le within with inside | rfl
  · rw [fileOf.exactMemory_code admissible inside, List.getElem?_eq_getElem inside]
    exact if_pos (show (Permissions.read.join .execute).has .execute = true by decide)
  · have behind : assembly.codeAt.virtualAddress.toNat + assembly.codeAt.memorySize.toNat
        ≤ assembly.codeAt.virtualAddress.toNat + assembly.code.length := by omega
    rw [exactMemory_imageOf, exactCell_eq_none file (codeSegment assembly) (.inr behind),
      Option.or_none, List.getElem?_eq_none (Nat.le_refl _)]
    cases found : exactCell file (dataSegment assembly).progHeader
        (assembly.codeAt.virtualAddress.toNat + assembly.code.length) with
    | none => rfl
    | some cell =>
      have permissions : cell.permissions = .read := permissions_exactCell found
      rw [Option.bind_some, permissions]
      rfl

end Memory

end Elf

end StaticElf
