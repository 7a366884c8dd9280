/-
**Which assemblies an executable can hold, in numbers.**

The check of an assembly works on 64-bit words; its guards come in such an order that no sum and no
difference of words wraps before it is used.

* `Assembly.Sized` — payloads whose lengths a signed 64-bit number can hold.
* `Segment.Admissible`, `Admissible` — the conditions over the natural numbers.
* `Segment.demands`, `demands` — the same conditions in the order of the check, with their failures.
* `overlaps_eq_false_iff` — the overlap test on words, for ranges that end below `2 ^ 64`.
* `settles_check`, `check_eq_ok_iff` — the check accepts exactly the admissible assemblies and tells the
  first condition that another one does not meet.
* `AssemblyError.Told`, `told_of_refuses` — how the failure of each condition is told.
* `checkGiven_exact` — all that the check decides, and that it decides without a sum that wraps.
-/

import StaticElf.Elf.Segment
import StaticElf.Proofs.Demands
import StaticElf.Theory.LittleEndian
import StaticElf.Theory.Words

namespace StaticElf

/-- The payloads have lengths that a signed 64-bit number can hold, as everything has that is stored
as a string of bytes. -/
def Assembly.Sized (assembly : Assembly) : Prop :=
  assembly.code.length < 2 ^ 63 ∧ assembly.data.length < 2 ^ 63

instance (assembly : Assembly) : Decidable assembly.Sized := inferInstanceAs (Decidable (_ ∧ _))

namespace Elf

/-- Two ranges without a common value; a range without values shares none. -/
def RangesApart (start length otherStart otherLength : Nat) : Prop :=
  length = 0 ∨ otherLength = 0 ∨ start + length ≤ otherStart ∨ otherStart + otherLength ≤ start

/-- A value of a range, which is given by its start and its length. -/
def InRange (start length value : Nat) : Prop := start ≤ value ∧ value < start + length

/-- **What an executable asks of a segment**, in numbers. -/
structure Segment.Admissible (segment : Segment) : Prop where
  behindHeaders : 176 ≤ segment.place.offset.toNat
  endsInFile : segment.place.offset.toNat + segment.payload.length ≤ 2 ^ 63 - 1
  endsInMemory :
    segment.place.virtualAddress.toNat + segment.place.memorySize.toNat ≤ 2 ^ 64 - 1
  fits : segment.payload.length ≤ segment.place.memorySize.toNat
  inStep : segment.place.offset.toNat % 4096 = segment.place.virtualAddress.toNat % 4096

/-- **What an executable asks of an assembly**, in numbers. -/
structure Admissible (assembly : Assembly) : Prop where
  code : (codeSegment assembly).Admissible
  data : (dataSegment assembly).Admissible
  filesApart : RangesApart assembly.codeAt.offset.toNat assembly.code.length
    assembly.dataAt.offset.toNat assembly.data.length
  addressesApart : RangesApart assembly.codeAt.virtualAddress.toNat assembly.codeAt.memorySize.toNat
    assembly.dataAt.virtualAddress.toNat assembly.dataAt.memorySize.toNat

/-! ### One segment -/

/-- The check of a segment as a chain of guards. -/
theorem Segment.check_eq (segment : Segment) :
    segment.check =
      if segment.place.offset < UInt64.ofNat headersEnd then
        .error (.inHeaders segment.name segment.place.offset)
      else if segment.place.offset > 0x7fffffffffffffff - segment.fileSize then
        .error (.fileEndTooHigh segment.name segment.fileSize segment.place.offset)
      else if segment.place.virtualAddress > 0xffffffffffffffff - segment.place.memorySize then
        .error (.memoryEndTooHigh segment.name segment.place.memorySize
          segment.place.virtualAddress)
      else if segment.place.memorySize < segment.fileSize then
        .error (.largerThanMemory segment.name segment.place.memorySize segment.fileSize)
      else if segment.place.offset % pageSize != segment.place.virtualAddress % pageSize then
        .error (.outOfStep segment.name segment.place.offset segment.place.virtualAddress)
      else .ok () := rfl

theorem Segment.toNat_fileSize {segment : Segment} (small : segment.payload.length < 2 ^ 63) :
    segment.fileSize.toNat = segment.payload.length := by
  rw [fileSize, UInt64.toNat_ofNat_of_lt' (small.trans (by decide))]

/-- The room below the largest file offset: the difference of words does not wrap. -/
theorem Segment.toNat_fileRoom {segment : Segment} (small : segment.payload.length < 2 ^ 63) :
    (0x7fffffffffffffff - segment.fileSize).toNat = 2 ^ 63 - 1 - segment.payload.length := by
  have size := Segment.toNat_fileSize small
  rw [UInt64.toNat_sub_of_le _ _ (by rw [UInt64.le_iff_toNat_le, size]; simp; omega), size]
  rfl

/-- What is asked of a segment, in the order of its check. -/
def Segment.demands (segment : Segment) : List (Demand AssemblyError) := [
  ⟨176 ≤ segment.place.offset.toNat, .inHeaders segment.name segment.place.offset⟩,
  ⟨segment.place.offset.toNat + segment.payload.length ≤ 2 ^ 63 - 1,
    .fileEndTooHigh segment.name segment.fileSize segment.place.offset⟩,
  ⟨segment.place.virtualAddress.toNat + segment.place.memorySize.toNat ≤ 2 ^ 64 - 1,
    .memoryEndTooHigh segment.name segment.place.memorySize segment.place.virtualAddress⟩,
  ⟨segment.payload.length ≤ segment.place.memorySize.toNat,
    .largerThanMemory segment.name segment.place.memorySize segment.fileSize⟩,
  ⟨segment.place.offset.toNat % 4096 = segment.place.virtualAddress.toNat % 4096,
    .outOfStep segment.name segment.place.offset segment.place.virtualAddress⟩]

theorem Segment.admissible_iff (segment : Segment) :
    segment.Admissible ↔ ∀ demand ∈ segment.demands, demand.met := by
  simp only [Segment.demands, List.forall_mem_cons, List.not_mem_nil, IsEmpty.forall_iff,
    implies_true, and_true]
  constructor
  · rintro ⟨behindHeaders, endsInFile, endsInMemory, fits, inStep⟩
    exact ⟨behindHeaders, endsInFile, endsInMemory, fits, inStep⟩
  · rintro ⟨behindHeaders, endsInFile, endsInMemory, fits, inStep⟩
    exact ⟨behindHeaders, endsInFile, endsInMemory, fits, inStep⟩

/-- **The check of a segment tells the first condition that is not met.** -/
theorem Segment.settles_check {segment : Segment} (small : segment.payload.length < 2 ^ 63) :
    Settles segment.demands segment.check := by
  have size := Segment.toNat_fileSize small
  have memoryLt := segment.place.memorySize.toNat_lt
  rw [Segment.check_eq]
  refine .guard ?_ fun _ => .guard ?_ fun _ => .guard ?_ fun _ => .guard ?_ fun _ => .guard ?_ fun _ =>
    .ok ()
  · have headers : (UInt64.ofNat headersEnd).toNat = 176 := rfl
    rw [UInt64.lt_iff_toNat_lt, headers]
    omega
  · rw [GT.gt, UInt64.lt_iff_toNat_lt, Segment.toNat_fileRoom small]
    omega
  · rw [GT.gt, UInt64.lt_iff_toNat_lt, toNat_top_sub]
    omega
  · rw [UInt64.lt_iff_toNat_lt, size]
    omega
  · have page : pageSize.toNat = 4096 := rfl
    rw [bne_iff_ne, ne_eq, ← UInt64.toNat_inj, UInt64.toNat_mod, UInt64.toNat_mod, page]

/-- **A segment is accepted exactly when it is admissible.** -/
theorem Segment.check_eq_ok_iff {segment : Segment} (small : segment.payload.length < 2 ^ 63) :
    segment.check = .ok () ↔ segment.Admissible :=
  (Segment.settles_check small).eq_ok_iff.trans segment.admissible_iff.symm

/-- The ends of an admissible segment, in the file and in memory: the sums of words do not wrap. -/
theorem Segment.Admissible.toNat_ends {segment : Segment} (admissible : segment.Admissible) :
    (segment.place.offset + segment.fileSize).toNat
        = segment.place.offset.toNat + segment.payload.length
      ∧ (segment.place.virtualAddress + segment.place.memorySize).toNat
        = segment.place.virtualAddress.toNat + segment.place.memorySize.toNat := by
  have endsInFile := admissible.endsInFile
  have endsInMemory := admissible.endsInMemory
  rw [UInt64.toNat_add, UInt64.toNat_add, Segment.toNat_fileSize (by omega)]
  exact ⟨Nat.mod_eq_of_lt (by omega), Nat.mod_eq_of_lt (by omega)⟩

/-! ### Two segments -/

/-- **The overlap test is exact** for ranges whose ends are words. -/
theorem overlaps_eq_false_iff {start length otherStart otherLength : UInt64}
    (room : start.toNat + length.toNat < 2 ^ 64)
    (otherRoom : otherStart.toNat + otherLength.toNat < 2 ^ 64) :
    overlaps start length otherStart otherLength = false
      ↔ RangesApart start.toNat length.toNat otherStart.toNat otherLength.toNat := by
  have first : (start + length).toNat = start.toNat + length.toNat := by
    rw [UInt64.toNat_add, Nat.mod_eq_of_lt room]
  have second : (otherStart + otherLength).toNat = otherStart.toNat + otherLength.toNat := by
    rw [UInt64.toNat_add, Nat.mod_eq_of_lt otherRoom]
  unfold overlaps RangesApart
  rw [Bool.and_eq_false_iff, Bool.and_eq_false_iff, Bool.and_eq_false_iff]
  simp only [bne_eq_false_iff_eq, decide_eq_false_iff_not, UInt64.lt_iff_toNat_lt, first, second,
    ← UInt64.toNat_inj, UInt64.toNat_zero]
  omega

/-- The check of an assembly: both segments, and then two guards. -/
theorem check_eq (assembly : Assembly) :
    check assembly = (segments assembly).forM Segment.check >>= fun _ =>
      if overlaps assembly.codeAt.offset (codeSegment assembly).fileSize
          assembly.dataAt.offset (dataSegment assembly).fileSize then
        .error (.sharedFileBytes assembly.codeAt.offset (codeSegment assembly).fileSize
          assembly.dataAt.offset (dataSegment assembly).fileSize)
      else if overlaps assembly.codeAt.virtualAddress assembly.codeAt.memorySize
          assembly.dataAt.virtualAddress assembly.dataAt.memorySize then
        .error (.sharedAddresses assembly.codeAt.virtualAddress assembly.codeAt.memorySize
          assembly.dataAt.virtualAddress assembly.dataAt.memorySize)
      else .ok () := rfl

theorem forM_segments_eq_ok_iff (assembly : Assembly) :
    (segments assembly).forM Segment.check = .ok ()
      ↔ (codeSegment assembly).check = .ok () ∧ (dataSegment assembly).check = .ok () := by
  show ((codeSegment assembly).check >>= fun _ => (dataSegment assembly).check >>= fun _ => pure ())
    = .ok () ↔ _
  rw [except_then_eq_ok, except_then_eq_ok]
  exact ⟨fun both => ⟨both.1, both.2.1⟩, fun both => ⟨both.1, both.2, rfl⟩⟩

/-- **Ranges are apart when no value lies in both.** -/
theorem rangesApart_iff (start length otherStart otherLength : Nat) :
    RangesApart start length otherStart otherLength
      ↔ ∀ value, ¬ (InRange start length value ∧ InRange otherStart otherLength value) := by
  unfold RangesApart InRange
  constructor
  · intro apart value
    omega
  · intro apart
    -- The later of the two starts is the first value that could lie in both
    have later := apart (max start otherStart)
    omega

/-- What is asked of an assembly, in the order of its check. -/
def demands (assembly : Assembly) : List (Demand AssemblyError) :=
  (segments assembly).flatMap Segment.demands ++ [
    ⟨RangesApart assembly.codeAt.offset.toNat assembly.code.length
        assembly.dataAt.offset.toNat assembly.data.length,
      .sharedFileBytes assembly.codeAt.offset (codeSegment assembly).fileSize
        assembly.dataAt.offset (dataSegment assembly).fileSize⟩,
    ⟨RangesApart assembly.codeAt.virtualAddress.toNat assembly.codeAt.memorySize.toNat
        assembly.dataAt.virtualAddress.toNat assembly.dataAt.memorySize.toNat,
      .sharedAddresses assembly.codeAt.virtualAddress assembly.codeAt.memorySize
        assembly.dataAt.virtualAddress assembly.dataAt.memorySize⟩]

theorem forall_mem_segments {assembly : Assembly} {holds : Segment → Prop} :
    (∀ segment ∈ segments assembly, holds segment)
      ↔ holds (codeSegment assembly) ∧ holds (dataSegment assembly) := by
  simp [segments]

theorem admissible_iff (assembly : Assembly) :
    Admissible assembly ↔ ∀ demand ∈ demands assembly, demand.met := by
  rw [demands, List.forall_mem_append, List.forall_mem_flatMap, forall_mem_segments,
    ← Segment.admissible_iff, ← Segment.admissible_iff]
  simp only [List.forall_mem_cons, List.not_mem_nil, IsEmpty.forall_iff, implies_true, and_true]
  constructor
  · rintro ⟨code, data, files, addresses⟩
    exact ⟨⟨code, data⟩, files, addresses⟩
  · rintro ⟨⟨code, data⟩, files, addresses⟩
    exact ⟨code, data, files, addresses⟩

/-- **The check of an assembly tells the first condition that is not met.** The overlap tests come behind
the checks of the segments, when no end wraps. -/
theorem settles_check {assembly : Assembly} (sized : assembly.Sized) :
    Settles (demands assembly) (check assembly) := by
  rw [check_eq]
  refine .bind (.forM ?_) fun _ passed => ?_
  · exact forall_mem_segments.mpr
      ⟨Segment.settles_check sized.1, Segment.settles_check sized.2⟩
  · obtain ⟨codePassed, dataPassed⟩ := (forM_segments_eq_ok_iff assembly).mp passed
    have code := (Segment.check_eq_ok_iff sized.1).mp codePassed
    have data := (Segment.check_eq_ok_iff sized.2).mp dataPassed
    have codeFile : assembly.codeAt.offset.toNat + assembly.code.length ≤ _ := code.endsInFile
    have dataFile : assembly.dataAt.offset.toNat + assembly.data.length ≤ _ := data.endsInFile
    have codeMemory : assembly.codeAt.virtualAddress.toNat + assembly.codeAt.memorySize.toNat ≤ _ :=
      code.endsInMemory
    have dataMemory : assembly.dataAt.virtualAddress.toNat + assembly.dataAt.memorySize.toNat ≤ _ :=
      data.endsInMemory
    have codeSize : (codeSegment assembly).fileSize.toNat = assembly.code.length :=
      Segment.toNat_fileSize sized.1
    have dataSize : (dataSegment assembly).fileSize.toNat = assembly.data.length :=
      Segment.toNat_fileSize sized.2
    refine .guard ?_ fun _ => .guard ?_ fun _ => .ok ()
    · rw [← Bool.not_eq_false, overlaps_eq_false_iff (by omega) (by omega), codeSize, dataSize]
    · rw [← Bool.not_eq_false, overlaps_eq_false_iff (by omega) (by omega)]

/-- **An assembly is accepted exactly when it is admissible.** -/
theorem check_eq_ok_iff {assembly : Assembly} (sized : assembly.Sized) :
    check assembly = .ok () ↔ Admissible assembly :=
  (settles_check sized).eq_ok_iff.trans (admissible_iff assembly).symm

/-! ### How a refusal is told -/

/-- **How the failure of a check is told**: as a value out of range, and of the kind that belongs to the
condition. -/
def AssemblyError.Told (error : AssemblyError) : Prop :=
  let told := (error.fault.category, error.fault.kinds)
  match error with
  | .inHeaders .. | .sharedFileBytes .. | .sharedAddresses .. =>
    told = (some .range, [.segmentOverlap])
  | .fileEndTooHigh .. | .memoryEndTooHigh .. | .largerThanMemory .. =>
    told = (some .range, [.fieldOverflow])
  | .outOfStep .. => told = (some .range, [.unalignedLayout])
  | .noAssembly | .headersLength _ => False

theorem Segment.told_of_mem_demands (segment : Segment) :
    ∀ demand ∈ segment.demands, demand.error.Told := by
  simp only [Segment.demands, List.forall_mem_cons, List.not_mem_nil, IsEmpty.forall_iff,
    implies_true, and_true]
  exact ⟨rfl, rfl, rfl, rfl, rfl⟩

/-- **Each condition has its own kind of failure.** -/
theorem told_of_refuses {assembly : Assembly} {error : AssemblyError}
    (refuses : Demand.Refuses (demands assembly) error) : error.Told := by
  obtain ⟨demand, member, rfl⟩ := refuses.exists_mem
  rcases List.mem_append.mp member with inSegment | inOverlaps
  · obtain ⟨segment, -, listed⟩ := List.mem_flatMap.mp inSegment
    exact segment.told_of_mem_demands demand listed
  · rcases List.mem_cons.mp inOverlaps with rfl | last
    · exact rfl
    · rw [List.mem_singleton.mp last]
      exact rfl

/-- **The check decides exactly what an executable asks**, in numbers: an assembly is accepted when
both segments are admissible and share neither a place of the file nor an address. Another one is
refused for the first condition that it does not meet, those of the code before those of the data and
the overlaps behind both. The failure is one of range, of the one kind that belongs to that condition:
an overlap, a field that is too large, or an unaligned layout. The differences of words in the guards
never wrap, and the sums of words in the overlap tests do not where they are reached. -/
theorem checkGiven_exact {assembly : Assembly} (sized : assembly.Sized) :
    let code := codeSegment assembly
    let data := dataSegment assembly
    (checkGiven (some assembly) = .ok ()
        ↔ code.Admissible ∧ data.Admissible
          ∧ (∀ place, ¬ (InRange code.place.offset.toNat code.payload.length place
              ∧ InRange data.place.offset.toNat data.payload.length place))
          ∧ ∀ address,
            ¬ (InRange code.place.virtualAddress.toNat code.place.memorySize.toNat address
              ∧ InRange data.place.virtualAddress.toNat data.place.memorySize.toNat address))
      ∧ (∀ error, checkGiven (some assembly) = .error error
          ↔ Demand.Refuses (demands assembly) error)
      ∧ (∀ error, checkGiven (some assembly) = .error error → error.Told)
      ∧ ∀ segment ∈ segments assembly,
          (0x7fffffffffffffff - segment.fileSize).toNat + segment.payload.length = 2 ^ 63 - 1
          ∧ (0xffffffffffffffff - segment.place.memorySize).toNat + segment.place.memorySize.toNat
            = 2 ^ 64 - 1
          ∧ ((segments assembly).forM Segment.check = .ok () →
            (segment.place.offset + segment.fileSize).toNat
                = segment.place.offset.toNat + segment.payload.length
              ∧ (segment.place.virtualAddress + segment.place.memorySize).toNat
                = segment.place.virtualAddress.toNat + segment.place.memorySize.toNat) := by
  intro code data
  have settles : Settles (demands assembly) (checkGiven (some assembly)) := settles_check sized
  refine ⟨?_, fun error => settles.eq_error_iff,
    fun error refused => told_of_refuses (settles.eq_error_iff.mp refused), ?_⟩
  · rw [settles.eq_ok_iff, ← admissible_iff, ← rangesApart_iff, ← rangesApart_iff]
    exact ⟨fun ⟨first, second, files, addresses⟩ => ⟨first, second, files, addresses⟩,
      fun ⟨first, second, files, addresses⟩ => ⟨first, second, files, addresses⟩⟩
  · intro segment member
    have each : ∀ segment ∈ segments assembly, segment.payload.length < 2 ^ 63 :=
      forall_mem_segments.mpr sized
    have small := each segment member
    have memoryLt := segment.place.memorySize.toNat_lt
    refine ⟨?_, ?_, fun passed => ?_⟩
    · rw [Segment.toNat_fileRoom small]
      omega
    · rw [toNat_top_sub]
      omega
    · have accepted := except_forM_eq_ok.mp passed segment member
      exact ((Segment.check_eq_ok_iff small).mp accepted).toNat_ends

/-- An assembly whose code ends at the last place of a file and at the last address, right behind its
data. -/
def brimful : Assembly where
  code := [0x0f, 0x05]
  data := [0x68, 0x69]
  codeAt := { offset := 0x7ffffffffffffffd, virtualAddress := 0xfffffffffffffffd, memorySize := 2 }
  dataAt := { offset := 0x7ffffffffffffffb, virtualAddress := 0xfffffffffffffffb, memorySize := 2 }

/-- The same with one address more for its data. -/
def overfull : Assembly := { brimful with dataAt := { brimful.dataAt with memorySize := 3 } }

/-- The same with one address less for its code than it has bytes. -/
def cramped : Assembly := { brimful with codeAt := { brimful.codeAt with memorySize := 1 } }

/-- The same as with one address more, and with its data one place earlier in the file, out of step with
its address. -/
def skewed : Assembly := { overfull with dataAt := { overfull.dataAt with offset := 0x7ffffffffffffffa } }

/-- One assembly that is accepted and one for each kind of failure, of which the last does not meet two
conditions. -/
theorem checkGiven_exact_brimful :
    (brimful.Sized ∧ overfull.Sized ∧ cramped.Sized ∧ skewed.Sized)
      ∧ checkGiven (some brimful) = .ok ()
      ∧ (∀ address, ¬ (InRange 0xfffffffffffffffd 2 address ∧ InRange 0xfffffffffffffffb 2 address))
      ∧ InRange 0xfffffffffffffffb 3 0xfffffffffffffffd
      ∧ (∃ error, Demand.Refuses (demands overfull) error
        ∧ error = .sharedAddresses 0xfffffffffffffffd 2 0xfffffffffffffffb 3
        ∧ (error.fault.category, error.fault.kinds) = (some .range, [.segmentOverlap]))
      ∧ (∃ error, Demand.Refuses (demands cramped) error
        ∧ error = .largerThanMemory "code" 1 2
        ∧ (error.fault.category, error.fault.kinds) = (some .range, [.fieldOverflow]))
      ∧ (∃ error, Demand.Refuses (demands skewed) error
        ∧ error = .outOfStep "data" 0x7ffffffffffffffa 0xfffffffffffffffb
        ∧ (error.fault.category, error.fault.kinds) = (some .range, [.unalignedLayout])) := by
  have sized : brimful.Sized ∧ overfull.Sized ∧ cramped.Sized ∧ skewed.Sized := by decide
  have accepted : checkGiven (some brimful) = .ok () := rfl
  obtain ⟨accepts, -⟩ := checkGiven_exact sized.1
  obtain ⟨-, refuses, told, -⟩ := checkGiven_exact sized.2.1
  obtain ⟨-, refuses', told', -⟩ := checkGiven_exact sized.2.2.1
  obtain ⟨-, refuses'', told'', -⟩ := checkGiven_exact sized.2.2.2
  obtain ⟨-, -, -, addresses⟩ := accepts.mp accepted
  exact ⟨sized, accepted, addresses, ⟨by decide, by decide⟩,
    ⟨_, (refuses _).mp rfl, rfl, told _ rfl⟩, ⟨_, (refuses' _).mp rfl, rfl, told' _ rfl⟩,
    ⟨_, (refuses'' _).mp rfl, rfl, told'' _ rfl⟩⟩

end Elf

end StaticElf
