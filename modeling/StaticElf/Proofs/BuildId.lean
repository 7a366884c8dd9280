/-
**The build id tells assemblies apart.**

What is hashed is a single byte string, in which two payloads of any lengths stand behind their
headers. It can be taken apart again only because each header has the length of its payload: without
them bytes could move from the code into the header of the data, and from there into the data.

* `Text.hexPairs_inj` — digests that are written the same way are the same.
* `segmentMessage_append_inj`, `Assembly.message_inj` — the string that is hashed determines the
  assembly.
* `FileOf.toBytes_eq_iff` — so does the content of its executable.
* `digest_faithful` — assemblies have the same build id when their executables are the same, and else
  only by a collision of the hash.
-/

import StaticElf.Proofs.Numerals
import StaticElf.Proofs.ReadBack

namespace StaticElf

/-! ### Digests in hexadecimal -/

namespace Text

theorem toList_hexPairs_cons (byte : UInt8) (bytes : Bytes) :
    (hexPairs (byte :: bytes)).toList
      = (byte.toNat / 16).digitChar :: (byte.toNat % 16).digitChar :: (hexPairs bytes).toList := by
  rw [hexPairs, hexPairs, String.toList_join, String.toList_join, List.map_cons, List.flatMap_cons,
    toList_hexPair]
  rfl

/-- **Bytes that are written the same way are the same.** -/
theorem hexPairs_inj {first second : Bytes} : hexPairs first = hexPairs second ↔ first = second := by
  refine ⟨fun same => ?_, congrArg hexPairs⟩
  rw [← String.toList_inj] at same
  induction first generalizing second with
  | nil =>
    cases second with
    | nil => rfl
    | cons byte bytes =>
      rw [toList_hexPairs_cons] at same
      cases same
  | cons byte bytes ih =>
    cases second with
    | nil =>
      rw [toList_hexPairs_cons] at same
      cases same
    | cons byte' bytes' =>
      rw [toList_hexPairs_cons, toList_hexPairs_cons, List.cons.injEq, List.cons.injEq] at same
      obtain ⟨high, low, rest⟩ := same
      have small : byte.toNat < 256 := byte.toNat_lt
      have small' : byte'.toNat < 256 := byte'.toNat_lt
      have upper := digitChar_inj (by omega) (by omega) high
      have lower := digitChar_inj (by omega) (by omega) low
      have here : byte = byte' := UInt8.toNat_inj.mp (by omega)
      rw [here, ih rest]

end Text

/-! ### The string that is hashed -/

/-- A message of one block is hashed by one step. -/
theorem Blake2b.hash256_of_length_le {message : Bytes} (short : message.length ≤ 128) :
    hash256 message
      = ((compress start (blockWords message) message.length true).toList.flatMap u64Bytes).take
        32 := by
  have whole : blocks message = [message] := by
    rw [blocks, if_pos (by rw [List.drop_eq_nil_of_le short]; rfl)]
  rw [hash256, whole, absorb, Nat.zero_add]

theorem u64Bytes_inj {first second : UInt64} :
    u64Bytes first = u64Bytes second ↔ first = second := by
  refine ⟨fun same => UInt64.toNat_inj.mp ?_, congrArg u64Bytes⟩
  rw [← leValue_u64Bytes, ← leValue_u64Bytes, same]

/-- Words in front of byte strings can be told from them. -/
theorem u64Bytes_append_inj {first second : UInt64} {rest rest' : Bytes} :
    u64Bytes first ++ rest = u64Bytes second ++ rest' ↔ first = second ∧ rest = rest' := by
  rw [← u64Bytes_inj]
  refine ⟨fun same => List.append_inj same (by simp), ?_⟩
  rintro ⟨here, later⟩
  rw [here, later]

namespace Assembly

/-- Payloads whose lengths are words. -/
def Short (assembly : Assembly) : Prop :=
  assembly.code.length < 2 ^ 64 ∧ assembly.data.length < 2 ^ 64

instance (assembly : Assembly) : Decidable assembly.Short := inferInstanceAs (Decidable (_ ∧ _))

/-- **The part of a segment can be told from what follows it.** -/
theorem segmentMessage_append_inj {place place' : Placement} {payload payload' rest rest' : Bytes}
    (short : payload.length < 2 ^ 64) (short' : payload'.length < 2 ^ 64) :
    segmentMessage place payload ++ rest = segmentMessage place' payload' ++ rest'
      ↔ place = place' ∧ payload = payload' ∧ rest = rest' := by
  constructor
  · intro same
    simp only [segmentMessage, List.append_assoc, u64Bytes_append_inj] at same
    obtain ⟨offset, virtualAddress, physicalAddress, memorySize, length, behind⟩ := same
    -- The lengths are told before the payloads, so it is known where these end
    have length : payload.length = payload'.length := by
      have numbers := congrArg UInt64.toNat length
      rwa [UInt64.toNat_ofNat_of_lt' short, UInt64.toNat_ofNat_of_lt' short'] at numbers
    obtain ⟨payloads, rests⟩ := List.append_inj behind length
    refine ⟨?_, payloads, rests⟩
    cases place
    cases place'
    rw [Placement.mk.injEq]
    exact ⟨offset, virtualAddress, physicalAddress, memorySize⟩
  · rintro ⟨rfl, rfl, rfl⟩
    rfl

theorem eq_iff {first second : Assembly} :
    first = second
      ↔ first.codeAt = second.codeAt ∧ first.dataAt = second.dataAt ∧ first.code = second.code
        ∧ first.data = second.data := by
  cases first
  cases second
  rw [Assembly.mk.injEq]
  tauto

/-- **The string that is hashed determines the assembly.** -/
theorem message_inj {first second : Assembly} (short : first.Short) (short' : second.Short) :
    first.message = second.message
      ↔ first.codeAt = second.codeAt ∧ first.dataAt = second.dataAt ∧ first.code = second.code
        ∧ first.data = second.data := by
  have data : segmentMessage first.dataAt first.data = segmentMessage second.dataAt second.data
      ↔ first.dataAt = second.dataAt ∧ first.data = second.data := by
    have parts : segmentMessage first.dataAt first.data ++ []
        = segmentMessage second.dataAt second.data ++ [] ↔ _ :=
      segmentMessage_append_inj short.2 short'.2
    simpa using parts
  unfold message
  rw [segmentMessage_append_inj short.1 short'.1, data]
  tauto

end Assembly

/-! ### The executables -/

namespace Elf

section Files

variable {first second : Assembly} {file other : ByteFile}

/-- Files of one assembly hold the same everywhere. -/
theorem FileOf.byteAt_eq (fileOf : FileOf first file) (fileOf' : FileOf first other) (place : Nat) :
    file.byteAt place = other.byteAt place := by
  by_cases code : (codeSegment first).Covers place
  · rw [fileOf.code place code, fileOf'.code place code]
  by_cases data : (dataSegment first).Covers place
  · rw [fileOf.data place data, fileOf'.data place data]
  by_cases heading : place < 176
  · rw [fileOf.header place heading, fileOf'.header place heading]
  · rw [fileOf.zero place (Nat.not_lt.mp heading) code data,
      fileOf'.zero place (Nat.not_lt.mp heading) code data]

/-- **Executables are the same exactly when their assemblies are.** -/
theorem FileOf.toBytes_eq_iff (fileOf : FileOf first file) (fileOf' : FileOf second other)
    (sized : first.Sized) (sized' : second.Sized) :
    file.toBytes = other.toBytes ↔ first = second := by
  constructor
  · intro same
    have recovered := assemblyOf?_congr same
    rw [fileOf.assemblyOf? sized, fileOf'.assemblyOf? sized'] at recovered
    exact Option.some.inj recovered
  · rintro rfl
    have sizes : file.size = other.size := fileOf.size.trans fileOf'.size.symm
    unfold ByteFile.toBytes ByteFile.read
    rw [sizes]
    exact List.map_congr_left fun place _ => fileOf.byteAt_eq fileOf' _

end Files

/-- **The build id is faithful**, whatever the hash is. The strings that are hashed are the same exactly
when the placements and the payloads are. So, if the hash does not collide on the two strings, assemblies
that are accepted have the same build id exactly when the executables are the same, byte by byte, which are
written for them on any open files. -/
theorem digest_faithful (hash : Bytes → Bytes) {first second : Assembly} (short : first.Short)
    (short' : second.Short) :
    (first.message = second.message
        ↔ first.codeAt = second.codeAt ∧ first.dataAt = second.dataAt ∧ first.code = second.code
          ∧ first.data = second.data)
      ∧ (first.Sized → second.Sized → check first = .ok () → check second = .ok () →
        (hash first.message = hash second.message → first.message = second.message) →
        ∀ (verbose verbose' : Bool) (before before' : OpenFile),
          let one := (emit verbose (some OpenFile.output) (some first)).run before
          let other := (emit verbose' (some OpenFile.output) (some second)).run before'
          one.1.result = .ok () ∧ other.1.result = .ok ()
            ∧ (first.digestBy hash = second.digestBy hash
              ↔ one.2.file.toBytes = other.2.file.toBytes)) := by
  have messages := Assembly.message_inj short short'
  refine ⟨messages, fun sized sized' accepted accepted' apart verbose verbose' before before' => ?_⟩
  obtain ⟨succeeds, fileOf⟩ := emit_openFile verbose accepted sized before
  obtain ⟨succeeds', fileOf'⟩ := emit_openFile verbose' accepted' sized' before'
  refine ⟨succeeds, succeeds', ?_⟩
  calc first.digestBy hash = second.digestBy hash
    _ ↔ hash first.message = hash second.message := Text.hexPairs_inj
    _ ↔ first.message = second.message := ⟨apart, congrArg hash⟩
    _ ↔ first = second := messages.trans Assembly.eq_iff.symm
    _ ↔ _ := (fileOf.toBytes_eq_iff fileOf' sized sized').symm

/-- An assembly with the first of its text behind the code. -/
def textInCode : Assembly where
  code := [0x0f, 0x05, 0x68]
  data := [0x69]
  codeAt := { offset := 0x1000, virtualAddress := 0x401000, memorySize := 4 }
  dataAt := { offset := 0x2000, virtualAddress := 0x402000, memorySize := 4 }

/-- The same with all of its text in the data. -/
def textInData : Assembly := { textInCode with code := [0x0f, 0x05], data := [0x68, 0x69] }

theorem digest_faithful_moved :
    textInCode.code ++ textInCode.data = textInData.code ++ textInData.data
      ∧ textInCode.Short ∧ textInData.Short ∧ textInCode.message ≠ textInData.message
      ∧ textInCode.digest ≠ textInData.digest
      ∧ ((emit false (some OpenFile.output) (some textInCode)).run {}).2.file.toBytes
        ≠ ((emit true (some OpenFile.output) (some textInData)).run {}).2.file.toBytes := by
  have short : textInCode.Short := by decide
  have short' : textInData.Short := by decide
  obtain ⟨messages, faithful⟩ := digest_faithful Blake2b.hash256 short short'
  have different : textInCode.message ≠ textInData.message :=
    fun same => absurd (messages.mp same) (by decide)
  have apart : Blake2b.hash256 textInCode.message ≠ Blake2b.hash256 textInData.message := by
    rw [Blake2b.hash256_of_length_le (by decide), Blake2b.hash256_of_length_le (by decide)]
    decide +kernel
  have digests : textInCode.digest ≠ textInData.digest := fun same =>
    apart (Text.hexPairs_inj.mp same)
  obtain ⟨-, -, same⟩ := faithful (by decide) (by decide) rfl rfl (fun same => absurd same apart)
    false true {} {}
  exact ⟨rfl, short, short', different, digests, fun files => digests (same.mpr files)⟩

end Elf

end StaticElf
