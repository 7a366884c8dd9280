/-
**Which instruction records have an encoding.**

What an instruction asks of its fields can be read off their numbers: which values a field may have,
which fields are there at all, and how many bytes they come to.

* `ModRM.HasSib`, `ModRM.WellFormed` — when a SIB byte is there, and which fields fit.
* `ModRM.pack_eq` — three fields that fit are side by side in their byte.
* `Instruction.written`, `Instruction.byteCount` — the parts in order, and how many bytes they are.
* `ModRM.demands`, `Instruction.demands` — what is asked, in the order in which it is.
* `ModRM.settles_bytes?`, `Instruction.settles_bytes?` — the encoding tells the first thing that is not
  so.
* `Instruction.bytes_exact` — what is encoded, to which bytes, and what is told of what is not.
-/

import StaticElf.Proofs.Demands
import StaticElf.Proofs.Instructions

namespace StaticElf

/-! ### Fields -/

theorem shiftRight_eq_zero_iff (value bits : Nat) : value >>> bits = 0 ↔ value < 2 ^ bits := by
  rw [Nat.shiftRight_eq_div_pow, Nat.div_eq_zero_iff_lt (Nat.two_pow_pos bits)]

/-- A field that is checked before the next step. -/
theorem checkField_bind {α : Type} (field : String) (value : UInt8) (bits : Nat)
    (next : Unit → Except EncodingError α) :
    checkField field value bits >>= next
      = if ¬ value.toNat < 2 ^ bits then .error (.fieldTooWide field value bits) else next () := by
  unfold checkField
  by_cases fits : value.toNat < 2 ^ bits
  · rw [if_pos ((shiftRight_eq_zero_iff _ _).mpr fits), if_neg (not_not.mpr fits)]
    rfl
  · rw [if_neg (mt (shiftRight_eq_zero_iff _ _).mp fits), if_pos fits]
    rfl

namespace ModRM

/-- **A form with a SIB byte**: it does not address a register itself, and has no register but the mark
of that byte. -/
def HasSib (form : ModRM) : Prop := form.mod.toNat ≠ 3 ∧ form.rm.toNat = 4

instance (form : ModRM) : Decidable form.HasSib := inferInstanceAs (Decidable (_ ∧ _))

theorem needsSib_iff (form : ModRM) : form.needsSib = true ↔ form.HasSib := by
  simp [needsSib, HasSib, ← UInt8.toNat_inj]

/-- **A form whose fields fit.** Those of the SIB byte are free where there is none. -/
structure WellFormed (form : ModRM) : Prop where
  mod : form.mod.toNat < 4
  reg : form.reg.toNat < 8
  rm : form.rm.toNat < 8
  scale : form.HasSib → form.scale.toNat < 4
  index : form.HasSib → form.index.toNat < 8
  base : form.HasSib → form.base.toNat < 8

/-- Fields of two, three and three bits side by side. -/
def fieldsByte (high middle low : UInt8) : UInt8 :=
  UInt8.ofNat (64 * high.toNat + 8 * middle.toNat + low.toNat)

/-- The byte of a form, and the SIB byte where there is one. -/
def written (form : ModRM) : Bytes :=
  fieldsByte form.mod form.reg form.rm
    :: if form.HasSib then [fieldsByte form.scale form.index form.base] else []

/-- The number of bytes of a form. -/
def byteCount (form : ModRM) : Nat := if form.HasSib then 2 else 1

/-- What is asked of a form, in order. -/
def demands (form : ModRM) : List (Demand EncodingError) := [
  ⟨form.mod.toNat < 4, .fieldTooWide "mod" form.mod 2⟩,
  ⟨form.reg.toNat < 8, .fieldTooWide "reg" form.reg 3⟩,
  ⟨form.rm.toNat < 8, .fieldTooWide "rm" form.rm 3⟩,
  ⟨form.HasSib → form.scale.toNat < 4, .fieldTooWide "scale" form.scale 2⟩,
  ⟨form.HasSib → form.index.toNat < 8, .fieldTooWide "index" form.index 3⟩,
  ⟨form.HasSib → form.base.toNat < 8, .fieldTooWide "base" form.base 3⟩]

/-- **Fields that fit do not touch each other.** -/
theorem pack_eq {high middle low : UInt8} (highFits : high.toNat < 4) (middleFits : middle.toNat < 8)
    (lowFits : low.toNat < 8) : pack high middle low = fieldsByte high middle low := by
  have upper : high.toNat <<< 6 ||| middle.toNat <<< 3 = 64 * high.toNat + 8 * middle.toNat := by
    rw [← Nat.shiftLeft_add_eq_or_of_lt (by rw [Nat.shiftLeft_eq]; omega), Nat.shiftLeft_eq,
      Nat.shiftLeft_eq]
    omega
  have all : (64 * high.toNat + 8 * middle.toNat) ||| low.toNat
      = 64 * high.toNat + 8 * middle.toNat + low.toNat := by
    have multiple : 64 * high.toNat + 8 * middle.toNat
        = (8 * high.toNat + middle.toNat) <<< 3 := by
      rw [Nat.shiftLeft_eq]
      omega
    rw [multiple, Nat.shiftLeft_add_eq_or_of_lt lowFits]
  apply UInt8.toNat_inj.mp
  have shifted (value : UInt8) (bits : Nat) (small : value.toNat * 2 ^ bits < 256) :
      value.toNat <<< bits % 256 = value.toNat <<< bits := by
    rw [Nat.shiftLeft_eq, Nat.mod_eq_of_lt small]
  simp only [pack, fieldsByte, UInt8.toNat_or, UInt8.toNat_shiftLeft, UInt8.toNat_ofNat',
    UInt8.reduceToNat, Nat.reduceMod, Nat.reducePow]
  rw [shifted high 6 (by omega), shifted middle 3 (by omega), upper, all, Nat.mod_eq_of_lt (by omega)]

theorem wellFormed_iff (form : ModRM) :
    form.WellFormed ↔ ∀ demand ∈ form.demands, demand.met := by
  simp only [demands, List.forall_mem_cons, List.not_mem_nil, IsEmpty.forall_iff, implies_true,
    and_true]
  exact ⟨fun fits => ⟨fits.mod, fits.reg, fits.rm, fits.scale, fits.index, fits.base⟩,
    fun ⟨mod, reg, rm, scale, index, base⟩ => ⟨mod, reg, rm, scale, index, base⟩⟩

/-- What is told of a form names one of its fields. -/
theorem exists_field_of_mem {form : ModRM} {demand : Demand EncodingError}
    (member : demand ∈ form.demands) :
    ∃ field value bits, demand.error = .fieldTooWide field value bits := by
  simp only [demands, List.mem_cons, List.not_mem_nil, or_false] at member
  rcases member with rfl | rfl | rfl | rfl | rfl | rfl
  all_goals exact ⟨_, _, _, rfl⟩

/-- The checks of a form, one behind the other. -/
theorem bytes?_eq (form : ModRM) :
    form.bytes? =
      if ¬ form.mod.toNat < 4 then .error (.fieldTooWide "mod" form.mod 2)
      else if ¬ form.reg.toNat < 8 then .error (.fieldTooWide "reg" form.reg 3)
      else if ¬ form.rm.toNat < 8 then .error (.fieldTooWide "rm" form.rm 3)
      else if form.HasSib then
        if ¬ form.scale.toNat < 4 then .error (.fieldTooWide "scale" form.scale 2)
        else if ¬ form.index.toNat < 8 then .error (.fieldTooWide "index" form.index 3)
        else if ¬ form.base.toNat < 8 then .error (.fieldTooWide "base" form.base 3)
        else .ok [pack form.mod form.reg form.rm, pack form.scale form.index form.base]
      else .ok [pack form.mod form.reg form.rm] := by
  simp only [bytes?, checkField_bind, needsSib_iff]
  rfl

/-- **The encoding of a form tells its first field that does not fit.** -/
theorem settles_bytes? (form : ModRM) : Settles form.demands form.bytes? := by
  rw [bytes?_eq, demands]
  refine .guard Iff.rfl fun _ => .guard Iff.rfl fun _ => .guard Iff.rfl fun _ => ?_
  by_cases sib : form.HasSib
  · have asked (fits : Prop) : ¬ fits ↔ ¬ (form.HasSib → fits) := by rw [forall_prop_of_true sib]
    rw [if_pos sib]
    exact .guard (asked _) fun _ => .guard (asked _) fun _ => .guard (asked _) fun _ => .ok _
  · rw [if_neg sib]
    simp [Settles, sib]

theorem bytes?_of_wellFormed {form : ModRM} (fits : form.WellFormed) :
    form.bytes? = .ok form.written := by
  rw [bytes?_eq, if_neg (not_not.mpr fits.mod), if_neg (not_not.mpr fits.reg),
    if_neg (not_not.mpr fits.rm), pack_eq fits.mod fits.reg fits.rm, written]
  by_cases sib : form.HasSib
  · rw [if_pos sib, if_neg (not_not.mpr (fits.scale sib)), if_neg (not_not.mpr (fits.index sib)),
      if_neg (not_not.mpr (fits.base sib)), if_pos sib,
      pack_eq (fits.scale sib) (fits.index sib) (fits.base sib)]
  · rw [if_neg sib, if_neg sib]

theorem length_written (form : ModRM) : form.written.length = form.byteCount := by
  unfold written byteCount
  split <;> rfl

end ModRM

/-! ### Instructions -/

/-- The bytes of an opcode map. -/
def opcodeMap : Nat → Bytes
  | 1 => [0x0f]
  | 2 => [0x0f, 0x38]
  | 3 => [0x0f, 0x3a]
  | _ => []

namespace Instruction

/-- The REX byte where there is one: the bits stand below a four. -/
def writtenRex (instruction : Instruction) : Bytes :=
  if instruction.emitRex then [UInt8.ofNat (0x40 + instruction.rex.toNat)] else []

def writtenModRM (instruction : Instruction) : Bytes :=
  instruction.modrm.elim [] ModRM.written

/-- **The parts of an instruction in order.** -/
def written (instruction : Instruction) : Bytes :=
  instruction.prefixes ++ instruction.writtenRex ++ opcodeMap instruction.escape.toNat
    ++ [instruction.opcode] ++ instruction.writtenModRM ++ instruction.disp ++ instruction.imm

/-- **The number of bytes of an instruction**, part by part. -/
def byteCount (instruction : Instruction) : Nat :=
  instruction.prefixes.length + (if instruction.emitRex then 1 else 0)
    + (opcodeMap instruction.escape.toNat).length + 1 + instruction.modrm.elim 0 ModRM.byteCount
    + instruction.disp.length + instruction.imm.length

/-- REX bits that fit in their byte, and none where there is no byte. -/
def RexFits (instruction : Instruction) : Prop :=
  if instruction.emitRex then instruction.rex.toNat ≤ 15 else instruction.rex.toNat = 0

instance (instruction : Instruction) : Decidable instruction.RexFits :=
  inferInstanceAs (Decidable (if instruction.emitRex then _ ≤ _ else _ = _))

/-- What is told of REX bits that do not fit. -/
def rexError (instruction : Instruction) : EncodingError :=
  if instruction.emitRex then .rexTooWide instruction.rex else .rexWithoutByte

/-- **An instruction that has an encoding.** -/
structure WellFormed (instruction : Instruction) : Prop where
  rex : instruction.RexFits
  escape : instruction.escape.toNat ≤ 3
  modrm : ∀ form, instruction.modrm = some form → form.WellFormed
  length : instruction.byteCount ≤ 15

/-- **What is asked of an instruction**, in order: of the REX bits, of the escape, of the fields of the
form, and that all of it is not too long. -/
def demands (instruction : Instruction) : List (Demand EncodingError) :=
  [⟨instruction.RexFits, instruction.rexError⟩]
    ++ ([⟨instruction.escape.toNat ≤ 3, .unknownEscape instruction.escape⟩]
    ++ (instruction.modrm.elim [] ModRM.demands
    ++ [⟨instruction.byteCount ≤ 15, .tooLong instruction.byteCount⟩]))

variable {instruction : Instruction} {bytes : Bytes}

theorem length_written (instruction : Instruction) :
    instruction.written.length = instruction.byteCount := by
  have rex : instruction.writtenRex.length = if instruction.emitRex then 1 else 0 := by
    unfold writtenRex
    split <;> rfl
  have modrm : instruction.writtenModRM.length = instruction.modrm.elim 0 ModRM.byteCount := by
    unfold writtenModRM
    cases instruction.modrm with
    | none => rfl
    | some form => exact form.length_written
  simp only [written, byteCount, List.length_append, List.length_singleton, rex, modrm]

theorem wellFormed_iff (instruction : Instruction) :
    instruction.WellFormed ↔ ∀ demand ∈ instruction.demands, demand.met := by
  have form : (∀ form, instruction.modrm = some form → form.WellFormed)
      ↔ ∀ demand ∈ instruction.modrm.elim [] ModRM.demands, demand.met := by
    cases instruction.modrm with
    | none => simp
    | some form => simp [form.wellFormed_iff]
  rw [demands, List.forall_mem_append, List.forall_mem_append, List.forall_mem_append,
    List.forall_mem_singleton, List.forall_mem_singleton, List.forall_mem_singleton, ← form]
  exact ⟨fun fits => ⟨fits.rex, fits.escape, fits.modrm, fits.length⟩,
    fun ⟨rex, escape, modrm, length⟩ => ⟨rex, escape, modrm, length⟩⟩

/-! ### The parts, one by one -/

theorem rexByte_eq {rex : UInt8} (small : rex.toNat ≤ 15) :
    Rex.byte rex = UInt8.ofNat (0x40 + rex.toNat) := by
  have known : rex = UInt8.ofNat rex.toNat := UInt8.ofNat_toNat.symm
  generalize rex.toNat = value at small known
  subst known
  revert value
  decide

theorem rexBytes?_eq (instruction : Instruction) :
    instruction.rexBytes? =
      if ¬ instruction.RexFits then .error instruction.rexError else .ok instruction.writtenRex := by
  by_cases present : instruction.emitRex
  · have large : instruction.rex > 0x0f ↔ ¬ instruction.rex.toNat ≤ 15 := by
      rw [GT.gt, UInt8.lt_iff_toNat_lt, Nat.not_le]
      rfl
    by_cases small : instruction.rex.toNat ≤ 15
    · simp [rexBytes?, RexFits, writtenRex, present, large, small, rexByte_eq small]
    · simp [rexBytes?, RexFits, rexError, present, large, small]
  · have zero : instruction.rex = 0 ↔ instruction.rex.toNat = 0 := UInt8.toNat_inj.symm
    simp only [rexBytes?, RexFits, rexError, writtenRex, present, zero, ite_not]
    rfl

theorem escapeBytes?_eq (escape : UInt8) :
    escapeBytes? escape =
      if ¬ escape.toNat ≤ 3 then .error (.unknownEscape escape)
      else .ok (opcodeMap escape.toNat) := by
  unfold escapeBytes? opcodeMap
  split
  · next known => simp [known]
  · next known => simp [known]
  · next known => simp [known]
  · next known => simp [known]
  · next zero one two three =>
    have unknown : ¬ escape.toNat ≤ 3 := by
      rw [imp_false] at zero one two three
      omega
    rw [if_pos unknown]

theorem settles_modrmBytes? (instruction : Instruction) :
    Settles (instruction.modrm.elim [] ModRM.demands) instruction.modrmBytes? := by
  unfold modrmBytes?
  cases instruction.modrm with
  | none => exact .ok _
  | some form => exact form.settles_bytes?

theorem modrmBytes?_eq_ok (encodes : instruction.modrmBytes? = .ok bytes) :
    bytes = instruction.writtenModRM := by
  unfold modrmBytes? at encodes
  unfold writtenModRM
  cases given : instruction.modrm with
  | none =>
    rw [given] at encodes
    exact (Except.ok.inj encodes).symm
  | some form =>
    rw [given] at encodes
    have encodes : form.bytes? = .ok bytes := encodes
    have fits := form.wellFormed_iff.mpr (form.settles_bytes?.exists_ok_iff.mp ⟨bytes, encodes⟩)
    rw [ModRM.bytes?_of_wellFormed fits] at encodes
    exact (Except.ok.inj encodes).symm

/-! ### All of an instruction -/

/-- The parts of an instruction, one behind the other, and then its length. -/
theorem bytes?_eq (instruction : Instruction) :
    instruction.bytes? =
      instruction.rexBytes? >>= fun rex =>
      escapeBytes? instruction.escape >>= fun escape =>
      instruction.modrmBytes? >>= fun modrm =>
      let all := instruction.prefixes ++ rex ++ escape ++ [instruction.opcode] ++ modrm
        ++ instruction.disp ++ instruction.imm
      if all.length > 15 then .error (.tooLong all.length) else .ok all := rfl

/-- **The encoding of an instruction tells the first thing that is not as it asks.** -/
theorem settles_bytes? (instruction : Instruction) :
    Settles instruction.demands instruction.bytes? := by
  have rexSettles : Settles [⟨instruction.RexFits, instruction.rexError⟩] instruction.rexBytes? := by
    rw [rexBytes?_eq]
    exact .guard Iff.rfl fun _ => .ok _
  have escapeSettles : Settles [⟨instruction.escape.toNat ≤ 3, .unknownEscape instruction.escape⟩]
      (escapeBytes? instruction.escape) := by
    rw [escapeBytes?_eq]
    exact .guard Iff.rfl fun _ => .ok _
  rw [bytes?_eq]
  refine .bind rexSettles fun rex rexOk => .bind escapeSettles fun escape escapeOk =>
    .bind instruction.settles_modrmBytes? fun modrm modrmOk => ?_
  rw [rexBytes?_eq] at rexOk
  rw [escapeBytes?_eq] at escapeOk
  cases (except_guard_eq_ok.mp rexOk).2
  cases (except_guard_eq_ok.mp escapeOk).2
  cases modrmBytes?_eq_ok modrmOk
  show Settles _ (if instruction.written.length > 15
    then .error (EncodingError.tooLong instruction.written.length) else .ok instruction.written)
  rw [instruction.length_written]
  exact .guard Nat.not_le.symm fun _ => .ok _

/-- **What is encoded is the parts in order.** -/
theorem bytes?_eq_ok (encodes : instruction.bytes? = .ok bytes) : bytes = instruction.written := by
  rw [bytes?_eq, rexBytes?_eq, escapeBytes?_eq] at encodes
  obtain ⟨rex, rexOk, rest⟩ := except_bind_eq_ok.mp encodes
  obtain ⟨escape, escapeOk, rest⟩ := except_bind_eq_ok.mp rest
  obtain ⟨modrm, modrmOk, rest⟩ := except_bind_eq_ok.mp rest
  obtain ⟨-, last⟩ := except_guard_eq_ok.mp rest
  cases (except_guard_eq_ok.mp rexOk).2
  cases (except_guard_eq_ok.mp escapeOk).2
  cases modrmBytes?_eq_ok modrmOk
  exact (Except.ok.inj last).symm

/-- **How a refused instruction is told**: as a bad argument, and as an invalid operand exactly where the
REX bits have no byte or the escape is not known. -/
theorem told_of_refuses {error : EncodingError}
    (refuses : Demand.Refuses instruction.demands error) :
    error.fault.category = some .argument
      ∧ (error = .rexWithoutByte ∨ error = .unknownEscape instruction.escape →
        error.fault.kinds = [.invalidOperand])
      ∧ (¬ (error = .rexWithoutByte ∨ error = .unknownEscape instruction.escape) →
        error.fault.kinds = [.fieldOverflow]) := by
  obtain ⟨demand, member, rfl⟩ := refuses.exists_mem
  rcases List.mem_append.mp member with inRex | member
  · rw [List.mem_singleton.mp inRex]
    unfold rexError
    cases instruction.emitRex with
    | true => exact ⟨rfl, by simp, fun _ => rfl⟩
    | false => exact ⟨rfl, fun _ => rfl, by simp⟩
  rcases List.mem_append.mp member with inEscape | member
  · rw [List.mem_singleton.mp inEscape]
    exact ⟨rfl, fun _ => rfl, by simp⟩
  rcases List.mem_append.mp member with inForm | inLength
  · cases given : instruction.modrm with
    | none =>
      rw [given] at inForm
      cases inForm
    | some form =>
      rw [given] at inForm
      obtain ⟨field, value, bits, told⟩ := form.exists_field_of_mem inForm
      rw [told]
      exact ⟨rfl, by simp, fun _ => rfl⟩
  · rw [List.mem_singleton.mp inLength]
    exact ⟨rfl, by simp, fun _ => rfl⟩

/-- **An instruction is encoded exactly if its fields fit**, those of a SIB byte only where there is one.
Then its bytes are its parts in order, as many as the fields say. Else the first thing that is not so is
told, in the order REX, escape, fields of the form, length: as a bad argument, with an invalid operand
for REX bits without their byte and for an unknown escape, and a value too large for all the others. -/
theorem bytes_exact (instruction : Instruction) :
    ((∃ bytes, instruction.bytes? = .ok bytes) ↔ instruction.WellFormed)
      ∧ (∀ bytes, instruction.bytes? = .ok bytes →
        bytes = instruction.written ∧ bytes.length = instruction.byteCount)
      ∧ ∀ error, (instruction.bytes? = .error error ↔ Demand.Refuses instruction.demands error)
        ∧ (instruction.bytes? = .error error →
          error.fault.category = some .argument
            ∧ (error = .rexWithoutByte ∨ error = .unknownEscape instruction.escape →
              error.fault.kinds = [.invalidOperand])
            ∧ (¬ (error = .rexWithoutByte ∨ error = .unknownEscape instruction.escape) →
              error.fault.kinds = [.fieldOverflow])) := by
  have settles := instruction.settles_bytes?
  refine ⟨?_, fun bytes encodes => ?_, fun error => ⟨settles.eq_error_iff, fun fails => ?_⟩⟩
  · rw [settles.exists_ok_iff, wellFormed_iff]
  · rw [bytes?_eq_ok encodes]
    exact ⟨rfl, instruction.length_written⟩
  · exact told_of_refuses (settles.eq_error_iff.mp fails)

/-- `lock add qword ptr [rax + 4 * rcx + 16], 127`. -/
def scaledAdd : Instruction where
  prefixes := [0xf0]
  emitRex := true
  rex := 8
  opcode := 0x83
  modrm := some { mod := 1, rm := 4, scale := 2, index := 1 }
  disp := [0x10]
  imm := [0x7f]

/-- The same with a base that does not fit, and with an immediate that is too long. -/
def widenedAdd : Instruction where
  prefixes := [0xf0]
  opcode := 0x83
  modrm := some { mod := 1, rm := 4, scale := 2, index := 1, base := 8 }
  imm := List.replicate 15 0

theorem bytes_exact_scaledAdd :
    scaledAdd.bytes? = .ok [0xf0, 0x48, 0x83, 0x44, 0x88, 0x10, 0x7f]
      ∧ scaledAdd.WellFormed ∧ scaledAdd.byteCount = 7
      ∧ Demand.Refuses widenedAdd.demands (.fieldTooWide "base" 8 3)
      ∧ (EncodingError.fieldTooWide "base" 8 3).fault.kinds = [.fieldOverflow]
      ∧ { widenedAdd with modrm := some { mod := 3, base := 8 }, imm := [] }.WellFormed := by
  have encodes : scaledAdd.bytes? = .ok [0xf0, 0x48, 0x83, 0x44, 0x88, 0x10, 0x7f] := rfl
  have fails : widenedAdd.bytes? = .error (.fieldTooWide "base" 8 3) := rfl
  obtain ⟨accepts, written, -⟩ := bytes_exact scaledAdd
  obtain ⟨refused, told⟩ := (bytes_exact widenedAdd).2.2 (.fieldTooWide "base" 8 3)
  refine ⟨encodes, accepts.mp ⟨_, encodes⟩, (written _ encodes).2.symm, refused.mp fails,
    (told fails).2.2 (by simp), ?_⟩
  exact (bytes_exact _).1.mp ⟨_, rfl⟩

end Instruction

end StaticElf
