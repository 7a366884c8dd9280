/-
**Operations do what their actions do.**

A processor splices words with masks; an operation is interpreted by the numbers that registers
hold. Both give the same registers, so that a list does what its normal form does.

* `Machine.Registers.toNat_splice` — a mask that keeps the upper bits, in numbers.
* `Machine.Registers.assign_low` — writing the low part of a register is storing in it.
* `Slot.interpret?_eq`, `interpretAll?_eq` — a list does what its actions do, and only a list that
  has actions does anything.
-/

import StaticElf.Proofs.CodeStream
import StaticElf.Theory.LittleEndian

namespace StaticElf

/-! ### Parts of registers -/

namespace Machine.Registers

/-- The bits of a word from some place on. -/
theorem and_upper {word bits : Nat} (small : bits ≤ 64) (isWord : word < 2 ^ 64) :
    word &&& (2 ^ 64 - 2 ^ bits) = word / 2 ^ bits * 2 ^ bits := by
  have mask : 2 ^ 64 - 2 ^ bits = (2 ^ (64 - bits) - 1) * 2 ^ bits := by
    rw [Nat.sub_mul, ← Nat.pow_add, Nat.sub_add_cancel small, Nat.one_mul]
  apply Nat.eq_of_testBit_eq
  intro i
  rw [Nat.testBit_and, mask, Nat.testBit_mul_two_pow, Nat.testBit_mul_two_pow,
    Nat.testBit_two_pow_sub_one, Nat.testBit_div_two_pow]
  by_cases above : bits ≤ i
  · rw [Nat.sub_add_cancel above]
    by_cases inside : i < 64
    · simp [above, show i - bits < 64 - bits by omega]
    · have beyond : word.testBit i = false :=
        Nat.testBit_lt_two_pow (lt_of_lt_of_le isWord (Nat.pow_le_pow_right (by decide) (by omega)))
      simp [beyond]
  · simp [above]

/-- **A splice in numbers**, for a mask that keeps the bits from some place on. -/
theorem toNat_splice {kept : UInt64} (bits : Nat) (small : bits ≤ 64)
    (mask : kept.toNat = 2 ^ 64 - 2 ^ bits) (old new : UInt64) :
    (splice kept old new).toNat = old.toNat / 2 ^ bits * 2 ^ bits + new.toNat % 2 ^ bits := by
  have positive : 0 < 2 ^ bits := Nat.two_pow_pos bits
  have below : 2 ^ bits ≤ 2 ^ 64 := Nat.pow_le_pow_right (by decide) small
  have complement : (~~~kept).toNat = 2 ^ bits - 1 := by
    rw [UInt64.toNat_not, mask]
    show 2 ^ 64 - 1 - _ = _
    omega
  rw [splice, UInt64.toNat_or, UInt64.toNat_and, UInt64.toNat_and, complement, mask,
    Nat.and_two_pow_sub_one_eq_mod, and_upper small old.toNat_lt, Nat.mul_comm,
    ← Nat.two_pow_add_eq_or_of_lt (Nat.mod_lt _ positive)]

/-- A word that is the number a register holds after a write is what is stored. -/
theorem put_eq_store {registers : Registers} {index : Fin 16} {width : OperandWidth}
    {value word : UInt64}
    (merged : word.toNat = width.merge (registers.get index).toNat value.toNat) :
    registers.put index word = registers.store index width value := by
  rw [store, ← merged, UInt64.ofNat_toNat]

/-- **Writing the low part of a register** is storing the value in it. -/
theorem assign_low (registers : Registers) (index : Fin 16) (width : OperandWidth)
    (value : UInt64) :
    registers.assign (.low index width) (width.cut value) = registers.store index width value := by
  cases width with
  | byte =>
    refine put_eq_store ?_
    rw [toNat_splice 8 (by decide) rfl, OperandWidth.toNat_cut]
    exact congrArg _ (Nat.mod_mod _ _)
  | word =>
    refine put_eq_store ?_
    rw [toNat_splice 16 (by decide) rfl, OperandWidth.toNat_cut]
    exact congrArg _ (Nat.mod_mod _ _)
  | dword =>
    refine put_eq_store ?_
    rw [toNat_splice 32 (by decide) rfl, OperandWidth.toNat_cut]
    exact (Nat.zero_add _).trans (Nat.mod_mod _ _)
  | qword => exact put_eq_store rfl

end Machine.Registers

/-! ### Operations and lists -/

section Interpretation

open Machine

variable (lookup : SymbolLookup) (kernel : Registers → Registers) (progress : Progress)

theorem performAll_load (index : Fin 16) (width : OperandWidth) (value : UInt64) :
    performAll kernel progress [.load (.low index width) (width.cut value)]
      = { progress with registers := progress.registers.store index width value } :=
  congrArg (fun registers => { progress with registers })
    (progress.registers.assign_low index width value)

theorem performAll_syscall (number : UInt32) :
    performAll kernel progress [.load (.low Register.accumulator .dword) number.toUInt64, .trap] =
      let entering := progress.registers.store Register.accumulator .dword number.toUInt64
      { registers := kernel entering, entries := progress.entries ++ [entering] } := by
  have entering := progress.registers.assign_low Register.accumulator .dword number.toUInt64
  rw [OperandWidth.cut_toUInt64] at entering
  dsimp only
  rw [← entering]
  rfl

theorem performAll_append (first later : List Action) :
    performAll kernel progress (first ++ later)
      = performAll kernel (performAll kernel progress first) later :=
  List.foldl_append

/-- **What stands in a list does what its actions do.** -/
theorem Slot.interpret?_eq (slot : Slot) :
    slot.interpret? lookup kernel progress
      = (slot.actions? lookup).map (performAll kernel progress) := by
  cases slot with
  | reference operation => rfl
  | emptyReference form => rfl
  | empty => rfl
  | op operation =>
    unfold interpret? actions?
    cases operation with
    | loadImm register width value =>
      simp only [Op.interpret?, Op.actions?]
      cases register.index? with
      | none => rfl
      | some index =>
        cases width.operand? with
        | none => rfl
        | some operand =>
          exact congrArg some (performAll_load kernel progress index operand value).symm
    | loadSymbol register symbol =>
      simp only [Op.interpret?, Op.actions?]
      cases lookup symbol with
      | none => rfl
      | some address =>
        cases register.index? with
        | none => rfl
        | some index =>
          exact congrArg some (performAll_load kernel progress index .qword address).symm
    | syscall number => exact congrArg some (performAll_syscall kernel progress number.value).symm

/-- **A list does what its normal form does.** -/
theorem interpretAll?_eq (slots : List Slot) :
    interpretAll? lookup kernel progress slots
      = (actionsOf? lookup slots).map (performAll kernel progress) := by
  induction slots generalizing progress with
  | nil => rfl
  | cons slot slots ih =>
    rw [interpretAll?, List.foldlM_cons, Slot.interpret?_eq, actionsOf?_cons]
    cases slot.actions? lookup with
    | none => rfl
    | some first =>
      show interpretAll? lookup kernel (performAll kernel progress first) slots = _
      rw [ih]
      cases actionsOf? lookup slots with
      | none => rfl
      | some later => exact congrArg some (performAll_append kernel progress first later).symm

end Interpretation

end StaticElf
