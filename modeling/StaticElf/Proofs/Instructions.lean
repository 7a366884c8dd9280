/-
**The machine code of one action, and how it decodes.**

A `mov` is a head (operand-size byte, REX byte, opcode) and an immediate of its width; a trap is two
bytes. What is encoded here is decoded by `Machine.decode`, which knows nothing of the encoder.

* `Width.eq_of_le`, `Width.operand?_eq_none_iff` — the codes that denote a width.
* `Instruction.bytes?_mov` — the bytes of a `mov` are its head and its immediate.
* `Machine.decode_movHead` — the head of a `mov` decodes to its register and width: the bare REX
  byte keeps `spl` to `dil` apart from `ah` to `bh`.
* `OperandWidth.toNat_cut` — a value cut to a width is the value modulo the range of the width.
* `Machine.decode_code` — the code of an action decodes to the action, whatever follows.
* `Machine.decodeAll_codeOf` — a stream of actions decodes to exactly these actions.
-/

import StaticElf.Theory.LittleEndian
import StaticElf.Machine.Meaning

namespace StaticElf

/-! ### Registers and operand widths -/

theorem Width.eq_of_le {width : Width} (small : width.code.toNat ≤ 3) :
    width = .byte ∨ width = .word ∨ width = .dword ∨ width = .qword := by
  have known (code : UInt8) (same : width.code.toNat = code.toNat) : width = ⟨code⟩ :=
    congrArg Width.mk (UInt8.toNat_inj.mp same)
  have codes : width.code.toNat = 0 ∨ width.code.toNat = 1 ∨ width.code.toNat = 2
      ∨ width.code.toNat = 3 := by omega
  rcases codes with code | code | code | code
  · exact .inl (known 0 code)
  · exact .inr (.inl (known 1 code))
  · exact .inr (.inr (.inl (known 2 code)))
  · exact .inr (.inr (.inr (known 3 code)))

theorem Width.operand?_eq_none_iff {width : Width} :
    width.operand? = none ↔ ¬ width.code.toNat ≤ 3 := by
  constructor
  · intro unknown small
    rcases Width.eq_of_le small with rfl | rfl | rfl | rfl
    all_goals cases unknown
  · intro large
    unfold Width.operand?
    split
    · omega
    · omega
    · omega
    · omega
    · rfl

theorem Width.le_of_operand? {width : Width} {operand : OperandWidth}
    (known : width.operand? = some operand) : width.code.toNat ≤ 3 := by
  by_contra large
  rw [Width.operand?_eq_none_iff.mpr large] at known
  cases known

theorem Register.exists_index {register : Register} (valid : register.valid = true) :
    ∃ target, register.index? = some target := by
  have small : register.ordinal.toNat < 16 := UInt8.lt_iff_toNat_lt.mp (of_decide_eq_true valid)
  exact ⟨⟨register.ordinal.toNat, small⟩, dif_pos small⟩

theorem Width.exists_operand {width : Width} (valid : width.valid = true) :
    ∃ operand, width.operand? = some operand := by
  have small : width.code.toNat ≤ 3 := UInt8.le_iff_toNat_le.mp (of_decide_eq_true valid)
  rcases Width.eq_of_le small with rfl | rfl | rfl | rfl
  all_goals exact ⟨_, rfl⟩

/-! ### The bytes of a `mov` -/

namespace Instruction

/-- The REX byte of a `mov`, if it has one. -/
def movRexBytes (target : Fin 16) (width : OperandWidth) : Bytes :=
  if movNeedsRex target width then [Rex.byte (movRex target width)] else []

/-- The opcode of a `mov` with its register. -/
def movOpcodeByte (target : Fin 16) (width : OperandWidth) : UInt8 :=
  movOpcode width + UInt8.ofNat (target.val % 8)

/-- The bytes of a `mov` in front of its immediate. -/
def movHead (target : Fin 16) (width : OperandWidth) : Bytes :=
  (if width = .word then [operandSizeByte] else [])
    ++ (movRexBytes target width ++ [movOpcodeByte target width])

theorem movRex_le (target : Fin 16) (width : OperandWidth) : ¬ movRex target width > 0x0f := by
  cases width <;> revert target <;> decide

theorem movRex_eq_zero {target : Fin 16} {width : OperandWidth}
    (plain : movNeedsRex target width = false) : movRex target width = 0 := by
  revert plain
  cases width <;> revert target <;> decide

theorem rexBytes?_mov (target : Fin 16) (width : OperandWidth) (value : UInt64) :
    (mov target width value).rexBytes? = .ok (movRexBytes target width) := by
  unfold rexBytes? mov movRexBytes
  by_cases needed : movNeedsRex target width
  · simp only [needed, if_true, if_neg (movRex_le target width)]
  · have plain : movNeedsRex target width = false := by simpa using needed
    simp [plain, movRex_eq_zero plain]

theorem length_movHead_le (target : Fin 16) (width : OperandWidth) :
    (movHead target width).length ≤ 3 := by
  cases width <;> revert target <;> decide

/-- The parts of an instruction in order are its bytes, if each part has some and they are not too
many. -/
theorem bytes?_of_parts {instruction : Instruction} {rex escape modrm : Bytes}
    (rexOk : instruction.rexBytes? = .ok rex)
    (escapeOk : escapeBytes? instruction.escape = .ok escape)
    (modrmOk : instruction.modrmBytes? = .ok modrm)
    (short : (instruction.prefixes ++ rex ++ escape ++ [instruction.opcode] ++ modrm
      ++ instruction.disp ++ instruction.imm).length ≤ maxLength) :
    instruction.bytes? = .ok (instruction.prefixes ++ rex ++ escape ++ [instruction.opcode] ++ modrm
      ++ instruction.disp ++ instruction.imm) := by
  unfold bytes?
  rw [rexOk, escapeOk, modrmOk]
  show (if _ then _ else _) = _
  rw [if_neg (Nat.not_lt.mpr short)]
  rfl

/-- **The bytes of a `mov`** are its head and its immediate. -/
theorem bytes?_mov (target : Fin 16) (width : OperandWidth) (value : UInt64) :
    (mov target width value).bytes?
      = .ok (movHead target width ++ immediateBytes value width.bytes) := by
  have parts : (mov target width value).prefixes ++ movRexBytes target width ++ []
      ++ [(mov target width value).opcode] ++ [] ++ (mov target width value).disp
      ++ (mov target width value).imm
        = movHead target width ++ immediateBytes value width.bytes := by
    simp [mov, movHead, movOpcodeByte]
  have short : (movHead target width ++ immediateBytes value width.bytes).length ≤ maxLength := by
    have head := length_movHead_le target width
    have number : width.bytes ≤ 8 := by cases width <;> decide
    simp only [List.length_append, immediateBytes, length_leBytes, maxLength]
    omega
  rw [← parts] at short ⊢
  exact bytes?_of_parts (rexBytes?_mov target width value) rfl rfl short

end Instruction

/-! ### Decoding the head of a `mov` -/

namespace Machine

open Instruction

/-- The REX bits that the head of a `mov` carries. -/
def movRexBits (target : Fin 16) (width : OperandWidth) : Option RexBits :=
  if movNeedsRex target width then some ⟨decide (width = .qword), decide (8 ≤ target.val)⟩
  else none

/-- Only a word has the operand-size byte: no REX byte and no opcode of `mov` looks like it. -/
theorem takeOperandSize_movHead (target : Fin 16) (width : OperandWidth) (tail : Bytes) :
    takeOperandSize (movHead target width ++ tail)
      = (decide (width = .word),
          movRexBytes target width ++ movOpcodeByte target width :: tail) := by
  by_cases word : width = .word
  · simp [movHead, word, takeOperandSize, operandSizeByte]
  · have other : Rex.byte (movRex target width) ≠ 0x66 ∧ movOpcodeByte target width ≠ 0x66 := by
      clear word tail
      cases width <;> revert target <;> decide
    by_cases needed : movNeedsRex target width
    · simp [movHead, movRexBytes, word, needed, takeOperandSize, other]
    · simp [movHead, movRexBytes, word, needed, takeOperandSize, other]

/-- No opcode of `mov` looks like a REX byte, and a REX byte gives its bits back. -/
theorem takeRex_movRexBytes (target : Fin 16) (width : OperandWidth) (tail : Bytes) :
    takeRex (movRexBytes target width ++ movOpcodeByte target width :: tail)
      = (movRexBits target width, movOpcodeByte target width :: tail) := by
  by_cases needed : movNeedsRex target width
  · have carried : (0x40 ≤ Rex.byte (movRex target width) && Rex.byte (movRex target width) ≤ 0x4f)
        ∧ (Rex.byte (movRex target width) &&& 8 != 0) = decide (width = .qword)
        ∧ (Rex.byte (movRex target width) &&& 1 != 0) = decide (8 ≤ target.val) := by
      clear needed tail
      cases width <;> revert target <;> decide
    simp [movRexBytes, movRexBits, needed, takeRex, carried]
  · have outside : (0x40 ≤ movOpcodeByte target width
        && movOpcodeByte target width ≤ 0x4f) = false := by
      clear needed tail
      cases width <;> revert target <;> decide
    simp [movRexBytes, movRexBits, needed, takeRex, outside]

theorem movOpcodeByte_byte (target : Fin 16) :
    (0xb0 ≤ movOpcodeByte target .byte && movOpcodeByte target .byte ≤ 0xb7) = true := by
  revert target
  decide

theorem movOpcodeByte_wide (target : Fin 16) {width : OperandWidth} (wide : width ≠ .byte) :
    (0xb0 ≤ movOpcodeByte target width && movOpcodeByte target width ≤ 0xb7) = false
      ∧ (0xb8 ≤ movOpcodeByte target width && movOpcodeByte target width ≤ 0xbf) = true := by
  revert wide
  cases width <;> revert target <;> decide

/-- A byte register is the low byte of its register: where the opcode alone would mean a second
byte there is a REX byte. -/
theorem byteDestination_mov (target : Fin 16) :
    byteDestination (opcodeRegister (movOpcodeByte target .byte)) (movRexBits target .byte)
      = .low target .byte := by
  revert target
  decide

theorem wordWidth_mov {target : Fin 16} {width : OperandWidth} (wide : width ≠ .byte) :
    wordWidth (decide (width = .word)) (movRexBits target width) = width := by
  revert wide
  cases width <;> revert target <;> decide

theorem registerIndex_mov (target : Fin 16) (width : OperandWidth) :
    registerIndex (opcodeRegister (movOpcodeByte target width)) (movRexBits target width)
      = target := by
  cases width <;> revert target <;> decide

/-- **The head of a `mov` decodes** to its register and its width, whatever follows. -/
theorem decode_movHead (target : Fin 16) (width : OperandWidth) (tail : Bytes) :
    decode (movHead target width ++ tail)
      = (takeNumber width.bytes tail).map fun (value, rest) =>
          (.load (.low target width) value, rest) := by
  unfold decode
  rw [takeOperandSize_movHead]
  simp only [takeRex_movRexBytes]
  by_cases byte : width = .byte
  · subst byte
    simp only [movOpcodeByte_byte, if_true, byteDestination_mov]
    rfl
  · obtain ⟨notByte, wide⟩ := movOpcodeByte_wide target byte
    simp only [notByte, wide, wordWidth_mov byte, registerIndex_mov]
    rfl

end Machine

/-! ### Immediates -/

/-- **A value cut to a width** is the value modulo the range of the width. -/
theorem OperandWidth.toNat_cut (width : OperandWidth) (value : UInt64) :
    (width.cut value).toNat = value.toNat % 2 ^ width.bits := by
  cases width with
  | byte => simp [cut, bits, bytes]
  | word => simp [cut, bits, bytes]
  | dword => simp [cut, bits, bytes]
  | qword => exact (Nat.mod_eq_of_lt value.toNat_lt).symm

theorem OperandWidth.cut_cut (width : OperandWidth) (value : UInt64) :
    width.cut (width.cut value) = width.cut value := by
  apply UInt64.toNat_inj.mp
  rw [toNat_cut, toNat_cut, Nat.mod_mod]

theorem OperandWidth.range_eq (width : OperandWidth) : 256 ^ width.bytes = 2 ^ width.bits := by
  rw [bits, Nat.pow_mul]

theorem OperandWidth.cut_toUInt64 (value : UInt32) :
    OperandWidth.cut .dword value.toUInt64 = value.toUInt64 := by
  simp [OperandWidth.cut]

/-- The bytes of a number do not show what is above them. -/
theorem leBytes_mod (width value : Nat) :
    leBytes width (value % 256 ^ width) = leBytes width value := by
  have bytes := leBytes_leValue (leBytes width value)
  rwa [length_leBytes, leValue_leBytes] at bytes

theorem immediateBytes_cut (width : OperandWidth) (value : UInt64) :
    immediateBytes (width.cut value) width.bytes = immediateBytes value width.bytes := by
  unfold immediateBytes
  rw [OperandWidth.toNat_cut, ← OperandWidth.range_eq, leBytes_mod]

/-- An immediate is read back cut to its width. -/
theorem takeNumber_immediateBytes (width : OperandWidth) (value : UInt64) (rest : Bytes) :
    Machine.takeNumber width.bytes (immediateBytes value width.bytes ++ rest)
      = some (width.cut value, rest) := by
  have length : (immediateBytes value width.bytes).length = width.bytes := length_leBytes ..
  have number : UInt64.ofNat (leValue (immediateBytes value width.bytes)) = width.cut value := by
    apply UInt64.toNat_inj.mp
    rw [immediateBytes, leValue_leBytes, OperandWidth.range_eq, ← OperandWidth.toNat_cut]
    simp
  have long : ¬ (immediateBytes value width.bytes ++ rest).length < width.bytes := by
    rw [List.length_append, length]
    omega
  unfold Machine.takeNumber
  rw [if_neg long, List.take_left' length, List.drop_left' length, number]

/-! ### Actions and their code -/

namespace Machine

open Instruction

/-- The code that an action has in a program. Second bytes of registers are never written there. -/
def Action.code : Action → Bytes
  | .load (.low index width) value => movHead index width ++ immediateBytes value width.bytes
  | .load (.secondByte _) _ => []
  | .trap => [0x0f, 0x05]

/-- The actions that programs consist of: loads of low parts with values of their width, and
traps. -/
def Action.Plain : Action → Prop
  | .load (.low _ width) value => width.cut value = value
  | .load (.secondByte _) _ => False
  | .trap => True

/-- **The code of an action decodes to the action**, whatever follows. -/
theorem decode_code {action : Action} (plain : action.Plain) (rest : Bytes) :
    decode (action.code ++ rest) = some (action, rest) := by
  cases action with
  | trap => rfl
  | load destination value =>
    cases destination with
    | secondByte index => exact plain.elim
    | low index width =>
      have whole : width.cut value = value := plain
      rw [Action.code, List.append_assoc, decode_movHead, takeNumber_immediateBytes, whole]
      rfl

theorem length_code_pos {action : Action} (plain : action.Plain) : 0 < action.code.length := by
  cases action with
  | trap => exact Nat.zero_lt_two
  | load destination value =>
    cases destination with
    | secondByte index => exact plain.elim
    | low index width => simp [Action.code, movHead]

theorem length_code_le (action : Action) : action.code.length ≤ maxInstruction := by
  cases action with
  | trap => decide
  | load destination value =>
    cases destination with
    | secondByte index => exact Nat.zero_le _
    | low index width =>
      have head := length_movHead_le index width
      have number : width.bytes ≤ 8 := by cases width <;> decide
      simp only [Action.code, List.length_append, immediateBytes, length_leBytes, maxInstruction]
      omega

/-- The code of actions, one after the other. -/
def codeOf (actions : List Action) : Bytes := actions.flatMap Action.code

@[simp] theorem codeOf_nil : codeOf [] = [] := rfl

@[simp] theorem codeOf_cons (action : Action) (actions : List Action) :
    codeOf (action :: actions) = action.code ++ codeOf actions := rfl

@[simp] theorem codeOf_append (first second : List Action) :
    codeOf (first ++ second) = codeOf first ++ codeOf second := List.flatMap_append

theorem decodeAll_of_decode {bytes rest : Bytes} {action : Action}
    (decodes : decode bytes = some (action, rest)) (shorter : rest.length < bytes.length) :
    decodeAll bytes = (decodeAll rest).map (action :: ·) := by
  have notEmpty : bytes.isEmpty = false := by
    cases bytes with
    | nil => simp at shorter
    | cons byte bytes => rfl
  rw [decodeAll, notEmpty, decodes]
  simp [shorter]

/-- **A stream of actions decodes to the actions**: every byte is read, and each only once. -/
theorem decodeAll_codeOf {actions : List Action} (plain : ∀ action ∈ actions, action.Plain) :
    decodeAll (codeOf actions) = some actions := by
  induction actions with
  | nil =>
    rw [codeOf_nil, decodeAll]
    rfl
  | cons action actions ih =>
    have here : action.Plain := plain action List.mem_cons_self
    have later := ih fun other member => plain other (List.mem_cons_of_mem _ member)
    have shorter : (codeOf actions).length < (action.code ++ codeOf actions).length := by
      have := length_code_pos here
      rw [List.length_append]
      omega
    rw [codeOf_cons, decodeAll_of_decode (decode_code here _) shorter, later]
    rfl

end Machine

end StaticElf
