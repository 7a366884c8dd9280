/-
**Two decoders for the code of programs.**

Programs consist of two forms of instructions, and `Machine.decode` knows no others. The processor that
runs a file knows many more. Where the first decoder reads an instruction, the second reads the same one,
with the same length.

* `Cursor.rest` — what is left to be read; `Decode.byte_of_rest`, `Decode.number_of_rest` say what is read
  of it.
* `Prefixes.Carries`, `Prefixes.exists_read` — the bytes before an opcode mean the same to both.
* `Machine.Action.instruction` — an action as an instruction of the processor.
* `decode_of_decode` — the second decoder reads what the first one does.
-/

import StaticElf.Theory.LittleEndian
import StaticElf.Machine.Decoder
import StaticElf.X86.Decoder

namespace StaticElf.X86

/-! ### Reading bytes and numbers -/

/-- What is left to be read. -/
def Cursor.rest (cursor : Cursor) : Bytes := cursor.bytes.data.toList.drop cursor.place

/-- The cursor behind so many bytes more. -/
def Cursor.skip (cursor : Cursor) (count : Nat) : Cursor :=
  { cursor with place := cursor.place + count }

theorem Cursor.rest_skip (cursor : Cursor) (count : Nat) :
    (cursor.skip count).rest = cursor.rest.drop count := by
  rw [rest, rest, List.drop_drop]
  rfl

theorem Cursor.skip_skip (cursor : Cursor) (first second : Nat) :
    (cursor.skip first).skip second = cursor.skip (first + second) := by
  rw [skip, skip, skip, Nat.add_assoc]

namespace Decode

variable {α β : Type} {cursor after : Cursor}

theorem bind_of_eq {read : Decode α} {next : α → Decode β} {value : α}
    (reads : read cursor = some (value, after)) : (read >>= next) cursor = next value after := by
  show (read cursor).bind _ = _
  rw [reads]
  rfl

theorem getElem?_bytes (cursor : Cursor) : cursor.bytes[cursor.place]? = cursor.rest.head? := by
  rw [Cursor.rest, List.head?_drop]
  exact (Array.getElem?_toList ..).symm

theorem peek_of_rest {next : UInt8} {later : Bytes} (left : cursor.rest = next :: later) :
    peek cursor = some (next, cursor) := by
  rw [peek, getElem?_bytes, left]
  rfl

theorem byte_of_rest {next : UInt8} {later : Bytes} (left : cursor.rest = next :: later) :
    byte cursor = some (next, cursor.skip 1) := by
  rw [byte, getElem?_bytes, left]
  rfl

/-- A byte below a number, as a sum. -/
theorem shiftLeft_or (high : UInt64) (low : UInt8) :
    (high <<< 8) ||| low.toUInt64 = UInt64.ofNat (low.toNat + 256 * high.toNat) := by
  have shifted : (high <<< 8).toNat = 2 ^ 8 * (high.toNat % 2 ^ 56) := by
    rw [UInt64.toNat_shiftLeft]
    show high.toNat <<< 8 % 2 ^ 64 = _
    rw [Nat.shiftLeft_eq]
    omega
  apply UInt64.toNat_inj.mp
  rw [UInt64.toNat_or, shifted, UInt8.toNat_toUInt64, UInt64.toNat_ofNat',
    ← Nat.two_pow_add_eq_or_of_lt low.toNat_lt]
  have small : low.toNat < 2 ^ 8 := low.toNat_lt
  omega

theorem ofNat_add_mul_mod (low high : Nat) :
    UInt64.ofNat (low + 256 * (high % 2 ^ 64)) = UInt64.ofNat (low + 256 * high) := by
  apply UInt64.toNat_inj.mp
  rw [UInt64.toNat_ofNat', UInt64.toNat_ofNat']
  omega

/-- **A number is read as it is written**, the lowest byte first. -/
theorem number_of_rest (width : Nat) (enough : width ≤ cursor.rest.length) :
    number width cursor
      = some (UInt64.ofNat (leValue (cursor.rest.take width)), cursor.skip width) := by
  induction width generalizing cursor with
  | zero => rfl
  | succ width ih =>
    obtain ⟨next, later, left⟩ : ∃ next later, cursor.rest = next :: later := by
      cases left : cursor.rest with
      | nil => simp [left] at enough
      | cons next later => exact ⟨next, later, rfl⟩
    have behind : (cursor.skip 1).rest = later := by rw [Cursor.rest_skip, left]; rfl
    have high := @ih (cursor.skip 1) (by rw [behind]; simpa [left] using enough)
    rw [number, bind_of_eq (byte_of_rest left), bind_of_eq high, behind, left, List.take_succ_cons,
      leValue, Cursor.skip_skip, Nat.add_comm 1 width]
    show some (_, _) = _
    rw [shiftLeft_or, UInt64.toNat_ofNat', ofNat_add_mul_mod]

end Decode

open Decode

/-! ### The bytes before an opcode -/

namespace Prefixes

/-- **What stands before an opcode carries the operand-size byte and the bits of a REX byte**, and nothing
else that matters to the forms of programs. -/
structure Carries (prefixes : Prefixes) (operandSize : Bool) (rex : Option Machine.RexBits) :
    Prop where
  unlocked : prefixes.locked = false
  narrowOperand : prefixes.narrowOperand = operandSize
  bare : prefixes.rex = 0 ↔ rex.isNone
  wide : prefixes.wide = (rex.map (·.wide)).getD false
  extension : prefixes.extension 1 = if (rex.map (·.high)).getD false then 8 else 0

variable {cursor : Cursor} {prefixes more : Prefixes} {next : UInt8} {later : Bytes}

theorem read_stop (most : Nat) (left : cursor.rest = next :: later)
    (opcode : prefixes.add? next = none) :
    read (most + 1) prefixes cursor = some (prefixes, cursor) := by
  rw [read, bind_of_eq (peek_of_rest left), opcode]
  rfl

theorem read_more (most : Nat) (left : cursor.rest = next :: later)
    (before : prefixes.add? next = some more) :
    read (most + 1) prefixes cursor = read most more (cursor.skip 1) := by
  rw [read, bind_of_eq (peek_of_rest left), before]
  exact bind_of_eq (byte_of_rest left)

/-- The opcodes of the forms of programs, and the first byte of a longer one. -/
def IsOpcode (byte : UInt8) : Prop := byte = 0x0f ∨ 0xb0 ≤ byte ∧ byte ≤ 0xbf

/-- The bytes that may stand before an opcode, without those that extend the registers. -/
def plainBytes : List UInt8 :=
  [0x66, 0x67, 0xf0, 0xf2, 0xf3, 0x64, 0x65, 0x26, 0x2e, 0x36, 0x3e]

theorem add?_of_not_plain (prefixes : Prefixes) (other : next ∉ plainBytes) :
    prefixes.add? next
      = if 0x40 ≤ next && next ≤ 0x4f then some { prefixes with rex := next } else none := by
  simp only [plainBytes, List.mem_cons, List.not_mem_nil, or_false, not_or] at other
  simp [add?, other]

theorem add?_of_isOpcode (prefixes : Prefixes) (opcode : IsOpcode next) :
    prefixes.add? next = none := by
  have others : ∀ byte ∈ plainBytes, ¬ IsOpcode byte := by simp [plainBytes, IsOpcode]
  rw [add?_of_not_plain prefixes fun plain => others next plain opcode, if_neg]
  intro rex
  obtain ⟨low, high⟩ : 0x40 ≤ next ∧ next ≤ 0x4f := by simpa using rex
  rcases opcode with rfl | ⟨lower, higher⟩
  · exact absurd low (by decide)
  · exact absurd (UInt8.le_trans lower high) (by decide)

theorem add?_rex (prefixes : Prefixes) (inRange : (0x40 ≤ next && next ≤ 0x4f) = true) :
    prefixes.add? next = some { prefixes with rex := next } := by
  have others : ∀ byte ∈ plainBytes, ¬ (0x40 ≤ byte && byte ≤ 0x4f) = true := by
    simp [plainBytes]
  rw [add?_of_not_plain prefixes fun plain => others next plain inRange, if_pos inRange]

/-- A REX byte before an opcode, or none. -/
theorem exists_read_rex (start : Prefixes) (plain : start.rex = 0) (unlocked : start.locked = false)
    {rest : Bytes} {rex : Option Machine.RexBits} (most : Nat)
    (taken : Machine.takeRex cursor.rest = (rex, next :: rest)) (opcode : IsOpcode next) :
    ∃ prefixes count, read (most + 2) start cursor = some (prefixes, cursor.skip count)
      ∧ prefixes.Carries start.narrowOperand rex ∧ (cursor.skip count).rest = next :: rest := by
  cases left : cursor.rest with
  | nil =>
    rw [left] at taken
    cases taken
  | cons first later =>
    rw [left, Machine.takeRex] at taken
    split at taken
    · next inRange =>
      cases taken
      have behind : (cursor.skip 1).rest = next :: rest := by rw [Cursor.rest_skip, left]; rfl
      refine ⟨{ start with rex := first }, 1, ?_, ⟨unlocked, rfl, ?_, rfl, rfl⟩, behind⟩
      · rw [read_more _ left (add?_rex start inRange)]
        exact read_stop _ behind (add?_of_isOpcode _ opcode)
      · refine iff_of_false ?_ Bool.false_ne_true
        rintro rfl
        exact absurd inRange (by decide)
    · cases taken
      refine ⟨start, 0, read_stop _ left (add?_of_isOpcode _ opcode), ⟨unlocked, rfl, ?_, ?_, ?_⟩,
        left⟩
      · exact iff_of_true plain rfl
      · rw [wide, plain]
        rfl
      · rw [extension, plain]
        rfl

/-- **What stands before an opcode means the same to both decoders.** -/
theorem exists_read {operandSize : Bool} {rex : Option Machine.RexBits} {bytes rest : Bytes}
    (sized : Machine.takeOperandSize cursor.rest = (operandSize, bytes))
    (taken : Machine.takeRex bytes = (rex, next :: rest)) (opcode : IsOpcode next) :
    ∃ prefixes count, read 15 {} cursor = some (prefixes, cursor.skip count)
      ∧ prefixes.Carries operandSize rex ∧ (cursor.skip count).rest = next :: rest := by
  cases left : cursor.rest with
  | nil =>
    rw [left] at sized
    cases sized
    cases taken
  | cons first later =>
    rw [left, Machine.takeOperandSize] at sized
    split at sized
    · next isSize =>
      cases sized
      have behind : (cursor.skip 1).rest = bytes := by rw [Cursor.rest_skip, left]; rfl
      rw [← behind] at taken
      obtain ⟨prefixes, count, reads, carries, rests⟩ :=
        exists_read_rex { narrowOperand := true } rfl rfl 12 taken opcode
      refine ⟨prefixes, 1 + count, ?_, carries, ?_⟩
      · rw [read_more 14 left (by rw [isSize]; rfl), ← Cursor.skip_skip]
        exact reads
      · rw [← Cursor.skip_skip]
        exact rests
    · cases sized
      rw [← left] at taken
      exact exists_read_rex {} rfl rfl 13 taken opcode

section Carries

variable {operandSize : Bool} {rex : Option Machine.RexBits}

theorem Carries.width_eq (carries : prefixes.Carries operandSize rex) :
    prefixes.width = Machine.wordWidth operandSize rex := by
  rw [width, Machine.wordWidth, carries.wide, carries.narrowOperand]

/-- The register of an opcode. -/
theorem Carries.registerOf_eq (carries : prefixes.Carries operandSize rex) (opcode : UInt8) :
    registerOf (opcode.toNat % 8 + prefixes.extension 1)
      = Machine.registerIndex (Machine.opcodeRegister opcode) rex := by
  have small : opcode.toNat % 8 < 8 := Nat.mod_lt _ (by decide)
  rw [carries.extension, registerOf, Machine.registerIndex, Machine.opcodeRegister]
  split
  · exact Fin.ext (Nat.mod_eq_of_lt (by omega))
  · exact Fin.ext (Nat.mod_eq_of_lt (by omega))

end Carries

end Prefixes

end StaticElf.X86

namespace StaticElf.Machine

/-! ### Actions as instructions -/

/-- The operand that a destination is. -/
def Destination.operand : Destination → X86.Operand
  | .low index _ => .register index
  | .secondByte index => .secondByte index

/-- The width with which a destination is written. -/
def Destination.width : Destination → OperandWidth
  | .low _ width => width
  | .secondByte _ => .byte

/-- **An action as an instruction.** -/
def Action.instruction : Action → X86.Instruction
  | .load destination value => .move destination.width destination.operand (.immediate value)
  | .trap => .systemCall

end StaticElf.Machine

namespace StaticElf.X86

open Decode

/-! ### Opcodes -/

section Opcodes

variable {cursor : Cursor} {prefixes : Prefixes} {operandSize : Bool}
  {rex : Option Machine.RexBits}

/-- A register of bytes: without a REX byte, four of them are second bytes. -/
theorem Prefixes.Carries.operand_eq (carries : prefixes.Carries operandSize rex) (opcode : UInt8) :
    prefixes.operand .byte (registerOf (opcode.toNat % 8 + prefixes.extension 1))
        = (Machine.byteDestination (Machine.opcodeRegister opcode) rex).operand
      ∧ (Machine.byteDestination (Machine.opcodeRegister opcode) rex).width = .byte := by
  rw [carries.registerOf_eq]
  generalize Machine.opcodeRegister opcode = low
  cases rex with
  | some bits =>
    have notBare : prefixes.rex ≠ 0 := fun zero => Bool.false_ne_true (carries.bare.mp zero)
    rw [operand, dif_neg fun bare => notBare bare.2.1, Machine.byteDestination,
      dif_neg fun none => Bool.false_ne_true none.1]
    exact ⟨rfl, rfl⟩
  | none =>
    have bare : prefixes.rex = 0 := carries.bare.mpr rfl
    have index : (Machine.registerIndex low none).val = low.val := rfl
    by_cases high : 4 ≤ low.val
    · rw [operand, dif_pos ⟨rfl, bare, high, low.isLt⟩, Machine.byteDestination, dif_pos ⟨rfl, high⟩]
      exact ⟨rfl, rfl⟩
    · rw [operand, dif_neg fun second => high second.2.2.1, Machine.byteDestination,
        dif_neg fun second => high second.2]
      exact ⟨rfl, rfl⟩

theorem number_of_takeNumber {width : Nat} {value : UInt64} {rest : Bytes}
    (taken : Machine.takeNumber width cursor.rest = some (value, rest)) :
    number width cursor = some (value, cursor.skip width)
      ∧ width + rest.length = cursor.rest.length := by
  rw [Machine.takeNumber] at taken
  split at taken
  · cases taken
  · next long =>
    cases taken
    refine ⟨number_of_rest width (by omega), ?_⟩
    rw [List.length_drop]
    omega

theorem moveNumber_byte (carries : prefixes.Carries operandSize rex) {opcode : UInt8}
    (narrow : opcode ≤ 0xb7) {value : UInt64} {rest : Bytes}
    (taken : Machine.takeNumber 1 cursor.rest = some (value, rest)) :
    moveNumber prefixes opcode.toNat cursor
      = some ((Machine.Action.load (Machine.byteDestination (Machine.opcodeRegister opcode) rex)
          value).instruction, cursor.skip 1) := by
  obtain ⟨operand, width⟩ := carries.operand_eq opcode
  have small : opcode.toNat < 0xb8 := Nat.lt_succ_of_le (UInt8.le_iff_toNat_le.mp narrow)
  rw [moveNumber, if_pos small, bind_of_eq (number_of_takeNumber taken).1, operand,
    Machine.Action.instruction, width]
  rfl

theorem moveNumber_wide (carries : prefixes.Carries operandSize rex) {opcode : UInt8}
    (wide : 0xb8 ≤ opcode) {value : UInt64} {rest : Bytes}
    (taken : Machine.takeNumber (Machine.wordWidth operandSize rex).bytes cursor.rest
      = some (value, rest)) :
    moveNumber prefixes opcode.toNat cursor
      = some ((Machine.Action.load (.low (Machine.registerIndex (Machine.opcodeRegister opcode) rex)
            (Machine.wordWidth operandSize rex)) value).instruction,
          cursor.skip (Machine.wordWidth operandSize rex).bytes) := by
  have large : ¬ opcode.toNat < 0xb8 := Nat.not_lt.mpr (UInt8.le_iff_toNat_le.mp wide)
  rw [moveNumber, if_neg large, carries.width_eq, carries.registerOf_eq,
    bind_of_eq (number_of_takeNumber taken).1]
  rfl

theorem secondOpcode_trap (prefixes : Prefixes) {rest : Bytes} (left : cursor.rest = 0x05 :: rest) :
    secondOpcode prefixes cursor = some (.systemCall, cursor.skip 1) := by
  rw [secondOpcode, bind_of_eq (byte_of_rest left)]
  rfl

end Opcodes

/-! ### Instructions -/

section Instructions

variable {cursor : Cursor} {opcode : UInt8} {later rest : Bytes}

/-- An instruction is read by its opcode, behind what stands before that, and so are all its bytes. -/
theorem instruction_of_byOpcode {prefixes : Prefixes} {decoded : Instruction} {count width : Nat}
    (reads : Prefixes.read 15 {} cursor = some (prefixes, cursor.skip count))
    (unlocked : prefixes.locked = false) (left : (cursor.skip count).rest = opcode :: later)
    (continues : byOpcode prefixes opcode.toNat ((cursor.skip count).skip 1)
      = some (decoded, ((cursor.skip count).skip 1).skip width))
    (length : width + rest.length = later.length) :
    ∃ count, instruction cursor = some (decoded, cursor.skip count)
      ∧ count + rest.length = cursor.rest.length := by
  refine ⟨count + (1 + width), ?_, ?_⟩
  · rw [instruction, bind_of_eq reads, bind_of_eq (byte_of_rest left), bind_of_eq continues,
      unlocked, Cursor.skip_skip, Cursor.skip_skip]
    rfl
  · have whole := congrArg List.length left
    rw [Cursor.rest_skip, List.length_drop, List.length_cons] at whole
    omega

theorem byOpcode_move (prefixes : Prefixes) (low : 0xb0 ≤ opcode) (high : opcode ≤ 0xbf) :
    byOpcode prefixes opcode.toNat = moveNumber prefixes opcode.toNat := by
  have low : 0xb0 ≤ opcode.toNat := UInt8.le_iff_toNat_le.mp low
  have high : opcode.toNat ≤ 0xbf := UInt8.le_iff_toNat_le.mp high
  rw [byOpcode, if_neg (by omega), if_neg (by omega), if_neg (by omega), if_neg (by omega),
    if_pos (by omega)]

/-- A number that is moved is read behind what stands before its opcode. -/
theorem instruction_of_moveNumber {operandSize : Bool} {rex : Option Machine.RexBits} {bytes : Bytes}
    {width : Nat} {value : UInt64} {decoded : Instruction}
    (sized : Machine.takeOperandSize cursor.rest = (operandSize, bytes))
    (taken : Machine.takeRex bytes = (rex, opcode :: later))
    (low : 0xb0 ≤ opcode) (high : opcode ≤ 0xbf)
    (number : Machine.takeNumber width later = some (value, rest))
    (moves : ∀ {before : Cursor} {prefixes : Prefixes}, prefixes.Carries operandSize rex →
      Machine.takeNumber width before.rest = some (value, rest) →
      moveNumber prefixes opcode.toNat before = some (decoded, before.skip width)) :
    ∃ count, instruction cursor = some (decoded, cursor.skip count)
      ∧ count + rest.length = cursor.rest.length := by
  obtain ⟨prefixes, count, reads, carries, left⟩ :=
    Prefixes.exists_read sized taken (.inr ⟨low, high⟩)
  have behind : ((cursor.skip count).skip 1).rest = later := by
    rw [Cursor.rest_skip, left]
    rfl
  rw [← behind] at number
  refine instruction_of_byOpcode reads carries.unlocked left ?_
    (behind ▸ (number_of_takeNumber number).2)
  rw [byOpcode_move prefixes low high]
  exact moves carries number

/-- **Where the first decoder reads an action, the second reads its instruction**, of the same bytes. -/
theorem instruction_of_decode {action : Machine.Action}
    (decodes : Machine.decode cursor.rest = some (action, rest)) :
    ∃ count, instruction cursor = some (action.instruction, cursor.skip count)
      ∧ count + rest.length = cursor.rest.length := by
  unfold Machine.decode at decodes
  rcases sized : Machine.takeOperandSize cursor.rest with ⟨operandSize, bytes⟩
  rcases taken : Machine.takeRex bytes with ⟨rex, left⟩
  rw [sized] at decodes
  dsimp only at decodes
  rw [taken] at decodes
  cases left with
  | nil => cases decodes
  | cons opcode later =>
    dsimp only at decodes
    split at decodes
    · next narrow =>
      obtain ⟨low, high⟩ : 0xb0 ≤ opcode ∧ opcode ≤ 0xb7 := by simpa using narrow
      obtain ⟨⟨value, behind⟩, number, same⟩ := Option.map_eq_some_iff.mp decodes
      cases same
      exact instruction_of_moveNumber sized taken low (UInt8.le_trans high (by decide)) number
        fun carries number => moveNumber_byte carries high number
    · split at decodes
      · next wide =>
        obtain ⟨low, high⟩ : 0xb8 ≤ opcode ∧ opcode ≤ 0xbf := by simpa using wide
        obtain ⟨⟨value, behind⟩, number, same⟩ := Option.map_eq_some_iff.mp decodes
        cases same
        exact instruction_of_moveNumber sized taken (UInt8.le_trans (by decide) low) high number
          fun carries number => moveNumber_wide carries low number
      · split at decodes
        · next trap =>
          obtain ⟨rfl, second⟩ : opcode = 0x0f ∧ later.head? = some 0x05 := by simpa using trap
          obtain ⟨tail, rfl⟩ := List.head?_eq_some_iff.mp second
          cases decodes
          obtain ⟨prefixes, count, reads, carries, left⟩ :=
            Prefixes.exists_read sized taken (.inl rfl)
          have behind : ((cursor.skip count).skip 1).rest = 0x05 :: tail := by
            rw [Cursor.rest_skip, left]
            rfl
          exact instruction_of_byOpcode reads carries.unlocked left
            (secondOpcode_trap prefixes behind) (Nat.add_comm _ _)
        · cases decodes

end Instructions

/-- **The processor that runs a file reads the code of programs** as the decoder does that knows nothing
else. -/
theorem decode_of_decode {window : ByteArray} {action : Machine.Action} {rest : Bytes}
    (decodes : Machine.decode window.data.toList = some (action, rest)) :
    decode window = some (action.instruction, window.size - rest.length) := by
  obtain ⟨count, reads, length⟩ := @instruction_of_decode ⟨window, 0⟩ rest action decodes
  have size : count + rest.length = window.size := length
  have read : count = window.size - rest.length := by omega
  rw [decode, reads, ← read, Cursor.skip]
  dsimp only
  rw [Nat.zero_add]

end StaticElf.X86
