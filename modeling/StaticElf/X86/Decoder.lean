/-
**Decoding instructions of x86-64 processors.**

* `Prefixes` — what stands before an opcode.
* `Form` — a register and a place, which is a register or in memory, as the byte behind an opcode says.
* `decode` — the first instruction of some bytes, and its length.
-/

import StaticElf.X86.Instruction

namespace StaticElf.X86

/-- The bytes of an instruction, and how many of them were read. -/
structure Cursor where
  bytes : ByteArray
  place : Nat := 0

/-- Reading an instruction; nothing comes of it when there are too few bytes. -/
abbrev Decode := StateT Cursor Option

namespace Decode

/-- The next byte. -/
def byte : Decode UInt8 := fun cursor =>
  match cursor.bytes[cursor.place]? with
  | some byte => some (byte, { cursor with place := cursor.place + 1 })
  | none => none

/-- The next byte, which is not read yet. -/
def peek : Decode UInt8 := fun cursor => cursor.bytes[cursor.place]?.map (·, cursor)

/-- A number of some bytes. -/
def number : (width : Nat) → Decode UInt64
  | 0 => return 0
  | width + 1 => do
    let low ← byte
    let high ← number width
    return (high <<< 8) ||| low.toUInt64

/-- A number with its sign in all higher bits. -/
def extended (width : Nat) (value : UInt64) : UInt64 :=
  let sign : UInt64 := 1 <<< UInt64.ofNat (8 * width - 1)
  if 8 ≤ width then value else (value ^^^ sign) - sign

/-- A number of some bytes, with its sign. -/
def signed (width : Nat) : Decode UInt64 := extended width <$> number width

end Decode

open Decode

/-- What stands before an opcode. -/
structure Prefixes where
  narrowOperand : Bool := false
  narrowAddress : Bool := false
  whileEqual : Bool := false
  whileDifferent : Bool := false
  locked : Bool := false
  segment : Segment := .flat
  /-- The byte that extends the registers, zero if there is none. -/
  rex : UInt8 := 0
  deriving DecidableEq, Repr

namespace Prefixes

/-- A byte that stands before an opcode. One that extends the registers only counts right before it. -/
def add? (prefixes : Prefixes) (byte : UInt8) : Option Prefixes :=
  let prefixes := { prefixes with rex := 0 }
  if byte = 0x66 then some { prefixes with narrowOperand := true }
  else if byte = 0x67 then some { prefixes with narrowAddress := true }
  else if byte = 0xf0 then some { prefixes with locked := true }
  else if byte = 0xf2 then some { prefixes with whileDifferent := true, whileEqual := false }
  else if byte = 0xf3 then some { prefixes with whileEqual := true, whileDifferent := false }
  else if byte = 0x64 then some { prefixes with segment := .fs }
  else if byte = 0x65 then some { prefixes with segment := .gs }
  else if byte = 0x26 || byte = 0x2e || byte = 0x36 || byte = 0x3e then some prefixes
  else if 0x40 ≤ byte && byte ≤ 0x4f then some { prefixes with rex := byte }
  else none

/-- Reads all that stands before an opcode. -/
def read : (most : Nat) → Prefixes → Decode Prefixes
  | 0, prefixes => return prefixes
  | most + 1, prefixes => do
    match prefixes.add? (← peek) with
    | none => return prefixes
    | some more =>
      let _ ← byte
      read most more

/-- A bit of the byte that extends the registers, as eight or nothing. -/
def extension (prefixes : Prefixes) (bit : UInt8) : Nat :=
  if prefixes.rex &&& bit != 0 then 8 else 0

/-- Whether operands have 64 bits. -/
def wide (prefixes : Prefixes) : Bool := prefixes.rex &&& 8 != 0

/-- The width of operands that are no bytes. -/
def width (prefixes : Prefixes) : OperandWidth :=
  if prefixes.wide then .qword else if prefixes.narrowOperand then .word else .dword

/-- The width of what is put on the stack. -/
def stackWidth (prefixes : Prefixes) : OperandWidth :=
  if prefixes.narrowOperand && !prefixes.wide then .word else .qword

/-- The width that the lowest bit of an opcode asks for. -/
def widthOf (prefixes : Prefixes) (opcode : Nat) : OperandWidth :=
  if opcode % 2 = 0 then .byte else prefixes.width

/-- A register as an operand: without an extending byte, four of the byte registers are second bytes. -/
def operand (prefixes : Prefixes) (width : OperandWidth) (index : Fin 16) : Operand :=
  if high : width = .byte ∧ prefixes.rex = 0 ∧ 4 ≤ index.val ∧ index.val < 8 then
    .secondByte ⟨index.val - 4, by omega⟩
  else .register index

/-- Whether an operation is to be repeated. -/
def repeats (prefixes : Prefixes) : Bool := prefixes.whileEqual || prefixes.whileDifferent

/-- How often a string operation is done. -/
def repetition (prefixes : Prefixes) : Repetition :=
  if prefixes.whileEqual then .whileEqual
  else if prefixes.whileDifferent then .whileDifferent
  else .once

end Prefixes

/-- A register and a place. -/
structure Form where
  register : Fin 16
  /-- The register as it is written, without its extension. -/
  digit : Nat
  place : Fin 16 ⊕ Address

namespace Form

/-- Reads the displacement of a place in memory. -/
def displacement (mode : Nat) : Decode UInt64 :=
  if mode = 1 then signed 1 else if mode = 2 then signed 4 else return 0

/-- Reads a place in memory. -/
def address (prefixes : Prefixes) (mode low : Nat) : Decode Address := do
  let place : Address := { segment := prefixes.segment, narrow := prefixes.narrowAddress }
  if low = 4 then
    let byte := (← byte).toNat
    let index := byte / 8 % 8 + prefixes.extension 2
    let base := byte % 8
    let place := { place with
      index := if index = 4 then none else some (registerOf index)
      scale := UInt64.ofNat (byte / 64) }
    if base = 5 && mode = 0 then return { place with displacement := ← signed 4 }
    else return { place with
      base := some (registerOf (base + prefixes.extension 1))
      displacement := ← displacement mode }
  else if low = 5 && mode = 0 then return { place with displacement := ← signed 4, fromNext := true }
  else return { place with
    base := some (registerOf (low + prefixes.extension 1))
    displacement := ← displacement mode }

/-- Reads a register and a place. -/
def read (prefixes : Prefixes) : Decode Form := do
  let byte := (← byte).toNat
  let mode := byte / 64
  let digit := byte / 8 % 8
  let register := registerOf (digit + prefixes.extension 4)
  if mode = 3 then
    return { register, digit, place := .inl (registerOf (byte % 8 + prefixes.extension 1)) }
  else return { register, digit, place := .inr (← address prefixes mode (byte % 8)) }

/-- The place as an operand. -/
def operand (form : Form) (prefixes : Prefixes) (width : OperandWidth) : Operand :=
  match form.place with
  | .inl register => prefixes.operand width register
  | .inr address => .memory address

/-- The place as a vector. -/
def vector (form : Form) : VectorOperand :=
  match form.place with
  | .inl register => .register register
  | .inr address => .memory address

/-- Whether the place is in memory. -/
def inMemory (form : Form) : Bool := form.place.isRight

end Form

/-! ### Groups of instructions -/

/-- The operations on two numbers, by their digit. -/
def arithmeticOf (digit : Nat) : Arithmetic :=
  ([.add, .or, .addCarry, .subBorrow, .and, .sub, .xor, .compare] : List Arithmetic).getD digit .add

/-- The operations that shift, by their digit. -/
def shiftOf (digit : Nat) : Shift :=
  ([.rotateLeft, .rotateRight, .rotateLeftCarry, .rotateRightCarry, .left, .right, .left,
    .rightSigned] : List Shift).getD digit .left

/-- An immediate of the given width; one of 64 bits is written with 32. -/
def immediate (width : OperandWidth) : Decode Operand :=
  .immediate <$> signed (min width.bytes 4)

/-- The operations on two numbers with their own opcodes. -/
def arithmeticForm (prefixes : Prefixes) (opcode : Nat) : Decode Instruction := do
  let action := arithmeticOf (opcode / 8)
  let width := prefixes.widthOf opcode
  let low := opcode % 8
  if low < 4 then
    let form ← Form.read prefixes
    let place := form.operand prefixes width
    let register := prefixes.operand width form.register
    return if low < 2 then .arithmetic action width place register
      else .arithmetic action width register place
  else if low < 6 then return .arithmetic action width (.register ax) (← immediate width)
  else return .undefined

/-- Arithmetic with an immediate. -/
def arithmeticImmediate (prefixes : Prefixes) (opcode : Nat) : Decode Instruction := do
  let width := prefixes.widthOf opcode
  let form ← Form.read prefixes
  let value ← if opcode = 0x83 then .immediate <$> signed 1 else immediate width
  return .arithmetic (arithmeticOf form.digit) width (form.operand prefixes width) value

/-- Shifts by an immediate, by one or by the counter. -/
def shiftForm (prefixes : Prefixes) (opcode : Nat) : Decode Instruction := do
  let width := prefixes.widthOf opcode
  let form ← Form.read prefixes
  let count ← if opcode < 0xd0 then .immediate <$> number 1
    else if opcode < 0xd2 then pure (.immediate 1)
    else pure (.register cx)
  return .shift (shiftOf form.digit) width (form.operand prefixes width) count

/-- Operations on one number. -/
def unaryForm (prefixes : Prefixes) (opcode : Nat) : Decode Instruction := do
  let width := prefixes.widthOf opcode
  let form ← Form.read prefixes
  let place := form.operand prefixes width
  if form.digit < 2 then return .test width place (← immediate width)
  else if form.digit = 2 then return .invert width place
  else if form.digit = 3 then return .negate width place
  else if form.digit < 6 then return .multiply (form.digit = 5) width place
  else return .divide (form.digit = 7) width place

/-- Counting, jumps and the stack. -/
def groupFive (prefixes : Prefixes) (opcode : Nat) : Decode Instruction := do
  let width := prefixes.widthOf opcode
  let form ← Form.read prefixes
  if form.digit = 0 then return .increment width (form.operand prefixes width)
  else if form.digit = 1 then return .decrement width (form.operand prefixes width)
  else if opcode = 0xfe then return .undefined
  else if form.digit = 2 then return .callTo (form.operand prefixes .qword)
  else if form.digit = 4 then return .jumpTo (form.operand prefixes .qword)
  else if form.digit = 6 then
    return .push prefixes.stackWidth (form.operand prefixes prefixes.stackWidth)
  else if form.digit = 7 || !form.inMemory then return .undefined
  else return .privileged

/-- A string operation. -/
def stringForm (prefixes : Prefixes) (action : StringAction) (opcode : Nat) : Instruction :=
  .string action (prefixes.widthOf opcode) prefixes.repetition prefixes.segment
    prefixes.narrowAddress

/-- A bit of a number, by an immediate. -/
def bitImmediate (prefixes : Prefixes) : Decode Instruction := do
  let form ← Form.read prefixes
  let width := prefixes.width
  let index : Operand := .immediate (← number 1)
  let place := form.operand prefixes width
  let action := ([.test, .set, .reset, .complement] : List BitAction).getD (form.digit - 4) .test
  return if form.digit < 4 then .undefined else .bit action width place index

/-- A bit of a number, by a register. -/
def bitForm (prefixes : Prefixes) (action : BitAction) : Decode Instruction := do
  let form ← Form.read prefixes
  return .bit action prefixes.width (form.operand prefixes prefixes.width)
    (.register form.register)

/-- An operation on a place and a register, the place first. -/
def placeFirst (prefixes : Prefixes) (width : OperandWidth)
    (make : OperandWidth → Operand → Operand → Instruction) : Decode Instruction := do
  let form ← Form.read prefixes
  return make width (form.operand prefixes width) (prefixes.operand width form.register)

/-- An operation on a register and a place, the register first. -/
def registerFirst (prefixes : Prefixes) (width : OperandWidth)
    (make : OperandWidth → Operand → Operand → Instruction) : Decode Instruction := do
  let form ← Form.read prefixes
  return make width (prefixes.operand width form.register) (form.operand prefixes width)

/-! ### Opcodes of one byte -/

/-- The instructions with opcodes from 0x40 to 0x8f. -/
def middleOpcode (prefixes : Prefixes) (opcode : Nat) : Decode Instruction := do
  let width := prefixes.width
  let stackWidth := prefixes.stackWidth
  let low := registerOf (opcode % 8 + prefixes.extension 1)
  if opcode < 0x58 then return .push stackWidth (.register low)
  else if opcode < 0x60 then return .pop stackWidth (.register low)
  else if opcode = 0x63 then
    let form ← Form.read prefixes
    return .extend true width (if prefixes.wide then .dword else width) (.register form.register)
      (form.operand prefixes .dword)
  else if opcode = 0x68 then
    return .push stackWidth (.immediate (← signed (min stackWidth.bytes 4)))
  else if opcode = 0x6a then return .push stackWidth (.immediate (← signed 1))
  else if opcode = 0x69 || opcode = 0x6b then
    let form ← Form.read prefixes
    let value ← if opcode = 0x69 then immediate width else .immediate <$> signed 1
    return .multiplyInto width (.register form.register) (form.operand prefixes width) value
  else if 0x6c ≤ opcode && opcode < 0x70 then return .privileged
  else if 0x70 ≤ opcode && opcode < 0x80 then return .jumpIf (opcode % 16) (← signed 1)
  else if opcode = 0x80 || opcode = 0x81 || opcode = 0x83 then arithmeticImmediate prefixes opcode
  else if opcode = 0x84 || opcode = 0x85 then
    placeFirst prefixes (prefixes.widthOf opcode) .test
  else if opcode = 0x86 || opcode = 0x87 then
    placeFirst prefixes (prefixes.widthOf opcode) .exchange
  else if opcode = 0x88 || opcode = 0x89 then placeFirst prefixes (prefixes.widthOf opcode) .move
  else if opcode = 0x8a || opcode = 0x8b then
    registerFirst prefixes (prefixes.widthOf opcode) .move
  else if opcode = 0x8c then
    let form ← Form.read prefixes
    let value : UInt64 := if form.digit = 1 then 0x33 else if form.digit = 2 then 0x2b else 0
    let width := if form.inMemory then .word else width
    return if 6 ≤ form.digit then .undefined
      else .readSegment width value (form.operand prefixes width)
  else if opcode = 0x8d then
    let form ← Form.read prefixes
    match form.place with
    | .inl _ => return .undefined
    | .inr address =>
      return .loadAddress width (.register form.register) { address with segment := .flat }
  else if opcode = 0x8e then
    let form ← Form.read prefixes
    if form.digit = 1 || 6 ≤ form.digit then return .undefined
    else return .writeSegment form.digit (form.operand prefixes .word)
  else if opcode = 0x8f then
    let form ← Form.read prefixes
    if form.digit ≠ 0 then return .undefined
    else return .pop stackWidth (form.operand prefixes stackWidth)
  else return .undefined

/-- The instructions with opcodes from 0x90 to 0xaf. -/
def upperOpcode (prefixes : Prefixes) (opcode : Nat) : Decode Instruction := do
  let width := prefixes.width
  let low := registerOf (opcode % 8 + prefixes.extension 1)
  if opcode = 0x90 && low = ax then return .nothing
  else if opcode < 0x98 then return .exchange width (.register ax) (.register low)
  else if opcode = 0x98 then return .widen width
  else if opcode = 0x99 then return .spreadSign width
  else if opcode = 0x9a then return .undefined
  else if opcode = 0x9b then return .nothing
  else if opcode = 0x9c then return .pushFlags prefixes.stackWidth
  else if opcode = 0x9d then return .popFlags prefixes.stackWidth
  else if opcode = 0x9e then return .storeFlags
  else if opcode = 0x9f then return .loadFlags
  else if 0xa0 ≤ opcode && opcode < 0xa4 then
    let width := prefixes.widthOf opcode
    let displacement ← number (if prefixes.narrowAddress then 4 else 8)
    let place : Operand := .memory { segment := prefixes.segment, displacement }
    return if opcode < 0xa2 then .move width (.register ax) place
      else .move width place (.register ax)
  else if opcode < 0xa6 then return stringForm prefixes .move opcode
  else if opcode < 0xa8 then return stringForm prefixes .compare opcode
  else if opcode < 0xaa then
    let width := prefixes.widthOf opcode
    return .test width (.register ax) (← immediate width)
  else if opcode < 0xac then return stringForm prefixes .store opcode
  else if opcode < 0xae then return stringForm prefixes .load opcode
  else return stringForm prefixes .scan opcode

/-- The instructions with opcodes from 0xb0 to 0xbf: a number is moved into a register. -/
def moveNumber (prefixes : Prefixes) (opcode : Nat) : Decode Instruction := do
  let width := prefixes.width
  let low := registerOf (opcode % 8 + prefixes.extension 1)
  if opcode < 0xb8 then
    return .move .byte (prefixes.operand .byte low) (.immediate (← number 1))
  else return .move width (.register low) (.immediate (← number width.bytes))

/-- The instructions with opcodes from 0xc0 on. -/
def topOpcode (prefixes : Prefixes) (opcode : Nat) : Decode Instruction := do
  if opcode < 0xc2 then shiftForm prefixes opcode
  else if opcode = 0xc2 then return .return_ (← number 2)
  else if opcode = 0xc3 then return .return_ 0
  else if opcode = 0xc6 || opcode = 0xc7 then
    let width := prefixes.widthOf opcode
    let form ← Form.read prefixes
    if form.digit ≠ 0 then return .undefined
    else return .move width (form.operand prefixes width) (← immediate width)
  else if opcode = 0xc8 then
    let size ← number 2
    return .enter size ((← number 1).toNat % 32)
  else if opcode = 0xc9 then return .leave prefixes.stackWidth
  else if opcode = 0xca then
    let _ ← number 2
    return .privileged
  else if opcode = 0xcb || opcode = 0xcf then return .privileged
  else if opcode = 0xcc then return .interrupt 3
  else if opcode = 0xcd then return .interrupt (← byte).toNat
  else if 0xd0 ≤ opcode && opcode < 0xd4 then shiftForm prefixes opcode
  else if opcode = 0xd7 then return .lookUp prefixes.segment prefixes.narrowAddress
  else if 0xe0 ≤ opcode && opcode < 0xe4 then
    let kind := ([.whileDifferent, .whileEqual, .always, .counterZero] : List LoopKind).getD
      (opcode - 0xe0) .always
    return .loop kind prefixes.narrowAddress (← signed 1)
  else if 0xe4 ≤ opcode && opcode < 0xe8 then
    let _ ← byte
    return .privileged
  else if opcode = 0xe8 then return .call (← signed 4)
  else if opcode = 0xe9 then return .jump (← signed 4)
  else if opcode = 0xeb then return .jump (← signed 1)
  else if 0xec ≤ opcode && opcode < 0xf0 then return .privileged
  else if opcode = 0xf1 then return .watchpoint
  else if opcode = 0xf4 || opcode = 0xfa || opcode = 0xfb then return .privileged
  else if opcode = 0xf5 then return .changeFlags 0 1
  else if opcode = 0xf6 || opcode = 0xf7 then unaryForm prefixes opcode
  else if opcode = 0xf8 then return .changeFlags 1 0
  else if opcode = 0xf9 then return .changeFlags 1 1
  else if opcode = 0xfc then return .changeFlags 0x400 0
  else if opcode = 0xfd then return .changeFlags 0x400 0x400
  else if opcode = 0xfe || opcode = 0xff then groupFive prefixes opcode
  else return .undefined

/-! ### Opcodes of two bytes -/

/-- Moves of whole vectors and of parts of them. -/
def vectorMove (prefixes : Prefixes) (opcode : Nat) : Decode Instruction := do
  let form ← Form.read prefixes
  let register : VectorOperand := .register form.register
  let place := form.vector
  let scalar : Nat := if prefixes.whileEqual then 4 else if prefixes.whileDifferent then 8 else 16
  if opcode = 0x10 then
    return .moveVector scalar false form.inMemory register place
  else if opcode = 0x11 then return .moveVector scalar false false place register
  else if prefixes.whileDifferent then return .undefined
  else if (opcode = 0x28 || opcode = 0x29) && prefixes.whileEqual then return .undefined
  else if 0x6f ≤ opcode && !prefixes.narrowOperand && !prefixes.whileEqual then return .undefined
  else if opcode = 0x28 || opcode = 0x6f then
    return .moveVector 16 (!prefixes.whileEqual) true register place
  else return .moveVector 16 (!prefixes.whileEqual) true place register

/-- Moves between vectors and numbers. -/
def vectorNumber (prefixes : Prefixes) (opcode : Nat) : Decode Instruction := do
  let form ← Form.read prefixes
  let width : OperandWidth := if prefixes.wide then .qword else .dword
  if opcode = 0x7e && prefixes.whileEqual then
    return .moveVector 8 false true (.register form.register) form.vector
  else if prefixes.repeats then return .undefined
  else if opcode = 0xd6 && prefixes.narrowOperand then
    return .moveVector 8 false true form.vector (.register form.register)
  else if !prefixes.narrowOperand || opcode = 0xd6 then return .undefined
  else if opcode = 0x6e then
    return .vectorFromNumber width form.register (form.operand prefixes width)
  else return .numberFromVector width (form.operand prefixes width) form.register

/-- Operations on whole vectors, bit by bit. -/
def vectorBits (prefixes : Prefixes) (action : VectorAction) (integer : Bool) :
    Decode Instruction := do
  let form ← Form.read prefixes
  if prefixes.repeats || (integer && !prefixes.narrowOperand) then return .undefined
  else return .combineVectors action form.register form.vector

/-- The group of instructions on bases and barriers. -/
def groupFifteen (prefixes : Prefixes) : Decode Instruction := do
  let form ← Form.read prefixes
  let width : OperandWidth := if prefixes.wide then .qword else .dword
  if form.inMemory then
    return if form.digit = 7 || form.digit = 2 || form.digit = 3 then .nothing else .undefined
  else if prefixes.whileEqual then
    let place := form.operand prefixes width
    return match form.digit with
      | 0 => .readBase width .fs place
      | 1 => .readBase width .gs place
      | 2 => .writeBase width .fs place
      | 3 => .writeBase width .gs place
      | _ => .undefined
  else return if 5 ≤ form.digit then .nothing else .undefined

/-- The group of instructions on the state of the processor. -/
def groupSeven (prefixes : Prefixes) : Decode Instruction := do
  let second ← peek
  let form ← Form.read prefixes
  if form.inMemory then return if form.digit = 5 then .undefined else .privileged
  else if second = 0xd0 then return .readFeatures
  else if second = 0xee then return .readKeyRights
  else if second = 0xef then return .writeKeyRights
  else if second = 0xf9 then return .readClock true
  else if second = 0xf8 || second = 0xd1 || form.digit = 6 || form.digit = 4 then
    return .privileged
  else return .undefined

/-- The group of exchanges of two numbers and of random numbers. -/
def groupNine (prefixes : Prefixes) : Decode Instruction := do
  let form ← Form.read prefixes
  match form.place with
  | .inr address =>
    return if form.digit = 1 then
        .compareExchangePair (if prefixes.wide then .qword else .dword) address
      else if form.digit = 3 || form.digit = 5 then .privileged
      else .undefined
  | .inl register =>
    return if form.digit = 7 && prefixes.whileEqual then .readSegment .qword 0 (.register register)
      else if 6 ≤ form.digit then .random prefixes.width (.register register)
      else .undefined

/-- The instructions with a second opcode byte below 0x80. -/
def lowerSecond (prefixes : Prefixes) (opcode : Nat) : Decode Instruction := do
  if opcode = 0x05 then return .systemCall
  else if opcode = 0x01 then groupSeven prefixes
  else if opcode = 0x00 then
    let _ ← Form.read prefixes
    return .privileged
  else if 0x06 ≤ opcode && opcode < 0x0a then return .privileged
  else if opcode = 0x0d then
    let _ ← Form.read prefixes
    return .nothing
  else if opcode = 0x10 || opcode = 0x11 || opcode = 0x28 || opcode = 0x29 || opcode = 0x6f
      || opcode = 0x7f then vectorMove prefixes opcode
  else if 0x18 ≤ opcode && opcode < 0x20 then
    let _ ← Form.read prefixes
    return .nothing
  else if 0x20 ≤ opcode && opcode < 0x24 then
    let number := (← byte).toNat / 8 % 8 + prefixes.extension 4
    let known := if opcode % 2 = 0 then [0, 2, 3, 4, 8].contains number else number < 8
    return if known then .privileged else .undefined
  else if opcode = 0x30 || opcode = 0x32 || opcode = 0x33 || opcode = 0x35 then return .privileged
  else if opcode = 0x31 then return .readClock false
  else if 0x40 ≤ opcode && opcode < 0x50 then
    registerFirst prefixes prefixes.width (.moveIf (opcode % 16))
  else if opcode = 0x54 then vectorBits prefixes .and false
  else if opcode = 0x55 then vectorBits prefixes .andNot false
  else if opcode = 0x56 then vectorBits prefixes .or false
  else if opcode = 0x57 then vectorBits prefixes .xor false
  else if opcode = 0x6e || opcode = 0x7e then vectorNumber prefixes opcode
  else return .undefined

/-- The instructions with a second opcode byte from 0xa0 on. -/
def upperSecond (prefixes : Prefixes) (opcode : Nat) : Decode Instruction := do
  let width := prefixes.width
  if opcode = 0xa0 || opcode = 0xa8 then return .push prefixes.stackWidth (.immediate 0)
  else if opcode = 0xa1 || opcode = 0xa9 then return .privileged
  else if opcode = 0xa2 then return .identify
  else if opcode = 0xa3 then bitForm prefixes .test
  else if opcode = 0xab then bitForm prefixes .set
  else if opcode = 0xb3 then bitForm prefixes .reset
  else if opcode = 0xbb then bitForm prefixes .complement
  else if opcode = 0xba then bitImmediate prefixes
  else if opcode = 0xa4 || opcode = 0xa5 || opcode = 0xac || opcode = 0xad then
    let form ← Form.read prefixes
    let count ← if opcode % 2 = 0 then .immediate <$> number 1 else pure (.register cx)
    return .shiftDouble (opcode < 0xa8) width (form.operand prefixes width)
      (.register form.register) count
  else if opcode = 0xae then groupFifteen prefixes
  else if opcode = 0xaf then
    let form ← Form.read prefixes
    return .multiplyInto width (.register form.register) (.register form.register)
      (form.operand prefixes width)
  else if opcode = 0xb0 || opcode = 0xb1 then
    placeFirst prefixes (prefixes.widthOf opcode) .compareExchange
  else if opcode = 0xb6 || opcode = 0xb7 || opcode = 0xbe || opcode = 0xbf then
    let form ← Form.read prefixes
    let narrow : OperandWidth := if opcode % 2 = 0 then .byte else .word
    return .extend (0xb8 ≤ opcode) width narrow (.register form.register)
      (form.operand prefixes narrow)
  else if opcode = 0xb8 && prefixes.whileEqual then
    registerFirst prefixes width (.search .count)
  else if opcode = 0xbc then
    registerFirst prefixes width (.search (if prefixes.whileEqual then .trailingZeros else .lowest))
  else if opcode = 0xbd then
    registerFirst prefixes width (.search (if prefixes.whileEqual then .leadingZeros else .highest))
  else if opcode = 0xc0 || opcode = 0xc1 then
    placeFirst prefixes (prefixes.widthOf opcode) .exchangeAdd
  else if opcode = 0xc3 then
    let form ← Form.read prefixes
    let width : OperandWidth := if prefixes.wide then .qword else .dword
    return if form.inMemory && !prefixes.repeats && !prefixes.narrowOperand then
        .move width (form.operand prefixes width) (.register form.register)
      else .undefined
  else if opcode = 0xc7 then groupNine prefixes
  else if 0xc8 ≤ opcode && opcode < 0xd0 then
    return .swapBytes width (registerOf (opcode % 8 + prefixes.extension 1))
  else if opcode = 0xd6 then vectorNumber prefixes opcode
  else if opcode = 0xdb then vectorBits prefixes .and true
  else if opcode = 0xdf then vectorBits prefixes .andNot true
  else if opcode = 0xeb then vectorBits prefixes .or true
  else if opcode = 0xef then vectorBits prefixes .xor true
  else return .undefined

/-- The instructions behind the byte 0x0f. -/
def secondOpcode (prefixes : Prefixes) : Decode Instruction := do
  let opcode := (← byte).toNat
  if opcode = 0x38 then
    let third ← byte
    if (third = 0xf0 || third = 0xf1) && !prefixes.whileDifferent && !prefixes.whileEqual then
      let form ← Form.read prefixes
      let place := form.operand prefixes prefixes.width
      let register : Operand := .register form.register
      return if !form.inMemory then .undefined
        else if third = 0xf0 then .moveSwapped prefixes.width register place
        else .moveSwapped prefixes.width place register
    else return .undefined
  else if opcode < 0x80 then lowerSecond prefixes opcode
  else if opcode < 0x90 then return .jumpIf (opcode % 16) (← signed 4)
  else if opcode < 0xa0 then
    let form ← Form.read prefixes
    return .setIf (opcode % 16) (form.operand prefixes .byte)
  else upperSecond prefixes opcode

/-- The instruction of an opcode. -/
def byOpcode (prefixes : Prefixes) (opcode : Nat) : Decode Instruction :=
  if opcode = 0x0f then secondOpcode prefixes
  else if opcode < 0x40 then arithmeticForm prefixes opcode
  else if opcode < 0x90 then middleOpcode prefixes opcode
  else if opcode < 0xb0 then upperOpcode prefixes opcode
  else if opcode < 0xc0 then moveNumber prefixes opcode
  else topOpcode prefixes opcode

/-- An instruction. -/
def instruction : Decode Instruction := do
  let prefixes ← Prefixes.read 15 {}
  let instruction ← byOpcode prefixes (← byte).toNat
  return if prefixes.locked && !instruction.canLock then .undefined else instruction

/-- The first instruction of some bytes, and its length, if there are enough bytes. -/
def decode (bytes : ByteArray) : Option (Instruction × Nat) :=
  match instruction { bytes } with
  | some (instruction, cursor) => some (instruction, cursor.place)
  | none => none

end StaticElf.X86
