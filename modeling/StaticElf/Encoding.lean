/-
**Operations as machine instructions.**

Each operation lowers to one or two machine instructions; their bytes, one after the other, are the
code of the operation.

* `Instruction.mov` — the shortest opcode-register form of `mov` with an immediate of exactly the
  operand's width.
* `SymbolLookup` — how symbols get their addresses; `SymbolTable.address?` is the one by position.
* `Slot.lower?` and `Slot.encode?` — instructions and bytes of what stands in a program's list.
-/

import StaticElf.Instruction

namespace StaticElf

/-- The low `size` bytes of a value, least significant first. -/
def immediateBytes (value : UInt64) (size : Nat) : Bytes := leBytes size value.toNat

namespace Instruction

/-- The legacy byte that turns a 32-bit operand into a 16-bit one. -/
def operandSizeByte : UInt8 := 0x66

/-- The opcode of `mov` with an immediate, to which the low three bits of the register are added. -/
def movOpcode : OperandWidth → UInt8
  | .byte => 0xb0
  | _ => 0xb8

/-- Whether a `mov` needs a REX byte: for the high registers, for a 64-bit operand, and for the byte
registers `spl` to `dil`, which without one would be `ah` to `bh`. -/
def movNeedsRex (target : Fin 16) (width : OperandWidth) : Bool :=
  8 ≤ target.val || width = .qword || (width = .byte && 4 ≤ target.val)

/-- The REX bits of a `mov`. -/
def movRex (target : Fin 16) (width : OperandWidth) : UInt8 :=
  Rex.join (if width = .qword then Rex.w else 0) (if 8 ≤ target.val then Rex.b else 0)

/-- `mov` of an immediate into a register. The value is cut to the operand's width. -/
def mov (target : Fin 16) (width : OperandWidth) (value : UInt64) : Instruction where
  prefixes := if width = .word then [operandSizeByte] else []
  emitRex := movNeedsRex target width
  rex := movRex target width
  opcode := movOpcode width + UInt8.ofNat (target.val % 8)
  imm := immediateBytes value width.bytes

/-- `mov` of an immediate with operands as a program states them. -/
def mov? (target : Register) (width : Width) (value : UInt64) : Except EncodingError Instruction :=
  match target.index?, width.operand? with
  | none, _ => .error (.registerOutOfRange target.ordinal)
  | some _, none => .error (.unknownWidth width.code)
  | some index, some operand => .ok (mov index operand value)

/-- `mov` of a 64-bit address into a register. -/
def movAddress? (target : Register) (address : UInt64) : Except EncodingError Instruction :=
  mov? target .qword address

/-- The instruction that enters the kernel. -/
def trap : Instruction where
  escape := 1
  opcode := 0x05

/-- The number of a system call into the accumulator at 32 bits, which clears the upper half, and
the trap. -/
def syscall (number : SyscallNumber) : List Instruction :=
  [mov Register.accumulator .dword number.value.toUInt64, trap]

end Instruction

/-- How symbols are resolved: the address of a symbol, if it has one. -/
abbrev SymbolLookup := SymbolRef → Option UInt64

/-- The addresses of symbols, by position. -/
abbrev SymbolTable := List UInt64

/-- The address of a symbol. -/
def SymbolTable.address? (table : SymbolTable) : SymbolLookup := fun symbol =>
  if symbol.index < 0 then none else table[symbol.index.toNat]?

/-- The machine instructions of an operation. A missing symbol is told before a bad register. -/
def Op.lower? (lookup : SymbolLookup) : Op → Except EncodingError (List Instruction)
  | .loadImm register width value => (Instruction.mov? register width value).map ([·])
  | .loadSymbol register symbol =>
    match lookup symbol with
    | none => .error (.unresolved symbol)
    | some address => (Instruction.movAddress? register address).map ([·])
  | .syscall number => .ok (Instruction.syscall number)

namespace Slot

/-- The machine instructions of what stands in the list. -/
def lower? (lookup : SymbolLookup) : Slot → Except EncodingError (List Instruction)
  | .op operation => operation.lower? lookup
  | .reference operation => .error (.unsupported (some operation.form))
  | .emptyReference form => .error (.unsupported (some form))
  | .empty => .error (.unsupported none)

/-- The code of what stands in the list. -/
def encode? (lookup : SymbolLookup) (slot : Slot) : Except EncodingError Bytes := do
  let instructions ← slot.lower? lookup
  let parts ← instructions.mapM Instruction.bytes?
  return parts.flatten

end Slot

end StaticElf
