/-
**General purpose registers and operand widths.**

A register operand is any byte, a width code is any byte; only the first sixteen registers and the
first four widths exist.

* `Register` and `Width` — operands as a program states them, valid or not.
* `Register.index?` and `Width.operand?` — the register and the operand width they denote, if any.
* `Register.name` — the assembler name of a register at a width.
-/

namespace StaticElf

/-- The four widths of an operand. -/
inductive OperandWidth where
  | byte
  | word
  | dword
  | qword
  deriving DecidableEq, Repr

/-- The number of bytes of an operand. -/
def OperandWidth.bytes : OperandWidth → Nat
  | .byte => 1
  | .word => 2
  | .dword => 4
  | .qword => 8

/-- The number of bits of an operand. -/
def OperandWidth.bits (width : OperandWidth) : Nat := 8 * width.bytes

/-- The name of an operand width. -/
def OperandWidth.text : OperandWidth → String
  | .byte => "byte"
  | .word => "word"
  | .dword => "dword"
  | .qword => "qword"

/-- A width code, the base-two logarithm of a number of bytes. -/
structure Width where
  code : UInt8
  deriving DecidableEq, Repr

namespace Width

/-- One byte. -/
def byte : Width := ⟨0⟩
/-- Two bytes. -/
def word : Width := ⟨1⟩
/-- Four bytes. -/
def dword : Width := ⟨2⟩
/-- Eight bytes. -/
def qword : Width := ⟨3⟩

/-- The operand width that a code denotes. -/
def operand? (width : Width) : Option OperandWidth :=
  match width.code.toNat with
  | 0 => some .byte
  | 1 => some .word
  | 2 => some .dword
  | 3 => some .qword
  | _ => none

/-- Whether a code denotes one of the four operand widths. -/
def valid (width : Width) : Bool := width.code ≤ 3

/-- The power of two that a code stands for, in 64-bit signed arithmetic. -/
def size (width : Width) : Int64 := Int64.ofNat (1 <<< width.code.toNat)

/-- Eight times the size, in 64-bit signed arithmetic. -/
def bits (width : Width) : Int64 := width.size * 8

/-- The name of a width. -/
def text (width : Width) : String :=
  match width.operand? with
  | some operand => operand.text
  | none => "RegisterType(" ++ toString width.code.toNat ++ ")"

end Width

/-- A register operand, named by its hardware ordinal. The low three bits go into the opcode, the
fourth into the REX prefix. -/
structure Register where
  ordinal : UInt8
  deriving DecidableEq, Repr

namespace Register

/-- The number of a system call. -/
def ax : Register := ⟨0⟩
/-- The third argument of a system call. -/
def dx : Register := ⟨2⟩
/-- The second argument of a system call. -/
def si : Register := ⟨6⟩
/-- The first argument of a system call. -/
def di : Register := ⟨7⟩

/-- The low three bits of the ordinal. -/
def low3 (register : Register) : UInt8 := register.ordinal &&& 7

/-- Whether the ordinal needs more than three bits. -/
def extended (register : Register) : Bool := 8 ≤ register.ordinal

/-- Whether the ordinal names one of the sixteen registers. -/
def valid (register : Register) : Bool := register.ordinal < 16

/-- The register that an ordinal names. -/
def index? (register : Register) : Option (Fin 16) :=
  if small : register.ordinal.toNat < 16 then some ⟨register.ordinal.toNat, small⟩ else none

/-- The register that holds the number of a system call. -/
def accumulator : Fin 16 := 0

/-- The names of the first eight registers at a width. -/
def lowNames : OperandWidth → List String
  | .byte => ["al", "cl", "dl", "bl", "spl", "bpl", "sil", "dil"]
  | .word => ["ax", "cx", "dx", "bx", "sp", "bp", "si", "di"]
  | .dword => ["eax", "ecx", "edx", "ebx", "esp", "ebp", "esi", "edi"]
  | .qword => ["rax", "rcx", "rdx", "rbx", "rsp", "rbp", "rsi", "rdi"]

/-- What follows the number of one of the last eight registers at a width. -/
def highSuffix : OperandWidth → String
  | .byte => "b"
  | .word => "w"
  | .dword => "d"
  | .qword => ""

/-- The assembler name of one of the sixteen registers. -/
def indexName (index : Fin 16) (width : OperandWidth) : String :=
  (lowNames width)[index.val]?.getD ("r" ++ toString index.val ++ highSuffix width)

/-- The assembler name of a register at a width, and `reg` with the ordinal when there is none. -/
def name (register : Register) (width : Width) : String :=
  match register.index?, width.operand? with
  | some index, some operand => indexName index operand
  | _, _ => "reg" ++ toString register.ordinal.toNat

/-- The name of a register at full width. -/
def text (register : Register) : String := register.name .qword

end Register

end StaticElf
