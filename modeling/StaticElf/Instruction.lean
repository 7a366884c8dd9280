/-
**Machine instructions as records.**

An x86-64 instruction is a sequence of parts: legacy prefixes, a REX byte, an opcode escape, the
opcode, the ModRM and SIB bytes, a displacement and an immediate. A record holds the parts; not every
record has an encoding.

* `ModRM.bytes?` and `Instruction.bytes?` — the bytes of a record, or the first thing wrong with it.
* `EncodingError` — what can be wrong with an instruction or with an operation to encode, and how it
  is told (`EncodingError.fault`).
-/

import StaticElf.Fault
import StaticElf.Program

namespace StaticElf

/-- Why an instruction or an operation has no encoding. -/
inductive EncodingError where
  /-- A field value that needs more bits than the field has. -/
  | fieldTooWide (field : String) (value : UInt8) (bits : Nat)
  /-- REX bits above the low four. -/
  | rexTooWide (rex : UInt8)
  /-- REX bits without the byte that would carry them. -/
  | rexWithoutByte
  /-- An escape that selects no opcode map. -/
  | unknownEscape (escape : UInt8)
  /-- More bytes than an instruction may have. -/
  | tooLong (length : Nat)
  /-- An ordinal that names no register. -/
  | registerOutOfRange (ordinal : UInt8)
  /-- A width code that denotes no operand width. -/
  | unknownWidth (code : UInt8)
  /-- A symbol without an address. -/
  | unresolved (symbol : SymbolRef)
  /-- A reference to an operation, or nothing, where an operation should stand. -/
  | unsupported (reference : Option OpForm)
  deriving DecidableEq, Repr

namespace EncodingError

/-- What is said about the failure. -/
def text : EncodingError → String
  | fieldTooWide field value bits =>
    s!"{field} field {Text.binaryNumeral value.toNat} does not fit in {bits} bits"
  | rexTooWide rex => s!"REX bits {Text.hexNumeral rex.toNat} do not fit in 4 bits"
  | rexWithoutByte => "REX bits set without a REX prefix"
  | unknownEscape escape => s!"unknown opcode escape {escape.toNat}"
  | tooLong length => s!"instruction is {length} bytes long"
  | registerOutOfRange ordinal => s!"register ordinal {ordinal.toNat} out of range"
  | unknownWidth code => s!"unknown operand width {code.toNat}"
  | unresolved symbol => s!"{symbol.text} has not been resolved"
  | unsupported (some form) => s!"unsupported instruction {form.referenceText}"
  | unsupported none => "unsupported instruction <nil>"

/-- The kind of the failure. -/
def kind : EncodingError → FaultKind
  | fieldTooWide .. | rexTooWide _ | tooLong _ => .fieldOverflow
  | rexWithoutByte | unknownEscape _ | registerOutOfRange _ | unknownWidth _ | unsupported _ =>
    .invalidOperand
  | unresolved _ => .undefinedSymbol

/-- The failure as it is reported: a missing symbol is a bad reference, all else a bad argument. -/
def fault (error : EncodingError) : Fault :=
  match error with
  | unresolved _ => .reference error.text
  | _ => .argument error.text error.kind

end EncodingError

/-- Checks that a value fits in a field of `bits` bits. -/
def checkField (field : String) (value : UInt8) (bits : Nat) : Except EncodingError Unit :=
  if value.toNat >>> bits = 0 then .ok () else .error (.fieldTooWide field value bits)

/-- The addressing form of an instruction. The last three fields matter only when a SIB byte is
needed. -/
structure ModRM where
  mod : UInt8 := 0
  reg : UInt8 := 0
  rm : UInt8 := 0
  scale : UInt8 := 0
  index : UInt8 := 0
  base : UInt8 := 0
  deriving DecidableEq, Repr

namespace ModRM

/-- The form that addresses register `rm` itself. -/
def direct (reg rm : UInt8) : ModRM := { mod := 3, reg, rm }

/-- Whether a SIB byte follows the ModRM byte. -/
def needsSib (form : ModRM) : Bool := form.mod != 3 && form.rm == 4

/-- Three fields of two, three and three bits in one byte. -/
def pack (high middle low : UInt8) : UInt8 := high <<< 6 ||| middle <<< 3 ||| low

/-- The ModRM byte, and the SIB byte when it is needed. -/
def bytes? (form : ModRM) : Except EncodingError Bytes := do
  checkField "mod" form.mod 2
  checkField "reg" form.reg 3
  checkField "rm" form.rm 3
  if form.needsSib then
    checkField "scale" form.scale 2
    checkField "index" form.index 3
    checkField "base" form.base 3
    return [pack form.mod form.reg form.rm, pack form.scale form.index form.base]
  else
    return [pack form.mod form.reg form.rm]

end ModRM

namespace Rex

/-- Extends the register in the opcode, the ModRM byte or the SIB base. -/
def b : UInt8 := 1
/-- Selects a 64-bit operand. -/
def w : UInt8 := 8

/-- Whether all bits of `flag` are set. -/
def has (rex flag : UInt8) : Bool := rex &&& flag == flag

/-- The bits of `rex` and those of `flag`. -/
def join (rex flag : UInt8) : UInt8 := rex ||| flag

/-- The byte that carries the low four bits. -/
def byte (rex : UInt8) : UInt8 := 0x40 ||| (rex &&& 0x0f)

end Rex

/-- The bytes that select an opcode map. -/
def escapeBytes? (escape : UInt8) : Except EncodingError Bytes :=
  match escape.toNat with
  | 0 => .ok []
  | 1 => .ok [0x0f]
  | 2 => .ok [0x0f, 0x38]
  | 3 => .ok [0x0f, 0x3a]
  | _ => .error (.unknownEscape escape)

/-- The parts of a machine instruction. -/
structure Instruction where
  prefixes : Bytes := []
  /-- Whether a REX byte is present, also one that carries no bit: a bare REX byte selects
  `spl` to `dil` over `ah` to `bh`. -/
  emitRex : Bool := false
  rex : UInt8 := 0
  escape : UInt8 := 0
  opcode : UInt8 := 0
  modrm : Option ModRM := none
  disp : Bytes := []
  imm : Bytes := []
  deriving DecidableEq, Repr

namespace Instruction

/-- The most bytes that an instruction may have. -/
def maxLength : Nat := 15

/-- The REX byte, if one is present. -/
def rexBytes? (instruction : Instruction) : Except EncodingError Bytes :=
  if instruction.emitRex then
    if instruction.rex > 0x0f then .error (.rexTooWide instruction.rex)
    else .ok [Rex.byte instruction.rex]
  else if instruction.rex = 0 then .ok []
  else .error .rexWithoutByte

/-- The ModRM and SIB bytes, if there is an addressing form. -/
def modrmBytes? (instruction : Instruction) : Except EncodingError Bytes :=
  match instruction.modrm with
  | none => .ok []
  | some form => form.bytes?

/-- The bytes of an instruction: its parts in order, at most `maxLength` of them. -/
def bytes? (instruction : Instruction) : Except EncodingError Bytes := do
  let rex ← instruction.rexBytes?
  let escape ← escapeBytes? instruction.escape
  let modrm ← instruction.modrmBytes?
  let all := instruction.prefixes ++ rex ++ escape ++ [instruction.opcode] ++ modrm
    ++ instruction.disp ++ instruction.imm
  if all.length > maxLength then
    throw (.tooLong all.length)
  return all

end Instruction

end StaticElf
