/-
**Decoding machine code.**

The forms that programs are made of: `mov` of an immediate into a register, by its one-byte opcode, and
`syscall`.

* `Destination` — the part of a register that is written.
* `decode` — the first instruction of some bytes, and the bytes behind it.
* `decodeAll` — all instructions of some bytes, from left to right.
-/

import StaticElf.Register
import StaticElf.Bytes

namespace StaticElf.Machine

/-- What a `mov` writes: the low part of a register, or the second byte of one of the first four. -/
inductive Destination where
  | low (index : Fin 16) (width : OperandWidth)
  | secondByte (index : Fin 4)
  deriving DecidableEq, Repr

/-- A decoded instruction. -/
inductive Action where
  | load (destination : Destination) (value : UInt64)
  /-- Enters the kernel. -/
  | trap
  deriving DecidableEq, Repr

/-- The bits of a REX byte that matter here. -/
structure RexBits where
  /-- A 64-bit operand. -/
  wide : Bool
  /-- One of the last eight registers. -/
  high : Bool
  deriving DecidableEq, Repr

/-- An operand-size byte at the front, if there is one. -/
def takeOperandSize : Bytes → Bool × Bytes
  | byte :: rest => if byte = 0x66 then (true, rest) else (false, byte :: rest)
  | [] => (false, [])

/-- A REX byte at the front, if there is one. -/
def takeRex : Bytes → Option RexBits × Bytes
  | byte :: rest =>
    if 0x40 ≤ byte && byte ≤ 0x4f then
      (some ⟨byte &&& 8 != 0, byte &&& 1 != 0⟩, rest)
    else (none, byte :: rest)
  | [] => (none, [])

/-- A little-endian number of `width` bytes at the front. -/
def takeNumber (width : Nat) (bytes : Bytes) : Option (UInt64 × Bytes) :=
  if bytes.length < width then none
  else some (UInt64.ofNat (leValue (bytes.take width)), bytes.drop width)

/-- One of the first eight registers, or the one eight above it. -/
def registerIndex (low : Fin 8) (rex : Option RexBits) : Fin 16 :=
  if (rex.map (·.high)).getD false then ⟨low.val + 8, by omega⟩ else ⟨low.val, by omega⟩

/-- The byte that an opcode register names: without a REX byte the last four mean second bytes. -/
def byteDestination (low : Fin 8) (rex : Option RexBits) : Destination :=
  if plain : rex.isNone ∧ 4 ≤ low.val then .secondByte ⟨low.val - 4, by omega⟩
  else .low (registerIndex low rex) .byte

/-- The width of a `mov` that is not one of bytes. -/
def wordWidth (operandSize : Bool) (rex : Option RexBits) : OperandWidth :=
  if (rex.map (·.wide)).getD false then .qword else if operandSize then .word else .dword

/-- The register in the low three bits of an opcode. -/
def opcodeRegister (opcode : UInt8) : Fin 8 := ⟨opcode.toNat % 8, Nat.mod_lt _ (by decide)⟩

/-- The first instruction of some bytes, and the bytes behind it. -/
def decode (bytes : Bytes) : Option (Action × Bytes) :=
  let (operandSize, bytes) := takeOperandSize bytes
  let (rex, bytes) := takeRex bytes
  match bytes with
  | [] => none
  | opcode :: rest =>
    if 0xb0 ≤ opcode && opcode ≤ 0xb7 then
      (takeNumber 1 rest).map fun (value, rest) =>
        (.load (byteDestination (opcodeRegister opcode) rex) value, rest)
    else if 0xb8 ≤ opcode && opcode ≤ 0xbf then
      let width := wordWidth operandSize rex
      (takeNumber width.bytes rest).map fun (value, rest) =>
        (.load (.low (registerIndex (opcodeRegister opcode) rex) width) value, rest)
    else if opcode = 0x0f && rest.head? = some 0x05 then some (.trap, rest.tail)
    else none

/-- All instructions of some bytes, from left to right, if the bytes are nothing but instructions. -/
def decodeAll (bytes : Bytes) : Option (List Action) :=
  if bytes.isEmpty then some []
  else match decode bytes with
    | none => none
    | some (action, rest) =>
      if rest.length < bytes.length then (decodeAll rest).map (action :: ·) else none
  termination_by bytes.length

end StaticElf.Machine
