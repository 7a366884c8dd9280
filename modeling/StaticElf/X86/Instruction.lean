/-
**Instructions of x86-64 processors.**

The integer instructions that a program can execute, and moves of vectors, with their operands. What no
program may execute is there as `privileged`, what no processor executes as `undefined`.

* `Operand` — a register, a place in memory, or a number.
* `Instruction` — what is executed.
-/

import StaticElf.Register

namespace StaticElf.X86

/-! ### Registers -/

/-- The register with a number. -/
def registerOf (number : Nat) : Fin 16 := ⟨number % 16, Nat.mod_lt _ (by decide)⟩

/-- The accumulator. -/
def ax : Fin 16 := registerOf 0
/-- The counter. -/
def cx : Fin 16 := registerOf 1
/-- The second half of products and of what is divided. -/
def dx : Fin 16 := registerOf 2
def bx : Fin 16 := registerOf 3
/-- The address of the top of the stack. -/
def sp : Fin 16 := registerOf 4
/-- The address of a frame on the stack. -/
def bp : Fin 16 := registerOf 5
/-- Where a string is read. -/
def si : Fin 16 := registerOf 6
/-- Where a string is written. -/
def di : Fin 16 := registerOf 7

/-! ### Operands -/

/-- What is added to an address. -/
inductive Segment where
  | flat
  | fs
  | gs
  deriving DecidableEq, Repr

/-- A place in memory. -/
structure Address where
  segment : Segment := .flat
  base : Option (Fin 16) := none
  index : Option (Fin 16) := none
  /-- By how many bits the index is shifted. -/
  scale : UInt64 := 0
  displacement : UInt64 := 0
  /-- Whether the displacement counts from the next instruction. -/
  fromNext : Bool := false
  /-- Whether the address has 32 bits. -/
  narrow : Bool := false
  deriving DecidableEq, Repr

/-- Whether a place counts as one on the stack: it is told from the stack pointer or the frame pointer. -/
def Address.onStack (address : Address) : Bool :=
  address.segment = .flat && (address.base = some sp || address.base = some bp)

/-- What an instruction works on. -/
inductive Operand where
  | register (index : Fin 16)
  /-- The second byte of one of the first four registers. -/
  | secondByte (index : Fin 4)
  | memory (address : Address)
  | immediate (value : UInt64)
  deriving DecidableEq, Repr

/-- Whether an operand is in memory. -/
def Operand.isMemory : Operand → Bool
  | memory _ => true
  | _ => false

/-- Whether an operand stands in the instruction. -/
def Operand.isConstant : Operand → Bool
  | immediate _ => true
  | _ => false

/-- The operations on two numbers. -/
inductive Arithmetic where
  | add | or | addCarry | subBorrow | and | sub | xor | compare
  deriving DecidableEq, Repr

/-- The operations that shift a number. -/
inductive Shift where
  | rotateLeft | rotateRight | rotateLeftCarry | rotateRightCarry | left | right | rightSigned
  deriving DecidableEq, Repr

/-- The operations on a bit. -/
inductive BitAction where
  | test | set | reset | complement
  deriving DecidableEq, Repr

/-- The operations on strings. -/
inductive StringAction where
  | move | compare | store | load | scan
  deriving DecidableEq, Repr

/-- How often a string operation is done. -/
inductive Repetition where
  | once
  | whileEqual
  | whileDifferent
  deriving DecidableEq, Repr

/-- The operations that look for bits. -/
inductive BitSearch where
  | lowest | highest | trailingZeros | leadingZeros | count
  deriving DecidableEq, Repr

/-- When a loop goes on, besides that the counter is not zero. -/
inductive LoopKind where
  | whileDifferent | whileEqual | always
  /-- A jump when the counter is zero, which is not changed. -/
  | counterZero
  deriving DecidableEq, Repr

/-- The operations on whole vectors, bit by bit. -/
inductive VectorAction where
  | and | andNot | or | xor
  deriving DecidableEq, Repr

/-- A vector register, or a place in memory. -/
inductive VectorOperand where
  | register (index : Fin 16)
  | memory (address : Address)
  deriving DecidableEq, Repr

/-- An instruction. -/
inductive Instruction where
  | arithmetic (action : Arithmetic) (width : OperandWidth) (target source : Operand)
  | test (width : OperandWidth) (left right : Operand)
  | move (width : OperandWidth) (target source : Operand)
  | extend (signed : Bool) (width narrow : OperandWidth) (target source : Operand)
  | loadAddress (width : OperandWidth) (target : Operand) (address : Address)
  | exchange (width : OperandWidth) (left right : Operand)
  | push (width : OperandWidth) (source : Operand)
  | pop (width : OperandWidth) (target : Operand)
  | pushFlags (width : OperandWidth)
  | popFlags (width : OperandWidth)
  | increment (width : OperandWidth) (target : Operand)
  | decrement (width : OperandWidth) (target : Operand)
  | negate (width : OperandWidth) (target : Operand)
  | invert (width : OperandWidth) (target : Operand)
  /-- The accumulator times the source, with twice the width. -/
  | multiply (signed : Bool) (width : OperandWidth) (source : Operand)
  | multiplyInto (width : OperandWidth) (target left right : Operand)
  | divide (signed : Bool) (width : OperandWidth) (source : Operand)
  | shift (action : Shift) (width : OperandWidth) (target count : Operand)
  | shiftDouble (left : Bool) (width : OperandWidth) (target source count : Operand)
  /-- A jump by a distance from the next instruction. -/
  | jump (distance : UInt64)
  | jumpTo (target : Operand)
  | jumpIf (condition : Nat) (distance : UInt64)
  | loop (kind : LoopKind) (narrow : Bool) (distance : UInt64)
  | call (distance : UInt64)
  | callTo (target : Operand)
  /-- Back to the caller, with so many bytes of the stack less. -/
  | return_ (released : UInt64)
  | enter (size : UInt64) (level : Nat)
  | leave (width : OperandWidth)
  | setIf (condition : Nat) (target : Operand)
  | moveIf (condition : Nat) (width : OperandWidth) (target source : Operand)
  | string (action : StringAction) (width : OperandWidth) (repetition : Repetition)
      (segment : Segment) (narrow : Bool)
  /-- The accumulator from half of its width to all of it. -/
  | widen (width : OperandWidth)
  /-- The sign of the accumulator in all bits of the data register. -/
  | spreadSign (width : OperandWidth)
  | bit (action : BitAction) (width : OperandWidth) (target index : Operand)
  | search (action : BitSearch) (width : OperandWidth) (target source : Operand)
  | swapBytes (width : OperandWidth) (target : Fin 16)
  | compareExchange (width : OperandWidth) (target source : Operand)
  | compareExchangePair (width : OperandWidth) (address : Address)
  | exchangeAdd (width : OperandWidth) (target source : Operand)
  /-- The bytes of a number in the other order. -/
  | moveSwapped (width : OperandWidth) (target source : Operand)
  /-- Bits of the flags: those of `cleared` are cleared, then those of `toggled` change. -/
  | changeFlags (cleared toggled : UInt64)
  | loadFlags
  | storeFlags
  /-- The byte of a table at the number in the accumulator. -/
  | lookUp (segment : Segment) (narrow : Bool)
  | systemCall
  | interrupt (vector : Nat)
  /-- A trap for whoever watches the program. -/
  | watchpoint
  | nothing
  | identify
  | readClock (withProcessor : Bool)
  | readKeyRights
  | writeKeyRights
  | readFeatures
  | readBase (width : OperandWidth) (segment : Segment) (target : Operand)
  | writeBase (width : OperandWidth) (segment : Segment) (source : Operand)
  | readSegment (width : OperandWidth) (value : UInt64) (target : Operand)
  | writeSegment (segment : Nat) (source : Operand)
  | random (width : OperandWidth) (target : Operand)
  /-- A vector of so many bytes to another place; what is left of a register is cleared if `clears`. -/
  | moveVector (bytes : Nat) (aligned clears : Bool) (target source : VectorOperand)
  | vectorFromNumber (width : OperandWidth) (target : Fin 16) (source : Operand)
  | numberFromVector (width : OperandWidth) (target : Operand) (source : Fin 16)
  | combineVectors (action : VectorAction) (target : Fin 16) (source : VectorOperand)
  | privileged
  | undefined

namespace Instruction

/-- Whether an instruction can be done as one step that nobody sees a part of. -/
def canLock : Instruction → Bool
  | arithmetic action _ target _ => target.isMemory && action ≠ .compare
  | exchange _ left right => left.isMemory || right.isMemory
  | increment _ target | decrement _ target | negate _ target | invert _ target => target.isMemory
  | bit action _ target _ => target.isMemory && action ≠ .test
  | compareExchange _ target _ | exchangeAdd _ target _ => target.isMemory
  | compareExchangePair .. => true
  | _ => false

end Instruction

end StaticElf.X86
