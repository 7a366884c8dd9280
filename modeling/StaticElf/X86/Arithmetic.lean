/-
**Arithmetic of x86-64 processors.**

Numbers are kept in 64 bits; those that belong to no operand are zero.

* `Flag` — the bits that tell about a result.
* `Outcome` — a result and the flags after it.
* `add`, `sub`, `bitwise`, `shift`, … — the operations.
-/

import StaticElf.X86.Instruction

namespace StaticElf

namespace OperandWidth

/-- The bits of an operand. -/
def mask : OperandWidth → UInt64
  | .byte => 0xff
  | .word => 0xffff
  | .dword => 0xffffffff
  | .qword => 0xffffffffffffffff

/-- The highest bit of an operand. -/
def signBit : OperandWidth → UInt64
  | .byte => 0x80
  | .word => 0x8000
  | .dword => 0x80000000
  | .qword => 0x8000000000000000

/-- Whether a number is negative. -/
def isNegative (width : OperandWidth) (value : UInt64) : Bool := value &&& width.signBit != 0

/-- A number with its sign in all higher bits. -/
def extend (width : OperandWidth) (value : UInt64) : UInt64 :=
  ((value &&& width.mask) ^^^ width.signBit) - width.signBit

/-- A number with its sign. -/
def toInt (width : OperandWidth) (value : UInt64) : Int := (width.extend value).toInt64.toInt

/-- The number of values. -/
def modulus (width : OperandWidth) : Nat := width.mask.toNat + 1

/-- The half of a width. -/
def half : OperandWidth → OperandWidth
  | .byte => .byte
  | .word => .byte
  | .dword => .word
  | .qword => .dword

end OperandWidth

namespace X86

/-- A bit of the flags. -/
abbrev Flag := UInt64

namespace Flag

def carry : UInt64 := 0x1
def parity : UInt64 := 0x4
def adjust : UInt64 := 0x10
def zero : UInt64 := 0x40
def sign : UInt64 := 0x80
def trace : UInt64 := 0x100
def direction : UInt64 := 0x400
def overflow : UInt64 := 0x800

/-- The flags that tell about a result. -/
def status : UInt64 := 0x8d5

/-- The flags that a program can set. -/
def changeable : UInt64 := 0x244dd5

/-- A flag that is set if a condition holds. -/
def ifSo (condition : Bool) (flag : UInt64) : UInt64 := if condition then flag else 0

/-- Whether the number of ones in the low byte is even. -/
def evenOnes (value : UInt64) : Bool :=
  let folded := value ^^^ (value >>> 4)
  let folded := folded ^^^ (folded >>> 2)
  (folded ^^^ (folded >>> 1)) &&& 1 == 0

/-- The flags that a result alone decides. -/
def ofResult (width : OperandWidth) (value : UInt64) : UInt64 :=
  ifSo (evenOnes value) parity ||| ifSo (value == 0) zero ||| ifSo (width.isNegative value) sign

end Flag

/-- A result, and the flags after it. -/
structure Outcome where
  value : UInt64
  flags : UInt64

/-- The sum of two numbers and a carry. -/
def add (width : OperandWidth) (flags left right carry : UInt64) : Outcome :=
  let value := (left + right + carry) &&& width.mask
  let carried := value < left || (carry != 0 && value == left)
  let overflowed := width.isNegative ((left ^^^ value) &&& (right ^^^ value))
  { value,
    flags := (flags &&& ~~~Flag.status) ||| Flag.ofResult width value
      ||| Flag.ifSo carried Flag.carry ||| Flag.ifSo overflowed Flag.overflow
      ||| ((left ^^^ right ^^^ value) &&& Flag.adjust) }

/-- The difference of two numbers, less a borrow. -/
def sub (width : OperandWidth) (flags left right borrow : UInt64) : Outcome :=
  let value := (left - right - borrow) &&& width.mask
  let borrowed := left < right || (borrow != 0 && left == right)
  let overflowed := width.isNegative ((left ^^^ right) &&& (left ^^^ value))
  { value,
    flags := (flags &&& ~~~Flag.status) ||| Flag.ofResult width value
      ||| Flag.ifSo borrowed Flag.carry ||| Flag.ifSo overflowed Flag.overflow
      ||| ((left ^^^ right ^^^ value) &&& Flag.adjust) }

/-- A result of an operation on each bit. -/
def bitwise (width : OperandWidth) (flags value : UInt64) : Outcome :=
  { value, flags := (flags &&& ~~~Flag.status) ||| Flag.ofResult width value }

/-- An operation on two numbers. -/
def arithmetic (action : Arithmetic) (width : OperandWidth) (flags left right : UInt64) : Outcome :=
  match action with
  | .add => add width flags left right 0
  | .addCarry => add width flags left right (flags &&& Flag.carry)
  | .sub | .compare => sub width flags left right 0
  | .subBorrow => sub width flags left right (flags &&& Flag.carry)
  | .and => bitwise width flags (left &&& right)
  | .or => bitwise width flags (left ||| right)
  | .xor => bitwise width flags (left ^^^ right)

/-- One more or one less; the carry stays. -/
def keepCarry (before : UInt64) (outcome : Outcome) : Outcome :=
  { outcome with
    flags := (outcome.flags &&& ~~~Flag.carry) ||| (before &&& Flag.carry) }

/-! ### Shifts -/

/-- A number turned to the left by one bit. -/
def turnLeft (width : OperandWidth) (value : UInt64) : UInt64 :=
  ((value <<< 1) ||| Flag.ifSo (width.isNegative value) 1) &&& width.mask

/-- A number turned to the right by one bit. -/
def turnRight (width : OperandWidth) (value : UInt64) : UInt64 :=
  (value >>> 1) ||| Flag.ifSo (value &&& 1 != 0) width.signBit

/-- A number with a carry, turned to the left by one bit. -/
def turnLeftCarry (width : OperandWidth) (number : UInt64 × Bool) : UInt64 × Bool :=
  (((number.1 <<< 1) ||| Flag.ifSo number.2 1) &&& width.mask, width.isNegative number.1)

/-- A number with a carry, turned to the right by one bit. -/
def turnRightCarry (width : OperandWidth) (number : UInt64 × Bool) : UInt64 × Bool :=
  ((number.1 >>> 1) ||| Flag.ifSo number.2 width.signBit, number.1 &&& 1 != 0)

/-- A step that is done several times. -/
def repeated {α : Type} (step : α → α) : (times : Nat) → α → α
  | 0, value => value
  | times + 1, value => repeated step times (step value)

/-- By how many bits a number is shifted. -/
def shiftCount (width : OperandWidth) (count : UInt64) : Nat :=
  (count &&& (if width = .qword then 63 else 31)).toNat

/-- Flags after a turn: only the carry and the overflow change. -/
def turnedFlags (flags : UInt64) (carry overflow : Bool) : UInt64 :=
  (flags &&& ~~~(Flag.carry ||| Flag.overflow))
    ||| Flag.ifSo carry Flag.carry ||| Flag.ifSo overflow Flag.overflow

/-- Flags after a shift. -/
def shiftedFlags (width : OperandWidth) (flags value : UInt64) (carry overflow : Bool) : UInt64 :=
  (flags &&& ~~~Flag.status) ||| Flag.ofResult width value
    ||| Flag.ifSo carry Flag.carry ||| Flag.ifSo overflow Flag.overflow

/-- One bit of a shift: the number, and the bit that leaves it. -/
def shiftOnce (action : Shift) (width : OperandWidth) (number : UInt64 × Bool) : UInt64 × Bool :=
  match action with
  | .rotateLeft => turnLeftCarry width (number.1, width.isNegative number.1)
  | .rotateRight => turnRightCarry width (number.1, number.1 &&& 1 != 0)
  | .rotateLeftCarry => turnLeftCarry width number
  | .rotateRightCarry => turnRightCarry width number
  | .left => turnLeftCarry width (number.1, false)
  | .right => turnRightCarry width (number.1, false)
  | .rightSigned => turnRightCarry width (number.1, width.isNegative number.1)

/-- Whether a shift only turns a number around. -/
def Shift.turns : Shift → Bool
  | rotateLeft | rotateRight | rotateLeftCarry | rotateRightCarry => true
  | left | right | rightSigned => false

/-- Whether a shift of a register by a constant leaves it as it was whether there was an overflow. -/
def Shift.keepsOverflow (action : Shift) (constant : Bool) (count : Nat) : Bool :=
  constant && count ≠ 1 && (action = .rotateLeft || action = .rotateRight)

/-- A shift by at least one bit. It overflows if the first bit of it changes the sign. -/
def shiftBy (action : Shift) (width : OperandWidth) (flags value : UInt64) (constant : Bool)
    (count : Nat) : Outcome :=
  let start := (value, flags &&& Flag.carry != 0)
  let overflow := if action.keepsOverflow constant count then flags &&& Flag.overflow != 0
    else width.isNegative (value ^^^ (shiftOnce action width start).1)
  let (shifted, carry) := repeated (shiftOnce action width) count start
  ⟨shifted, if action.turns then turnedFlags flags carry overflow
    else shiftedFlags width flags shifted carry overflow⟩

/-- A shift. One by nothing changes no flags. -/
def shift (action : Shift) (width : OperandWidth) (flags value : UInt64) (constant : Bool)
    (count : UInt64) : Outcome :=
  let count := shiftCount width count
  if count = 0 then ⟨value, flags⟩ else shiftBy action width flags value constant count

/-- One bit of a shift that takes its new bits from another number: the number, the bit that leaves it,
and the other number. -/
def shiftDoubleOnce (left : Bool) (width : OperandWidth) (number : UInt64 × Bool × UInt64) :
    UInt64 × Bool × UInt64 :=
  let (value, _, other) := number
  if left then
    let (value, carry) := turnLeftCarry width (value, width.isNegative other)
    (value, carry, turnLeft width other)
  else
    let (value, carry) := turnRightCarry width (value, other &&& 1 != 0)
    (value, carry, turnRight width other)

/-- A shift of one number that takes its new bits from another one. -/
def shiftDouble (left : Bool) (width : OperandWidth) (flags value other count : UInt64) : Outcome :=
  let count := shiftCount width count
  if count = 0 then ⟨value, flags⟩
  else
    let start := (value, false, other)
    let overflow := width.isNegative (value ^^^ (shiftDoubleOnce left width start).1)
    let (shifted, carry, _) := repeated (shiftDoubleOnce left width) count start
    ⟨shifted, shiftedFlags width flags shifted carry overflow⟩

/-! ### Products and quotients -/

/-- The low and the high half of a product. -/
def product (signed : Bool) (width : OperandWidth) (left right : UInt64) : UInt64 × UInt64 :=
  let whole : Int := if signed then width.toInt left * width.toInt right
    else (left.toNat * right.toNat : Nat)
  let low := (whole % (width.modulus : Int)).toNat
  let high := (whole / (width.modulus : Int) % (width.modulus : Int)).toNat
  (UInt64.ofNat low, UInt64.ofNat high)

/-- Whether the high half of a product says more than the low half. -/
def exceeds (signed : Bool) (width : OperandWidth) (low high : UInt64) : Bool :=
  if signed then high != (if width.isNegative low then width.mask else 0) else high != 0

/-- The flags after a product. It is never told whether it is zero. -/
def productFlags (width : OperandWidth) (flags low : UInt64) (exceeded : Bool) : UInt64 :=
  shiftedFlags width flags low exceeded exceeded &&& ~~~Flag.zero

/-- The quotient and the remainder of a number of twice the width, if the quotient fits. -/
def quotient? (signed : Bool) (width : OperandWidth) (low high divisor : UInt64) :
    Option (UInt64 × UInt64) :=
  if divisor = 0 then none
  else if signed then
    let dividend : Int := width.toInt high * (width.modulus : Int) + (low.toNat : Int)
    let divisor := width.toInt divisor
    let quotient := Int.tdiv dividend divisor
    let remainder := Int.tmod dividend divisor
    let limit : Int := (width.signBit.toNat : Int)
    if quotient < -limit || limit ≤ quotient then none
    else some (UInt64.ofInt quotient &&& width.mask, UInt64.ofInt remainder &&& width.mask)
  else
    let dividend := high.toNat * width.modulus + low.toNat
    let quotient := dividend / divisor.toNat
    if width.modulus ≤ quotient then none
    else some (UInt64.ofNat quotient, UInt64.ofNat (dividend % divisor.toNat))

/-! ### Bits -/

/-- The number of zeros below the lowest one, of at most `bits`. -/
def trailingZeros (value : UInt64) : (bits : Nat) → Nat
  | 0 => 0
  | bits + 1 => if value &&& 1 != 0 then 0 else trailingZeros (value >>> 1) bits + 1

/-- The number of bits that are needed for a number. -/
def bitLength (value : UInt64) : Nat := if value = 0 then 0 else value.toNat.log2 + 1

/-- The number of ones. -/
def onesIn (value : UInt64) : (bits : Nat) → Nat
  | 0 => 0
  | bits + 1 => (value &&& 1).toNat + onesIn (value >>> 1) bits

/-- The bytes of a number in the other order. -/
def swapped (value : UInt64) : (bytes : Nat) → UInt64
  | 0 => 0
  | bytes + 1 =>
    ((value &&& 0xff) <<< UInt64.ofNat (8 * bytes)) ||| swapped (value >>> 8) bytes

/-- Whether a condition holds. The lowest bit of its number turns it around. -/
def holds (condition : Nat) (flags : UInt64) : Bool :=
  let isSet (flag : UInt64) : Bool := flags &&& flag != 0
  let plain := match condition / 2 with
    | 0 => isSet Flag.overflow
    | 1 => isSet Flag.carry
    | 2 => isSet Flag.zero
    | 3 => isSet Flag.carry || isSet Flag.zero
    | 4 => isSet Flag.sign
    | 5 => isSet Flag.parity
    | 6 => isSet Flag.sign != isSet Flag.overflow
    | _ => isSet Flag.zero || isSet Flag.sign != isSet Flag.overflow
  if condition % 2 = 0 then plain else !plain

end X86

end StaticElf
