/-
**Arguments of system calls.**

* `Arguments` — the six arguments of a call, with the ways in which calls read them.
-/

import StaticElf.Linux.Delivery

namespace StaticElf.Linux

/-- The arguments of a system call. -/
structure Arguments where
  first : UInt64
  second : UInt64
  third : UInt64
  fourth : UInt64
  fifth : UInt64
  sixth : UInt64

/-- The low half of an argument, as a number. -/
def low (value : UInt64) : Nat := value.toUInt32.toNat

/-- The low half of an argument, with its sign. -/
def lowSigned (value : UInt64) : Int := value.toUInt32.toInt32.toInt

/-- Whether all bits of `bits` are set in an argument. -/
def hasBits (value bits : UInt64) : Bool := value &&& bits == bits

/-- Whether an argument is negative. -/
def isNegative (value : UInt64) : Bool := 0x8000000000000000 ≤ value

/-- A number as the result of a call. -/
def result (value : Nat) : UInt64 := UInt64.ofNat value

/-- The result of a call that failed. -/
def failure (errno : Errno) : UInt64 := 0 - UInt64.ofNat errno.code.toNat

/-- A system call. -/
abbrev Service := Arguments → Kernel UInt64

namespace Service

/-- A call that does nothing and succeeds. -/
def nothing : Service := fun _ => return 0

/-- A call that is refused. -/
def refused (errno : Errno) : Service := fun _ => Kernel.fail errno

end Service

end StaticElf.Linux
