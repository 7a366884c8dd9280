/-
**The memory of a program.**

* `Memory` — the bytes that can be reached, with their permissions.
* `Memory.fetch` — the bytes that can be run from an address on.
-/

import StaticElf.Elf.Header

namespace StaticElf.Machine

/-- A byte of memory and what may be done with it. -/
structure Cell where
  byte : UInt8
  permissions : Permissions
  deriving DecidableEq, Repr

/-- The memory of a program, by address. -/
abbrev Memory := Nat → Option Cell

namespace Memory

/-- The byte at an address that can be read. -/
def readable? (memory : Memory) (address : Nat) : Option UInt8 :=
  (memory address).bind fun cell => if cell.permissions.has .read then some cell.byte else none

/-- The byte at an address that can be run. -/
def runnable? (memory : Memory) (address : Nat) : Option UInt8 :=
  (memory address).bind fun cell => if cell.permissions.has .execute then some cell.byte else none

/-- The bytes that can be run from an address on, at most `count`. -/
def fetch (memory : Memory) : (count : Nat) → (address : Nat) → Bytes
  | 0, _ => []
  | count + 1, address =>
    match memory.runnable? address with
    | some byte => byte :: memory.fetch count (address + 1)
    | none => []

end Memory

/-- The number of bytes of a page, as a number. -/
def pageBytes : Nat := Elf.pageSize.toNat

end StaticElf.Machine
