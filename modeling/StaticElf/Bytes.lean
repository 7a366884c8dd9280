/-
**Byte strings and little-endian words.**

A byte string is a list of bytes. A word of a given width is written least significant byte first.

* `leBytes width value` writes the low `width` bytes of a natural number, `leValue` reads them back.
* `leBytes_leValue` — writing what was read gives the bytes.
* `byteBefore` — the byte order of two byte strings.
-/

namespace StaticElf

/-- A finite string of bytes. -/
abbrev Bytes := List UInt8

/-- The low `width` bytes of a number, least significant first. -/
def leBytes : (width : Nat) → (value : Nat) → Bytes
  | 0, _ => []
  | width + 1, value => UInt8.ofNat value :: leBytes width (value / 256)

/-- The number with the given bytes, least significant first. -/
def leValue : Bytes → Nat
  | [] => 0
  | byte :: rest => byte.toNat + 256 * leValue rest

@[simp] theorem length_leBytes (width value : Nat) : (leBytes width value).length = width := by
  induction width generalizing value with
  | zero => rfl
  | succ width ih => simp [leBytes, ih]

theorem leBytes_leValue (bytes : Bytes) : leBytes bytes.length (leValue bytes) = bytes := by
  induction bytes with
  | nil => rfl
  | cons byte rest ih =>
    have small : byte.toNat < 256 := byte.toNat_lt
    have quotient : (byte.toNat + 256 * leValue rest) / 256 = leValue rest := by omega
    have head : UInt8.ofNat (byte.toNat + 256 * leValue rest) = byte := by
      apply UInt8.toNat_inj.mp
      simp
    rw [List.length_cons, leValue, leBytes, quotient, head, ih]

/-- The byte order: the first different byte decides, and a string stands before its extensions. -/
def byteBefore : Bytes → Bytes → Bool
  | [], [] => false
  | [], _ :: _ => true
  | _ :: _, [] => false
  | byte :: rest, other :: others =>
    byte.toNat < other.toNat || (byte = other && byteBefore rest others)

/-- A 16-bit word as two bytes. -/
def u16Bytes (word : UInt16) : Bytes := leBytes 2 word.toNat

/-- A 32-bit word as four bytes. -/
def u32Bytes (word : UInt32) : Bytes := leBytes 4 word.toNat

/-- A 64-bit word as eight bytes. -/
def u64Bytes (word : UInt64) : Bytes := leBytes 8 word.toNat

@[simp] theorem length_u16Bytes (word : UInt16) : (u16Bytes word).length = 2 := length_leBytes ..

@[simp] theorem length_u32Bytes (word : UInt32) : (u32Bytes word).length = 4 := length_leBytes ..

@[simp] theorem length_u64Bytes (word : UInt64) : (u64Bytes word).length = 8 := length_leBytes ..

end StaticElf
