/-
**The numbers that little-endian bytes stand for.**

* `leValue_leBytes` — reading what was written gives the number modulo `256 ^ width`.
-/

import Mathlib.Tactic.Ring
import StaticElf.Bytes

namespace StaticElf

/-- **Reading what was written** gives the number modulo the range of the width. -/
theorem leValue_leBytes (width value : Nat) :
    leValue (leBytes width value) = value % 256 ^ width := by
  induction width generalizing value with
  | zero => simp [leBytes, leValue, Nat.mod_one]
  | succ width ih =>
    rw [leBytes, leValue, ih, Nat.pow_succ', Nat.mod_mul]
    simp

end StaticElf
