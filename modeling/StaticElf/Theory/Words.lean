/-
**Words and their numbers.**

* `toNat_top_sub` — the room above a word.
* `toInt_toInt64`, `toNatClampNeg_toInt64` — a word of the lower half keeps its number when it is read
  with a sign.
* `isPowerOfTwo_iff`, `exists_exponent_lt`, `mod_eq_zero_iff` — bit tests and remainders, in numbers.
-/

import Mathlib.Tactic.Ring

namespace StaticElf

/-- The room above a word. -/
theorem toNat_top_sub (word : UInt64) :
    (0xffffffffffffffff - word).toNat = 2 ^ 64 - 1 - word.toNat := by
  have := word.toNat_lt
  rw [UInt64.toNat_sub_of_le _ _ (by rw [UInt64.le_iff_toNat_le]; simp; omega)]
  rfl

/-- A word of the lower half keeps its number when it is read with a sign. -/
theorem toInt_toInt64 {word : UInt64} (small : word.toNat < 2 ^ 63) :
    word.toInt64.toInt = word.toNat := by
  rw [← Int64.toInt_ofNat_of_lt small, ← UInt64.toInt64_ofNat', UInt64.ofNat_toNat]

/-- Such a word is not negative, and what is cut below zero is nothing of it. -/
theorem toNatClampNeg_toInt64 {word : UInt64} (small : word.toNat < 2 ^ 63) :
    ¬ word.toInt64 < 0 ∧ word.toInt64.toNatClampNeg = word.toNat := by
  rw [Int64.lt_iff_toInt_lt, Int64.toInt_zero, Int64.toNatClampNeg, toInt_toInt64 small]
  exact ⟨by omega, rfl⟩

/-- The bit test tells the powers of two. -/
theorem isPowerOfTwo_iff (word : UInt64) :
    ¬ (word = 0 || word &&& (word - 1) != 0) = true ↔ word.toNat.isPowerOfTwo := by
  rw [← Nat.ne_zero_and_sub_one_eq_zero_iff_isPowerOfTwo]
  by_cases zero : word = 0
  · simp [zero]
  · have positive : word.toNat ≠ 0 := fun same => zero (UInt64.toNat_inj.mp same)
    have less : (word - 1).toNat = word.toNat - 1 := by
      rw [UInt64.toNat_sub_of_le _ _ (by rw [UInt64.le_iff_toNat_le]; simp; omega)]
      rfl
    simp only [zero, decide_false, Bool.false_or, bne_iff_ne, ne_eq, not_not, positive,
      not_false_eq_true, true_and, ← UInt64.toNat_inj, UInt64.toNat_and, less, UInt64.toNat_zero]

/-- A word that is a power of two has an exponent below its width. -/
theorem exists_exponent_lt {word : UInt64} (power : word.toNat.isPowerOfTwo) :
    ∃ k < 64, word.toNat = 2 ^ k := by
  obtain ⟨k, same⟩ := power
  refine ⟨k, ?_, same⟩
  have small := word.toNat_lt
  rw [same] at small
  exact (Nat.pow_lt_pow_iff_right (by decide)).mp small

theorem mod_eq_zero_iff (word divisor : UInt64) :
    word % divisor = 0 ↔ divisor.toNat ∣ word.toNat := by
  rw [← UInt64.toNat_inj, UInt64.toNat_mod, UInt64.toNat_zero, Nat.dvd_iff_mod_eq_zero]

end StaticElf
