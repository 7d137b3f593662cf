import Mathlib

/-!
# Successors of machine words

Counters and sequence numbers of the modelled code are fixed-width words, so `x + 1` wraps at the
top of the range. The lemmas here say what `x + 1` is when it does not wrap, for the 32- and 64-bit
words the code uses. Nothing here is specific to one program.
-/

namespace LogDevice.Lib

namespace UInt64

/-- Below the top of the range, the successor is the successor of the value. -/
lemma toNat_add_one {v : UInt64} (h : v.toNat + 1 < 2 ^ 64) : (v + 1).toNat = v.toNat + 1 := by
  rw [UInt64.toNat_add]
  simp only [UInt64.toNat_one]
  exact Nat.mod_eq_of_lt h

/-- Below the top of the range, the successor does not wrap to zero. -/
lemma add_one_ne_zero {v : UInt64} (h : v.toNat + 1 < 2 ^ 64) : v + 1 ≠ 0 := by
  intro h0
  have := congrArg UInt64.toNat h0
  rw [toNat_add_one h] at this
  simp at this

/-- Below the top of the range, the successor is above everything up to the value. -/
lemma le_add_one {v w : UInt64} (h : v.toNat + 1 < 2 ^ 64) (hw : w ≤ v) : w ≤ v + 1 := by
  rw [UInt64.le_iff_toNat_le] at *
  rw [toNat_add_one h]
  omega

end UInt64

namespace UInt32

/-- Below the top of the range, the successor is the successor of the value. -/
lemma toNat_add_one {v : UInt32} (h : v.toNat + 1 < 2 ^ 32) : (v + 1).toNat = v.toNat + 1 := by
  rw [UInt32.toNat_add]
  simp only [UInt32.toNat_one]
  exact Nat.mod_eq_of_lt h

end UInt32

end LogDevice.Lib
