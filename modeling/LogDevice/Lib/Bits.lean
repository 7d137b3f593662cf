import Mathlib

/-!
# One bit of a machine word

A flag of the modelled code is one bit of a word, tested as `flags & FLAG != 0`. The lemma here
reads such a test as the bit of the value, so that setting (`|`) and clearing (`& ~`) a flag are
read through `Nat.testBit_or` and `Nat.testBit_and`. Nothing here is specific to one program.
-/

namespace LogDevice.Lib

/-- Testing a one-bit mask reads that bit. -/
lemma and_bne_zero_eq_testBit (x mask : UInt32) {k : ℕ} (hmask : mask.toNat = 2 ^ k) :
    (x &&& mask != 0) = x.toNat.testBit k := by
  have hbit : (x &&& mask).toNat = (x.toNat.testBit k).toNat * 2 ^ k := by
    rw [UInt32.toNat_and, hmask, Nat.and_two_pow]
  cases hb : x.toNat.testBit k with
  | false =>
    -- the bit is clear: the mask leaves nothing
    have hzero : x &&& mask = 0 := UInt32.toNat_inj.mp (by rw [hbit, hb]; simp)
    rw [hzero]
    rfl
  | true =>
    have hne : x &&& mask ≠ 0 := fun h0 => by
      have h := congrArg UInt32.toNat h0
      rw [hbit, hb] at h
      simp at h
    exact bne_iff_ne.mpr hne

end LogDevice.Lib
