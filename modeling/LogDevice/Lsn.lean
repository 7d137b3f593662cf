import LogDevice.Types
import LogDevice.Lib.Word

/-!
# Log sequence numbers as an epoch and a sequence number

An LSN is an epoch in its high 32 bits and a sequence number within the epoch in its low 32 bits:
`compose_lsn`, `lsn_to_epoch` and `lsn_to_esn` of `common/types_internal.h`, written with the
shifts and masks the source uses. The lemmas read them as arithmetic on `toNat`, where an LSN is
`epoch * 2 ^ 32 + esn`: the LSNs of one epoch are ordered by their sequence numbers, a larger epoch
comes after every LSN of a smaller one, and `+ 1` moves to the next sequence number of the epoch
while that is not past `ESN_MAX`.
-/

namespace LogDevice

/-- Epoch number (`epoch_t`). -/
abbrev Epoch := UInt32

def EPOCH_INVALID : Epoch := 0

def LSN_MAX : Lsn := 18446744073709551615

/-- `compose_lsn`. -/
def compose_lsn (epoch : Epoch) (esn : Esn) : Lsn :=
  (epoch.toUInt64 <<< 32) ||| esn.toUInt64

/-- `lsn_to_epoch`. -/
def lsn_to_epoch (lsn : Lsn) : Epoch :=
  (lsn >>> 32).toUInt32

/-- `lsn_to_esn`. -/
def lsn_to_esn (lsn : Lsn) : Esn :=
  (lsn &&& 0xffffffff).toUInt32

lemma toNat_compose_lsn (epoch : Epoch) (esn : Esn) :
    (compose_lsn epoch esn).toNat = epoch.toNat * 2 ^ 32 + esn.toNat := by
  unfold compose_lsn
  have he := epoch.toNat_lt
  -- the epoch shifted by 32 bits stays below 2 ^ 64
  have hshift : epoch.toNat <<< ((32 : UInt64).toNat % 64) % 2 ^ 64 = epoch.toNat <<< 32 := by
    rw [show (32 : UInt64).toNat % 64 = 32 from rfl, Nat.shiftLeft_eq]
    exact Nat.mod_eq_of_lt (by omega)
  rw [UInt64.toNat_or, UInt64.toNat_shiftLeft, UInt32.toNat_toUInt64, UInt32.toNat_toUInt64,
    hshift, ← Nat.shiftLeft_add_eq_or_of_lt esn.toNat_lt, Nat.shiftLeft_eq]

lemma toNat_lsn_to_esn (lsn : Lsn) : (lsn_to_esn lsn).toNat = lsn.toNat % 2 ^ 32 := by
  unfold lsn_to_esn
  rw [UInt64.toNat_toUInt32, UInt64.toNat_and,
    show (0xffffffff : UInt64).toNat = 2 ^ 32 - 1 from rfl, Nat.and_two_pow_sub_one_eq_mod,
    Nat.mod_mod]

lemma toNat_lsn_to_epoch (lsn : Lsn) : (lsn_to_epoch lsn).toNat = lsn.toNat / 2 ^ 32 := by
  unfold lsn_to_epoch
  have hl := lsn.toNat_lt
  rw [UInt64.toNat_toUInt32, UInt64.toNat_shiftRight, show (32 : UInt64).toNat % 64 = 32 from rfl,
    Nat.shiftRight_eq_div_pow]
  exact Nat.mod_eq_of_lt (by omega)

@[simp] lemma lsn_to_esn_compose_lsn (epoch : Epoch) (esn : Esn) :
    lsn_to_esn (compose_lsn epoch esn) = esn := by
  rw [← UInt32.toNat_inj, toNat_lsn_to_esn, toNat_compose_lsn]
  have hs := esn.toNat_lt
  omega

@[simp] lemma lsn_to_epoch_compose_lsn (epoch : Epoch) (esn : Esn) :
    lsn_to_epoch (compose_lsn epoch esn) = epoch := by
  rw [← UInt32.toNat_inj, toNat_lsn_to_epoch, toNat_compose_lsn]
  have hs := esn.toNat_lt
  omega

/-- Every LSN is its epoch and its sequence number. -/
lemma compose_lsn_lsn_to_epoch (lsn : Lsn) :
    compose_lsn (lsn_to_epoch lsn) (lsn_to_esn lsn) = lsn := by
  rw [← UInt64.toNat_inj, toNat_compose_lsn, toNat_lsn_to_epoch, toNat_lsn_to_esn]
  omega

lemma compose_lsn_lt_compose_lsn {e e' : Epoch} {s s' : Esn} :
    compose_lsn e s < compose_lsn e' s' ↔ e < e' ∨ (e = e' ∧ s < s') := by
  rw [UInt64.lt_iff_toNat_lt, toNat_compose_lsn, toNat_compose_lsn, UInt32.lt_iff_toNat_lt,
    UInt32.lt_iff_toNat_lt, ← UInt32.toNat_inj]
  have hs := s.toNat_lt
  have hs' := s'.toNat_lt
  constructor
  · intro h
    by_cases he : e.toNat < e'.toNat
    · exact .inl he
    · refine .inr ⟨?_, ?_⟩ <;> nlinarith
  · rintro (h | ⟨h, h'⟩)
    · nlinarith
    · rw [h]
      omega

/-- The next sequence number of the epoch, while it is not past `ESN_MAX`. -/
lemma compose_lsn_add_one (epoch : Epoch) {esn : Esn} (h : esn.toNat + 1 < 2 ^ 32) :
    compose_lsn epoch esn + 1 = compose_lsn epoch (esn + 1) := by
  have he := epoch.toNat_lt
  rw [← UInt64.toNat_inj, Lib.UInt64.toNat_add_one (by rw [toNat_compose_lsn]; omega),
    toNat_compose_lsn, toNat_compose_lsn, Lib.UInt32.toNat_add_one h]
  omega

/-- The same, with the sequence numbers counted in `Nat`. -/
lemma compose_lsn_ofNat_add_one (epoch : Epoch) {k : Nat} (h : k + 1 < 2 ^ 32) :
    compose_lsn epoch (.ofNat k) + 1 = compose_lsn epoch (.ofNat (k + 1)) := by
  rw [compose_lsn_add_one epoch (by rw [UInt32.toNat_ofNat']; omega), UInt32.ofNat_add]
  rfl

/-- Sequence numbers below `2 ^ 32` make distinct LSNs of an epoch. -/
lemma compose_lsn_ofNat_inj (epoch : Epoch) {i j : Nat} (hi : i < 2 ^ 32) (hj : j < 2 ^ 32)
    (h : compose_lsn epoch (.ofNat i) = compose_lsn epoch (.ofNat j)) : i = j := by
  have h' := congrArg (fun l => (lsn_to_esn l).toNat) h
  simp only [lsn_to_esn_compose_lsn, UInt32.toNat_ofNat'] at h'
  rwa [Nat.mod_eq_of_lt hi, Nat.mod_eq_of_lt hj] at h'

/-- Below `ESN_MAX`, `+ 1` moves to the next sequence number of the epoch. -/
lemma lsn_to_esn_add_one {l : Lsn} (h : (lsn_to_esn l).toNat + 1 < 2 ^ 32) :
    (lsn_to_esn (l + 1)).toNat = (lsn_to_esn l).toNat + 1 := by
  rw [← compose_lsn_lsn_to_epoch l, compose_lsn_add_one _ h, lsn_to_esn_compose_lsn,
    lsn_to_esn_compose_lsn, Lib.UInt32.toNat_add_one h]

/-- Below `ESN_MAX`, `+ 1` stays in the epoch. -/
lemma lsn_to_epoch_add_one {l : Lsn} (h : (lsn_to_esn l).toNat + 1 < 2 ^ 32) :
    lsn_to_epoch (l + 1) = lsn_to_epoch l := by
  rw [← compose_lsn_lsn_to_epoch l, compose_lsn_add_one _ h, lsn_to_epoch_compose_lsn,
    lsn_to_epoch_compose_lsn]

/-- Below `ESN_MAX`, `+ 1` does not wrap. -/
lemma lt_add_one_of_esn {l : Lsn} (h : (lsn_to_esn l).toNat + 1 < 2 ^ 32) : l < l + 1 := by
  have hl := congrArg UInt64.toNat (compose_lsn_lsn_to_epoch l)
  rw [toNat_compose_lsn] at hl
  have he := (lsn_to_epoch l).toNat_lt
  rw [UInt64.lt_iff_toNat_lt, Lib.UInt64.toNat_add_one (by omega)]
  omega

/-- A later epoch comes after every LSN of an earlier one. -/
lemma lt_of_lsn_to_epoch_lt {l l' : Lsn} (h : lsn_to_epoch l < lsn_to_epoch l') : l < l' := by
  rw [← compose_lsn_lsn_to_epoch l, ← compose_lsn_lsn_to_epoch l', compose_lsn_lt_compose_lsn]
  exact .inl h

/-- The previous sequence number of the epoch, from a positive one. -/
lemma compose_lsn_sub_one (epoch : Epoch) {esn : Esn} (h : 0 < esn.toNat) :
    compose_lsn epoch esn - 1 = compose_lsn epoch (esn - 1) := by
  have hle : (1 : Esn) ≤ esn := UInt32.le_iff_toNat_le.mpr h
  rw [← UInt64.toNat_inj, UInt64.toNat_sub_of_le _ _ (UInt64.le_iff_toNat_le.mpr
      (by rw [toNat_compose_lsn]; simp only [UInt64.toNat_one]; omega)),
    toNat_compose_lsn, toNat_compose_lsn, UInt32.toNat_sub_of_le _ _ hle]
  simp only [UInt64.toNat_one, UInt32.toNat_one]
  omega

/-- An LSN with a positive sequence number is not `LSN_INVALID`. -/
lemma compose_lsn_ne_invalid (epoch : Epoch) {esn : Esn} (h : 0 < esn.toNat) :
    compose_lsn epoch esn ≠ LSN_INVALID := by
  intro h0
  have := congrArg UInt64.toNat h0
  rw [toNat_compose_lsn] at this
  exact absurd this (by simp only [LSN_INVALID, UInt64.toNat_zero]; omega)

end LogDevice
