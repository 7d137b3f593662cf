import Mathlib

/-!
# Base-128 varints

folly's `encodeVarint` and `decodeVarint`: a number in groups of seven bits, the least significant
group first, each byte but the last with its high bit (`0x80`) set. `decodeVarint` reads at most
`kMaxVarintLength64` bytes and keeps the value modulo `2 ^ 64`, as the 64-bit reader does (the
tenth byte contributes one bit); it fails where the bytes end inside the number, or where the tenth
byte still has its high bit set.

An encoding of a number below `2 ^ 64` reads back as that number, the bytes after it untouched
(`decodeVarint_encodeVarint`), and what is left after a read is a suffix of what was read from
(`decodeVarint_suffix`).
-/

namespace LogDevice.Lib

/-- `folly::kMaxVarintLength64`. -/
def kMaxVarintLength64 : ℕ := 10

/-- `folly::encodeVarint`: while `val ≥ 128`, the byte `0x80 | (val & 0x7f)`, then `val >>= 7`. -/
def encodeVarint (val : ℕ) : List UInt8 :=
  if val < 128 then [UInt8.ofNat val]
  else UInt8.ofNat (val % 128 + 128) :: encodeVarint (val / 128)
termination_by val
decreasing_by omega

/-- The loop of `folly::decodeVarint` with `n` more bytes allowed: `none` where the bytes end
inside the number or the allowance runs out. -/
def decodeVarintFrom : ℕ → List UInt8 → Option (ℕ × List UInt8)
  | 0, _ => none
  | _ + 1, [] => none
  | n + 1, b :: rest =>
    if b.toNat < 128 then some (b.toNat, rest)
    else (decodeVarintFrom n rest).map fun p => (b.toNat % 128 + 128 * p.1, p.2)

/-- `folly::decodeVarint` on a range: the number and the bytes after it. -/
def decodeVarint (bytes : List UInt8) : Option (ℕ × List UInt8) :=
  (decodeVarintFrom kMaxVarintLength64 bytes).map fun p => (p.1 % 2 ^ 64, p.2)

/-! ### The encoder -/

lemma encodeVarint_of_lt {val : ℕ} (h : val < 128) : encodeVarint val = [UInt8.ofNat val] := by
  rw [encodeVarint, if_pos h]

lemma encodeVarint_of_le {val : ℕ} (h : 128 ≤ val) :
    encodeVarint val = UInt8.ofNat (val % 128 + 128) :: encodeVarint (val / 128) := by
  rw [encodeVarint, if_neg (by omega)]

/-- A number below `128 ^ k` takes at most `k` bytes. -/
lemma length_encodeVarint_le : ∀ {k val : ℕ}, 0 < k → val < 128 ^ k → (encodeVarint val).length ≤ k
  | 0, _, hk, _ => absurd hk (Nat.lt_irrefl 0)
  | k + 1, val, _, hval => by
    by_cases hsmall : val < 128
    · rw [encodeVarint_of_lt hsmall]
      simp
    · -- the rest of the number is below `128 ^ k`, and `k` is positive
      have hk : 0 < k := by
        by_contra hk0
        rw [Nat.eq_zero_of_not_pos hk0] at hval
        omega
      have hrest : val / 128 < 128 ^ k := Nat.div_lt_of_lt_mul (by rwa [← pow_succ'])
      rw [encodeVarint_of_le (by omega), List.length_cons]
      exact Nat.succ_le_succ (length_encodeVarint_le hk hrest)

/-! ### Reading back -/

/-- An encoding read with enough bytes allowed gives the number back. -/
lemma decodeVarintFrom_encodeVarint (rest : List UInt8) :
    ∀ (val n : ℕ), (encodeVarint val).length ≤ n →
      decodeVarintFrom n (encodeVarint val ++ rest) = some (val, rest) := by
  intro val
  induction val using Nat.strongRecOn with
  | ind val ih =>
    intro n hn
    by_cases hsmall : val < 128
    · -- one byte, without its high bit
      rw [encodeVarint_of_lt hsmall] at hn ⊢
      obtain ⟨n, rfl⟩ : ∃ m, n = m + 1 := ⟨n - 1, by simp at hn; omega⟩
      have hbyte : (UInt8.ofNat val).toNat = val := UInt8.toNat_ofNat_of_lt' (show val < 256 by omega)
      simp [decodeVarintFrom, hbyte, hsmall]
    · -- a byte with its high bit, then the rest of the number
      rw [encodeVarint_of_le (by omega)] at hn ⊢
      obtain ⟨n, rfl⟩ : ∃ m, n = m + 1 := ⟨n - 1, by simp at hn; omega⟩
      have hbyte : (UInt8.ofNat (val % 128 + 128)).toNat = val % 128 + 128 :=
        UInt8.toNat_ofNat_of_lt' (show val % 128 + 128 < 256 by omega)
      have hrest := ih (val / 128) (by omega) n (by simpa using hn)
      simp only [List.cons_append, decodeVarintFrom, hbyte, hrest, Option.map_some]
      rw [if_neg (by omega)]
      congr 2
      omega

/-- A number below `2 ^ 64` reads back from its encoding, the bytes after it untouched. -/
lemma decodeVarint_encodeVarint {val : ℕ} (h : val < 2 ^ 64) (rest : List UInt8) :
    decodeVarint (encodeVarint val ++ rest) = some (val, rest) := by
  have hlen : (encodeVarint val).length ≤ kMaxVarintLength64 :=
    length_encodeVarint_le (by decide) (lt_of_lt_of_le h (by decide))
  rw [decodeVarint, decodeVarintFrom_encodeVarint rest val _ hlen, Option.map_some,
    Nat.mod_eq_of_lt h]

/-- What is left after a read is what follows the bytes read. -/
lemma decodeVarintFrom_suffix : ∀ {n : ℕ} {bytes rest : List UInt8} {v : ℕ},
    decodeVarintFrom n bytes = some (v, rest) → rest <:+ bytes
  | 0, _, _, _, h => by simp [decodeVarintFrom] at h
  | _ + 1, [], _, _, h => by simp [decodeVarintFrom] at h
  | n + 1, b :: bytes, rest, v, h => by
    simp only [decodeVarintFrom] at h
    split at h
    · cases h
      exact List.suffix_cons b bytes
    · obtain ⟨p, hp, hv⟩ := Option.map_eq_some_iff.mp h
      cases hv
      exact (decodeVarintFrom_suffix hp).trans (List.suffix_cons b bytes)

lemma decodeVarint_suffix {bytes rest : List UInt8} {v : ℕ}
    (h : decodeVarint bytes = some (v, rest)) : rest <:+ bytes := by
  obtain ⟨p, hp, hv⟩ := Option.map_eq_some_iff.mp h
  cases hv
  exact decodeVarintFrom_suffix hp

end LogDevice.Lib
