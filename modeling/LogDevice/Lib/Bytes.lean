import Mathlib

/-!
# Fixed-width byte encodings and the bytewise order

An ordered key-value store with the default comparator compares keys bytewise: as unsigned
bytes, the first difference deciding, a proper prefix first. That is the lexicographic order `<`
of `List UInt8`. Keys built by concatenation compare by their first parts when these have the same
length (`append_lt_append_iff`).

`beBytes n x` is `x` in `n` bytes, the most significant first, and `ofBeBytes` reads it back
(`ofBeBytes_beBytes`); such encodings compare bytewise as the numbers do
(`beBytes_lt_beBytes_iff`). `leBytes n x`, the least significant byte first, is how a
little-endian host lays out an integer in memory; it reads back with `ofLeBytes` but does not keep
the order of the numbers past one byte.
-/

namespace LogDevice.Lib

/-- Comparing the high parts, then the low parts, is comparing the numbers. -/
lemma lt_iff_div_lt_or {x y B : ℕ} (hB : 0 < B) :
    x < y ↔ x / B < y / B ∨ x / B = y / B ∧ x % B < y % B := by
  have hx := Nat.div_add_mod x B
  have hy := Nat.div_add_mod y B
  have hxB := Nat.mod_lt x hB
  have hyB := Nat.mod_lt y hB
  constructor
  · intro h
    rcases lt_trichotomy (x / B) (y / B) with hq | hq | hq
    · exact .inl hq
    · refine .inr ⟨hq, ?_⟩
      rw [hq] at hx
      omega
    · -- a larger high part would make `x` the larger number
      have hmul := Nat.mul_le_mul_left B hq
      rw [Nat.mul_succ] at hmul
      omega
  · rintro (hq | ⟨hq, hr⟩)
    · have hmul := Nat.mul_le_mul_left B hq
      rw [Nat.mul_succ] at hmul
      omega
    · rw [hq] at hx
      omega

/-- `x` in `n` bytes, the most significant first (`htobe64` for `n = 8`); `x` is read modulo
`256 ^ n`. -/
def beBytes : ℕ → ℕ → List UInt8
  | 0, _ => []
  | n + 1, x => UInt8.ofNat (x / 256 ^ n) :: beBytes n (x % 256 ^ n)

/-- `x` in `n` bytes, the least significant first: an integer in the memory of a little-endian
host. -/
def leBytes (n x : ℕ) : List UInt8 := (beBytes n x).reverse

/-- The number bytes stand for, the most significant first (`be64toh` for eight). -/
def ofBeBytes (bytes : List UInt8) : ℕ := bytes.foldl (fun acc b => acc * 256 + b.toNat) 0

/-- The number bytes stand for, the least significant first. -/
def ofLeBytes (bytes : List UInt8) : ℕ := ofBeBytes bytes.reverse

@[simp] lemma length_beBytes (n x : ℕ) : (beBytes n x).length = n := by
  induction n generalizing x with
  | zero => rfl
  | succ n ih => simp [beBytes, ih]

@[simp] lemma length_leBytes (n x : ℕ) : (leBytes n x).length = n := by
  simp [leBytes]

/-- Reading `beBytes` after a prefix that stands for `acc`. -/
lemma foldl_beBytes (n : ℕ) : ∀ x acc : ℕ,
    (beBytes n x).foldl (fun acc b => acc * 256 + b.toNat) acc = acc * 256 ^ n + x % 256 ^ n := by
  induction n with
  | zero => intro x acc; simp [beBytes, Nat.mod_one]
  | succ n ih =>
    intro x acc
    have h8 : (2 : ℕ) ^ 8 = 256 := by norm_num
    rw [beBytes, List.foldl_cons, ih, Nat.mod_mod, UInt8.toNat_ofNat', h8, Nat.mod_pow_succ]
    -- the leading byte and the rest are the high and low parts of `x % 256 ^ (n + 1)`
    generalize x / 256 ^ n % 256 = q
    generalize x % 256 ^ n = r
    ring

lemma ofBeBytes_beBytes (n x : ℕ) : ofBeBytes (beBytes n x) = x % 256 ^ n := by
  rw [ofBeBytes, foldl_beBytes, zero_mul, zero_add]

lemma ofLeBytes_leBytes (n x : ℕ) : ofLeBytes (leBytes n x) = x % 256 ^ n := by
  rw [ofLeBytes, leBytes, List.reverse_reverse, ofBeBytes_beBytes]

/-- A 64-bit word in eight bytes, the most significant first, reads back (`be64toh` after
`htobe64`). -/
lemma ofBeBytes_beBytes_toNat (v : UInt64) : (ofBeBytes (beBytes 8 v.toNat)).toUInt64 = v := by
  rw [ofBeBytes_beBytes, Nat.mod_eq_of_lt (by simpa using v.toNat_lt)]
  exact UInt64.ofNat_toNat

/-- Machine integers in their little-endian bytes read back. -/
lemma toUInt16_ofLeBytes (x : UInt16) : (ofLeBytes (leBytes 2 x.toNat)).toUInt16 = x := by
  rw [ofLeBytes_leBytes, Nat.mod_eq_of_lt (by simpa using x.toNat_lt)]
  exact UInt16.ofNat_toNat

lemma toUInt32_ofLeBytes (x : UInt32) : (ofLeBytes (leBytes 4 x.toNat)).toUInt32 = x := by
  rw [ofLeBytes_leBytes, Nat.mod_eq_of_lt (by simpa using x.toNat_lt)]
  exact UInt32.ofNat_toNat

lemma toUInt64_ofLeBytes (x : UInt64) : (ofLeBytes (leBytes 8 x.toNat)).toUInt64 = x := by
  rw [ofLeBytes_leBytes, Nat.mod_eq_of_lt (by simpa using x.toNat_lt)]
  exact UInt64.ofNat_toNat

/-- Numbers that fit in `n` bytes are equal exactly when their encodings are. -/
lemma beBytes_inj {n x y : ℕ} (hx : x < 256 ^ n) (hy : y < 256 ^ n) :
    beBytes n x = beBytes n y ↔ x = y := by
  constructor
  · intro h
    have hread := congrArg ofBeBytes h
    rwa [ofBeBytes_beBytes, ofBeBytes_beBytes, Nat.mod_eq_of_lt hx, Nat.mod_eq_of_lt hy] at hread
  · rintro rfl
    rfl

/-- The number in `n` bytes of `blob` from `offset`, the most significant first: a big-endian
field copied out with `memcpy` and read with `be64toh` or `be32toh`. -/
def readBE (blob : List UInt8) (offset n : ℕ) : ℕ := ofBeBytes ((blob.drop offset).take n)

/-- A field written with `beBytes` after `pre` reads back, modulo its width. -/
lemma readBE_append {pre : List UInt8} {offset : ℕ} (hpre : pre.length = offset)
    (post : List UInt8) (n x : ℕ) :
    readBE (pre ++ (beBytes n x ++ post)) offset n = x % 256 ^ n := by
  rw [readBE, ← hpre, List.drop_left, List.take_left' (length_beBytes n x), ofBeBytes_beBytes]

lemma toUInt64_readBE {pre : List UInt8} {offset : ℕ} (hpre : pre.length = offset)
    (post : List UInt8) (v : UInt64) :
    (readBE (pre ++ (beBytes 8 v.toNat ++ post)) offset 8).toUInt64 = v := by
  rw [readBE_append hpre, Nat.mod_eq_of_lt (by simpa using v.toNat_lt)]
  exact UInt64.ofNat_toNat

lemma toUInt32_readBE {pre : List UInt8} {offset : ℕ} (hpre : pre.length = offset)
    (post : List UInt8) (v : UInt32) :
    (readBE (pre ++ (beBytes 4 v.toNat ++ post)) offset 4).toUInt32 = v := by
  rw [readBE_append hpre, Nat.mod_eq_of_lt (by simpa using v.toNat_lt)]
  exact UInt32.ofNat_toNat

/-- The number in `n` bytes of `blob` from `offset`, the least significant first: a field in host
order copied out of a packed struct. -/
def readLE (blob : List UInt8) (offset n : ℕ) : ℕ := ofLeBytes ((blob.drop offset).take n)

/-- A field written with `leBytes` after `pre` reads back, modulo its width. -/
lemma readLE_append {pre : List UInt8} {offset : ℕ} (hpre : pre.length = offset)
    (post : List UInt8) (n x : ℕ) :
    readLE (pre ++ (leBytes n x ++ post)) offset n = x % 256 ^ n := by
  rw [readLE, ← hpre, List.drop_left, List.take_left' (length_leBytes n x), ofLeBytes_leBytes]

/-- Reading past a part of the blob that lies before the field. -/
lemma readLE_append_of_le {a : List UInt8} {offset : ℕ} (h : a.length ≤ offset) (rest : List UInt8)
    (n : ℕ) : readLE (a ++ rest) offset n = readLE rest (offset - a.length) n := by
  rw [readLE, readLE, List.drop_append, List.drop_eq_nil_of_le h, List.nil_append]

lemma readLE_cons_of_pos {offset : ℕ} (h : 0 < offset) (c : UInt8) (rest : List UInt8) (n : ℕ) :
    readLE (c :: rest) offset n = readLE rest (offset - 1) n := by
  obtain ⟨k, rfl⟩ : ∃ k, offset = k + 1 := ⟨offset - 1, by omega⟩
  rfl

@[simp] lemma readLE_leBytes_append (n x : ℕ) (rest : List UInt8) :
    readLE (leBytes n x ++ rest) 0 n = x % 256 ^ n :=
  readLE_append (rfl : ([] : List UInt8).length = 0) rest n x

@[simp] lemma readLE_leBytes (n x : ℕ) : readLE (leBytes n x) 0 n = x % 256 ^ n := by
  simpa using readLE_leBytes_append n x []

@[simp] lemma readLE_cons_zero (c : UInt8) (rest : List UInt8) : readLE (c :: rest) 0 1 = c.toNat := by
  simp [readLE, ofLeBytes, ofBeBytes]

/-- Numbers in `n` bytes, the most significant first, compare bytewise as the numbers do. -/
lemma beBytes_lt_beBytes_iff {n : ℕ} : ∀ {x y : ℕ}, x < 256 ^ n → y < 256 ^ n →
    (beBytes n x < beBytes n y ↔ x < y) := by
  induction n with
  | zero =>
    intro x y hx hy
    simp only [pow_zero, Nat.lt_one_iff] at hx hy
    subst hx hy
    simp [beBytes]
  | succ n ih =>
    intro x y hx hy
    have hB : 0 < 256 ^ n := by positivity
    -- the leading bytes are the high parts, which fit in a byte
    have hxq : x / 256 ^ n < 256 := Nat.div_lt_of_lt_mul (by rw [← pow_succ]; exact hx)
    have hyq : y / 256 ^ n < 256 := Nat.div_lt_of_lt_mul (by rw [← pow_succ]; exact hy)
    have hbyte : ∀ q : ℕ, q < 256 → (UInt8.ofNat q).toNat = q := fun _ hq =>
      UInt8.toNat_ofNat_of_lt' hq
    rw [beBytes, beBytes, List.cons_lt_cons_iff, ih (Nat.mod_lt _ hB) (Nat.mod_lt _ hB),
      lt_iff_div_lt_or (x := x) (y := y) hB, UInt8.lt_iff_toNat_lt, ← UInt8.toNat_inj,
      hbyte _ hxq, hbyte _ hyq]

/-- Keys that start with parts of one length compare by those parts, then by the rest. -/
lemma append_lt_append_iff {α : Type _} [LT α] :
    ∀ {l₁ l₂ r₁ r₂ : List α}, l₁.length = l₂.length →
      (l₁ ++ r₁ < l₂ ++ r₂ ↔ l₁ < l₂ ∨ l₁ = l₂ ∧ r₁ < r₂)
  | [], [], _, _, _ => by simp [List.not_lt_nil]
  | a :: l₁, b :: l₂, r₁, r₂, h => by
    have ih : l₁ ++ r₁ < l₂ ++ r₂ ↔ _ := append_lt_append_iff (Nat.succ.inj h)
    simp only [List.cons_append, List.cons_lt_cons_iff, ih, List.cons.injEq]
    tauto

/-- Byte strings that differ within their first `n` bytes compare as those bytes do. -/
lemma lt_iff_take_lt_of_take_ne : ∀ {n : ℕ} {l₁ l₂ : List UInt8}, n ≤ l₁.length → n ≤ l₂.length →
    l₁.take n ≠ l₂.take n → (l₁ < l₂ ↔ l₁.take n < l₂.take n)
  | 0, _, _, _, _, h => absurd rfl h
  | _ + 1, [], _, h₁, _, _ => by simp at h₁
  | _ + 1, _ :: _, [], _, h₂, _ => by simp at h₂
  | n + 1, a :: l₁, b :: l₂, h₁, h₂, h => by
    simp only [List.take_succ_cons, List.cons_lt_cons_iff]
    by_cases hab : a = b
    · -- the first bytes agree: the difference is further on
      subst hab
      have ih := lt_iff_take_lt_of_take_ne (show n ≤ l₁.length by simpa using h₁)
        (show n ≤ l₂.length by simpa using h₂) (fun e => h (by simp [e]))
      simp [UInt8.lt_irrefl, ih]
    · simp [hab]

/-- A byte string comes before another it is a prefix of exactly when it is shorter. -/
lemma lt_iff_length_lt_of_isPrefix {l₁ l₂ : List UInt8} (h : l₁ <+: l₂) :
    l₁ < l₂ ↔ l₁.length < l₂.length := by
  induction l₁ generalizing l₂ with
  | nil => cases l₂ <;> simp [List.not_lt_nil, List.nil_lt_cons]
  | cons a l₁ ih =>
    cases l₂ with
    | nil => simp at h
    | cons b l₂ =>
      obtain ⟨rfl, htail⟩ := List.cons_prefix_cons.mp h
      simp [ih htail]

/-- Two 64-bit words in eight bytes each, the most significant first, compare bytewise as the
pairs do, the first word first. -/
lemma beBytes_pair_lt_iff {a b c d : UInt64} :
    beBytes 8 a.toNat ++ beBytes 8 b.toNat < beBytes 8 c.toNat ++ beBytes 8 d.toNat ↔
      Prod.Lex (· < ·) (· < ·) (a, b) (c, d) := by
  have h₈ : ∀ v : UInt64, v.toNat < 256 ^ 8 := fun v => by simpa using v.toNat_lt
  rw [append_lt_append_iff (by simp), beBytes_lt_beBytes_iff (h₈ a) (h₈ c),
    beBytes_lt_beBytes_iff (h₈ b) (h₈ d), beBytes_inj (h₈ a) (h₈ c), UInt64.toNat_inj,
    Prod.lex_def, UInt64.lt_iff_toNat_lt, UInt64.lt_iff_toNat_lt]

/-- No byte string of a length comes before the one of all `0xff` bytes of that length. -/
lemma not_replicate_lt : ∀ {n : ℕ} {b : List UInt8}, b.length = n → ¬List.replicate n 255 < b
  | _, [], h => by simp [← h, List.not_lt_nil]
  | 0, _ :: _, h => by simp at h
  | n + 1, x :: b, h => by
    have hx : ¬(255 : UInt8) < x := UInt8.not_lt.mpr (UInt8.le_iff_toNat_le.mpr (by
      have := x.toNat_lt
      simp only [UInt8.reduceToNat]
      omega))
    rw [List.replicate_succ, List.cons_lt_cons_iff]
    rintro (hlt | ⟨-, hrest⟩)
    · exact hx hlt
    · exact not_replicate_lt (n := n) (by simpa using h) hrest

/-- A byte neither below nor above another is that byte. -/
lemma eq_of_not_lt_of_not_lt {a b : UInt8} (hab : ¬a < b) (hba : ¬b < a) : a = b :=
  UInt8.le_antisymm (UInt8.not_lt.mp hba) (UInt8.not_lt.mp hab)

/-! ### Over the common length -/

section CommonPrefix

variable {α : Type _} {l₁ l₂ : List α}

/-- Strings that agree over their common length: the shorter is a prefix of the other. -/
lemma prefix_of_take_min_eq (h : l₁.take (min l₁.length l₂.length) = l₂.take (min l₁.length l₂.length))
    (hle : l₁.length ≤ l₂.length) : l₁ <+: l₂ := by
  rw [Nat.min_eq_left hle, List.take_length] at h
  exact List.prefix_iff_eq_take.mpr h

/-- A prefix agrees with the string over their common length. -/
lemma take_min_eq_of_isPrefix (h : l₂ <+: l₁) :
    l₁.take (min l₁.length l₂.length) = l₂.take (min l₁.length l₂.length) := by
  rw [Nat.min_eq_right h.length_le, List.take_length]
  exact (List.prefix_iff_eq_take.mp h).symm

end CommonPrefix

/-- Bytewise, strings compare by their common length, and then the shorter comes first. -/
lemma lt_iff_take_min {l₁ l₂ : List UInt8} :
    l₁ < l₂ ↔ l₁.take (min l₁.length l₂.length) < l₂.take (min l₁.length l₂.length) ∨
      l₁.take (min l₁.length l₂.length) = l₂.take (min l₁.length l₂.length) ∧
        l₁.length < l₂.length := by
  by_cases ht : l₁.take (min l₁.length l₂.length) = l₂.take (min l₁.length l₂.length)
  · rw [ht]
    simp only [List.lt_irrefl, true_and, false_or]
    rcases le_total l₁.length l₂.length with hle | hle
    · exact lt_iff_length_lt_of_isPrefix (prefix_of_take_min_eq ht hle)
    · -- the second is a prefix of the first, so it does not come after it
      have hp : l₂ <+: l₁ := prefix_of_take_min_eq (by rw [min_comm]; exact ht.symm) hle
      exact iff_of_false (List.not_lt.mpr hp.le) (by omega)
  · rw [lt_iff_take_lt_of_take_ne (min_le_left _ _) (min_le_right _ _) ht]
    simp [ht]

end LogDevice.Lib
