import LogDevice.LocalLogStore.RocksDBKeyFormat
import LogDevice.Metadata

/-!
# The merge operator of the metadata column family

Model of `PartitionedRocksDBStore::MetadataMergeOperator::Merge`
(`server/locallogstore/PartitionedRocksDBStore.cpp`) and of the keys and values it merges: the
mutable per-epoch metadata under `PerEpochLogMetaKey` (`'W'`), merged by
`MutablePerEpochLogMetadata::merge`, and the findKey directory under `CustomIndexDirectoryKey`
(`'M'`, `RocksDBKeyFormat.h`), whose values `CustomIndexDirectoryValue` (`PartitionMetadata.h`) are
a key and an LSN, of which the merge keeps the one `compare` finds smaller.

`compare` runs `memcmp` over the common prefix of the two keys, then takes the shorter key or the
smaller LSN. It is the order of `(key, LSN)` pairs except where one key is a proper prefix of the
other: then a smaller LSN wins over the shorter key (`compare_create_iff`). For such a pair both
orders compare smaller, and the merge keeps its left operand whichever that is
(`Merge_keeps_left_of_isPrefix`).

Values are read the way the source reads memory, in host byte order (little-endian); `Merge`
returns `none` where the source returns `false`.
-/

namespace LogDevice

open Lib

namespace RocksDBKeyFormat

/-- `PerEpochLogMetaKey::HEADER_MUTABLE`, `prefix(KeyPrefix::PerEpochLogMeta_Mutable)`. -/
def PerEpochLogMetaKey.HEADER_MUTABLE : UInt8 := 'W'.toUInt8

namespace CustomIndexDirectoryKey

/-- `CustomIndexDirectoryKey::HEADER`, `prefix(KeyPrefix::CustomIndexDirectory)`. -/
def HEADER : UInt8 := 'M'.toUInt8

/-- `CustomIndexDirectoryKey(log_id, index_type, partition_id)`, packed: the header, the log id in
8 bytes big-endian, the index type, the partition id in 8 bytes big-endian. -/
def create (log_id : LogId) (index_type : UInt8) (partition_id : UInt64) : List UInt8 :=
  HEADER :: beBytes 8 log_id.toNat ++ index_type :: beBytes 8 partition_id.toNat

/-- `CustomIndexDirectoryKey::getIndexType`: the byte after the log id. -/
def getIndexType (blob : List UInt8) : UInt8 := blob.getD 9 0

/-- `CustomIndexDirectoryKey::valid`: the size of the packed key, its header, and an index type
of `allEligibleIndexTypes()`. -/
def valid (blob : List UInt8) : Bool :=
  if blob.length ≠ 18 ∨ blob.getD 0 0 ≠ HEADER then false
  else getIndexType blob == FIND_KEY_INDEX

lemma valid_create (log_id : LogId) (partition_id : UInt64) :
    valid (create log_id FIND_KEY_INDEX partition_id) = true := by
  simp [valid, create, getIndexType, HEADER]

end CustomIndexDirectoryKey

end RocksDBKeyFormat

namespace CustomIndexDirectoryValue

/-- `CustomIndexDirectoryValue::create`: the length of the key as an `unsigned short`, the key, and
the LSN. -/
def create (key : List UInt8) (lsn : Lsn) : List UInt8 :=
  leBytes 2 key.length ++ key ++ leBytes 8 lsn.toNat

/-- `CustomIndexDirectoryValue::getKey`. -/
def getKey (blob : List UInt8) : List UInt8 := (blob.drop 2).take (ofLeBytes (blob.take 2))

/-- `CustomIndexDirectoryValue::getLSN`: the last eight bytes. -/
def getLSN (blob : List UInt8) : Lsn := (ofLeBytes (blob.drop (blob.length - 8))).toUInt64

/-- `CustomIndexDirectoryValue::valid`: the length, the key it gives, and an LSN, exactly. -/
def valid (blob : List UInt8) : Bool :=
  if blob.length < 2 + 8 then false
  else blob.length == 2 + ofLeBytes (blob.take 2) + 8

/-- `memcmp` over the first `n` bytes: the order of the first byte that differs, as unsigned
bytes. -/
def memcmp : List UInt8 → List UInt8 → ℕ → Ordering
  | a :: l₁, b :: l₂, n + 1 => if a < b then .lt else if b < a then .gt else memcmp l₁ l₂ n
  | _, _, _ => .eq

/-- `CustomIndexDirectoryValue::compare`: whether `val1` is smaller than `val2`. -/
def compare (val1 val2 : List UInt8) : Bool :=
  let val1_key := getKey val1
  let val2_key := getKey val2
  let res := memcmp val1_key val2_key (Min.min val1_key.length val2_key.length)
  if res = .lt then true
  else if res = .eq ∧ (val1_key.length < val2_key.length ∨ getLSN val1 < getLSN val2) then true
  else false

/-! ### Reading back what `create` writes -/

section RoundTrip

variable {key : List UInt8} (lsn : Lsn)

lemma ofLeBytes_take_create (hkey : key.length < 2 ^ 16) :
    ofLeBytes ((create key lsn).take 2) = key.length := by
  rw [create, List.append_assoc, List.take_left' (length_leBytes 2 _), ofLeBytes_leBytes,
    Nat.mod_eq_of_lt (by simpa using hkey)]

@[simp] lemma length_create : (create key lsn).length = 2 + key.length + 8 := by
  simp only [create, List.length_append, length_leBytes]

lemma getKey_create (hkey : key.length < 2 ^ 16) : getKey (create key lsn) = key := by
  rw [getKey, ofLeBytes_take_create lsn hkey, create, List.append_assoc,
    List.drop_left' (length_leBytes 2 _), List.take_left]

@[simp] lemma getLSN_create : getLSN (create key lsn) = lsn := by
  have hdrop : (create key lsn).drop ((create key lsn).length - 8) = leBytes 8 lsn.toNat := by
    rw [length_create, create, List.drop_left' (by simp)]
  rw [getLSN, hdrop, ofLeBytes_leBytes, Nat.mod_eq_of_lt (by simpa using lsn.toNat_lt)]
  exact UInt64.ofNat_toNat

lemma valid_create (hkey : key.length < 2 ^ 16) : valid (create key lsn) = true := by
  simp [valid, ofLeBytes_take_create lsn hkey]

end RoundTrip

/-! ### `memcmp` -/

/-- Within both strings, `memcmp` finds them equal exactly when their first `n` bytes are. -/
lemma memcmp_eq_eq_iff : ∀ {l₁ l₂ : List UInt8} {n : ℕ}, n ≤ l₁.length → n ≤ l₂.length →
    (memcmp l₁ l₂ n = .eq ↔ l₁.take n = l₂.take n)
  | _, _, 0, _, _ => by simp [memcmp]
  | [], _, _ + 1, h₁, _ => by simp at h₁
  | _ :: _, [], _ + 1, _, h₂ => by simp at h₂
  | a :: l₁, b :: l₂, n + 1, h₁, h₂ => by
    have ih := memcmp_eq_eq_iff (show n ≤ l₁.length by simpa using h₁)
      (show n ≤ l₂.length by simpa using h₂)
    rw [memcmp, List.take_succ_cons, List.take_succ_cons, List.cons.injEq]
    by_cases hab : a < b
    · simp [hab, UInt8.ne_of_lt hab]
    · by_cases hba : b < a
      · simp [hab, hba, (UInt8.ne_of_lt hba).symm]
      · simp [ih, eq_of_not_lt_of_not_lt hab hba]

/-- Within both strings, `memcmp` finds the first smaller exactly when its first `n` bytes come
first bytewise. -/
lemma memcmp_eq_lt_iff : ∀ {l₁ l₂ : List UInt8} {n : ℕ}, n ≤ l₁.length → n ≤ l₂.length →
    (memcmp l₁ l₂ n = .lt ↔ l₁.take n < l₂.take n)
  | _, _, 0, _, _ => by simp [memcmp, List.not_lt_nil]
  | [], _, _ + 1, h₁, _ => by simp at h₁
  | _ :: _, [], _ + 1, _, h₂ => by simp at h₂
  | a :: l₁, b :: l₂, n + 1, h₁, h₂ => by
    have ih := memcmp_eq_lt_iff (show n ≤ l₁.length by simpa using h₁)
      (show n ≤ l₂.length by simpa using h₂)
    rw [memcmp, List.take_succ_cons, List.take_succ_cons, List.cons_lt_cons_iff]
    by_cases hab : a < b
    · simp [hab]
    · by_cases hba : b < a
      · simp [hab, hba, (UInt8.ne_of_lt hba).symm]
      · simp [ih, eq_of_not_lt_of_not_lt hab hba]

/-! ### `compare` and the order of `(key, LSN)` pairs -/

/-- `compare` by the keys' common prefix, then their lengths and the LSNs. -/
lemma compare_eq_true_iff {val1 val2 : List UInt8} :
    compare val1 val2 = true ↔
      memcmp (getKey val1) (getKey val2) (min (getKey val1).length (getKey val2).length) = .lt ∨
        memcmp (getKey val1) (getKey val2) (min (getKey val1).length (getKey val2).length) = .eq ∧
          ((getKey val1).length < (getKey val2).length ∨ getLSN val1 < getLSN val2) := by
  simp only [compare]
  split_ifs with hlt heq <;> simp_all

/-- On values built by `create`, `compare` is the order of `(key, LSN)` pairs, except that where
the second key is a proper prefix of the first, a smaller LSN makes the first value smaller. -/
lemma compare_create_iff {k₁ k₂ : List UInt8} (l₁ l₂ : Lsn) (h₁ : k₁.length < 2 ^ 16)
    (h₂ : k₂.length < 2 ^ 16) :
    compare (create k₁ l₁) (create k₂ l₂) = true ↔
      Prod.Lex (· < ·) (· < ·) (k₁, l₁) (k₂, l₂) ∨
        (k₂ <+: k₁ ∧ k₂.length < k₁.length ∧ l₁ < l₂) := by
  rw [compare_eq_true_iff, getKey_create _ h₁, getKey_create _ h₂, getLSN_create, getLSN_create,
    memcmp_eq_lt_iff (min_le_left _ _) (min_le_right _ _),
    memcmp_eq_eq_iff (min_le_left _ _) (min_le_right _ _), Prod.lex_def]
  by_cases ht : k₁.take (min k₁.length k₂.length) = k₂.take (min k₁.length k₂.length)
  · -- one key is a prefix of the other: which one, or are they the same
    rcases lt_trichotomy k₁.length k₂.length with hlt | heq | hgt
    · have hk : k₁ < k₂ :=
        (lt_iff_length_lt_of_isPrefix (prefix_of_take_min_eq ht hlt.le)).mpr hlt
      simp [ht, hlt, hk]
    · have hk : k₁ = k₂ := (prefix_of_take_min_eq ht heq.le).eq_of_length heq
      subst hk
      simp [List.lt_irrefl]
    · have hp : k₂ <+: k₁ := prefix_of_take_min_eq (by rw [min_comm]; exact ht.symm) hgt.le
      have hk : ¬k₁ < k₂ := List.not_lt.mpr hp.le
      have hne : k₁ ≠ k₂ := fun e => absurd (congrArg List.length e) (by omega)
      simp [ht, hk, hne, hp, hgt, List.lt_irrefl, Nat.not_lt.mpr hgt.le]
  · -- the keys differ within their common length
    have hk : k₁ < k₂ ↔ _ := lt_iff_take_min
    have hnp : ¬k₂ <+: k₁ := fun hp => ht (take_min_eq_of_isPrefix hp)
    have hne : k₁ ≠ k₂ := fun e => ht (by rw [e])
    simp [ht, hk, hnp, hne]

/-- Where one key is a proper prefix of the other and has the larger LSN, each value compares
smaller than the other. -/
lemma compare_create_of_isPrefix {k₁ k₂ : List UInt8} {l₁ l₂ : Lsn} (h₁ : k₁.length < 2 ^ 16)
    (h₂ : k₂.length < 2 ^ 16) (hp : k₂ <+: k₁) (hlen : k₂.length < k₁.length) (hl : l₁ < l₂) :
    compare (create k₁ l₁) (create k₂ l₂) = true ∧ compare (create k₂ l₂) (create k₁ l₁) = true := by
  have hk : k₂ < k₁ := (lt_iff_length_lt_of_isPrefix hp).mpr hlen
  exact ⟨(compare_create_iff l₁ l₂ h₁ h₂).mpr (.inr ⟨hp, hlen, hl⟩),
    (compare_create_iff l₂ l₁ h₂ h₁).mpr (.inl (Prod.Lex.left _ _ hk))⟩

/-- Where neither key is a proper prefix of the other, `compare` is the order of `(key, LSN)`
pairs. -/
lemma compare_create_iff_lex {k₁ k₂ : List UInt8} (l₁ l₂ : Lsn) (h₁ : k₁.length < 2 ^ 16)
    (h₂ : k₂.length < 2 ^ 16) (hp : ¬(k₂ <+: k₁ ∧ k₂.length < k₁.length)) :
    compare (create k₁ l₁) (create k₂ l₂) = true ↔ Prod.Lex (· < ·) (· < ·) (k₁, l₁) (k₂, l₂) := by
  rw [compare_create_iff l₁ l₂ h₁ h₂]
  exact or_iff_left fun ⟨hpre, hlen, _⟩ => hp ⟨hpre, hlen⟩

end CustomIndexDirectoryValue

namespace MetadataMergeOperator

open RocksDBKeyFormat

/-- The lambda `merge` of `Merge` on a `MutablePerEpochLogMetadata{}`: the right operand must be
valid and the left must deserialize; the left is then merged with the right and serialized. -/
def mergeMutable (left right : List UInt8) : Option (List UInt8) :=
  if !MutablePerEpochLogMetadata.validBlob right then none
  else
    match MutablePerEpochLogMetadata.deserialize left with
    | none => none
    | some metadata => some (metadata.mergeSlice right).serialize

/-- `PartitionedRocksDBStore::MetadataMergeOperator::Merge`: the merged value, or `none` where the
source returns `false`. -/
def Merge (key : List UInt8) (existing_value : Option (List UInt8)) (value : List UInt8) :
    Option (List UInt8) :=
  -- `'\0'` for an empty key
  let header := key.getD 0 0
  if key.length = 0 ∨
      (header ≠ PerEpochLogMetaKey.HEADER_MUTABLE ∧ CustomIndexDirectoryKey.valid key = false) then
    none
  else
    match existing_value with
    | none => some value
    | some existing =>
      if header = PerEpochLogMetaKey.HEADER_MUTABLE then mergeMutable existing value
      else if !CustomIndexDirectoryValue.valid existing || !CustomIndexDirectoryValue.valid value then
        none
      else if CustomIndexDirectoryValue.compare existing value then some existing
      else some value

/-- A directory key is not a per-epoch metadata key. -/
lemma header_ne_of_valid {key : List UInt8} (hkey : CustomIndexDirectoryKey.valid key = true) :
    key.length ≠ 0 ∧ key.getD 0 0 ≠ PerEpochLogMetaKey.HEADER_MUTABLE := by
  simp only [CustomIndexDirectoryKey.valid] at hkey
  split_ifs at hkey with h
  simp only [not_or, not_not] at h
  refine ⟨by omega, ?_⟩
  rw [h.2]
  decide

/-- Under a directory key, `Merge` of two valid values keeps the one `compare` finds smaller, the
existing one where neither is. -/
lemma Merge_directory {key existing value : List UInt8}
    (hkey : CustomIndexDirectoryKey.valid key = true)
    (he : CustomIndexDirectoryValue.valid existing = true)
    (hv : CustomIndexDirectoryValue.valid value = true) :
    Merge key (some existing) value =
      some (if CustomIndexDirectoryValue.compare existing value then existing else value) := by
  obtain ⟨hlen, hheader⟩ := header_ne_of_valid hkey
  have hacc : ¬(key.length = 0 ∨ (key.getD 0 0 ≠ PerEpochLogMetaKey.HEADER_MUTABLE ∧
      CustomIndexDirectoryKey.valid key = false)) := by
    simp [hlen, hkey]
  simp only [Merge, if_neg hacc, if_neg hheader, he, hv, Bool.not_true, Bool.or_false, if_false,
    Bool.false_eq_true]
  split_ifs <;> rfl

/-- Under a directory key, merging values built by `create` keeps the smaller `(key, LSN)` pair
where neither key is a proper prefix of the other. -/
lemma Merge_create_lex {key k₁ k₂ : List UInt8} (l₁ l₂ : Lsn)
    (hkey : CustomIndexDirectoryKey.valid key = true) (h₁ : k₁.length < 2 ^ 16)
    (h₂ : k₂.length < 2 ^ 16) (hp : ¬(k₂ <+: k₁ ∧ k₂.length < k₁.length)) :
    Merge key (some (CustomIndexDirectoryValue.create k₁ l₁)) (CustomIndexDirectoryValue.create k₂ l₂) =
      some (if Prod.Lex (· < ·) (· < ·) (k₁, l₁) (k₂, l₂) then CustomIndexDirectoryValue.create k₁ l₁
        else CustomIndexDirectoryValue.create k₂ l₂) := by
  rw [Merge_directory hkey (CustomIndexDirectoryValue.valid_create l₁ h₁)
    (CustomIndexDirectoryValue.valid_create l₂ h₂)]
  by_cases hlex : Prod.Lex (· < ·) (· < ·) (k₁, l₁) (k₂, l₂)
  · rw [if_pos ((CustomIndexDirectoryValue.compare_create_iff_lex l₁ l₂ h₁ h₂ hp).mpr hlex),
      if_pos hlex]
  · rw [if_neg (mt (CustomIndexDirectoryValue.compare_create_iff_lex l₁ l₂ h₁ h₂ hp).mp hlex),
      if_neg hlex]

theorem Merge_create_lex_two_keys :
    Merge (CustomIndexDirectoryKey.create 1 FIND_KEY_INDEX 0)
        (some (CustomIndexDirectoryValue.create [98] 1)) (CustomIndexDirectoryValue.create [97, 98] 2) =
      some (if Prod.Lex (· < ·) (· < ·) (([98] : List UInt8), (1 : Lsn)) ([97, 98], 2) then
          CustomIndexDirectoryValue.create [98] 1
        else CustomIndexDirectoryValue.create [97, 98] 2) :=
  Merge_create_lex 1 2 (CustomIndexDirectoryKey.valid_create 1 0) (by decide) (by decide) (by decide)

/-- Under a directory key, where one key is a proper prefix of the other and has the larger LSN,
`Merge` keeps its left operand in either order. -/
lemma Merge_keeps_left_of_isPrefix {key k₁ k₂ : List UInt8} {l₁ l₂ : Lsn}
    (hkey : CustomIndexDirectoryKey.valid key = true) (h₁ : k₁.length < 2 ^ 16)
    (h₂ : k₂.length < 2 ^ 16) (hp : k₂ <+: k₁) (hlen : k₂.length < k₁.length) (hl : l₁ < l₂) :
    Merge key (some (CustomIndexDirectoryValue.create k₁ l₁)) (CustomIndexDirectoryValue.create k₂ l₂) =
        some (CustomIndexDirectoryValue.create k₁ l₁) ∧
      Merge key (some (CustomIndexDirectoryValue.create k₂ l₂))
        (CustomIndexDirectoryValue.create k₁ l₁) = some (CustomIndexDirectoryValue.create k₂ l₂) := by
  obtain ⟨hc₁, hc₂⟩ := CustomIndexDirectoryValue.compare_create_of_isPrefix h₁ h₂ hp hlen hl
  have hv₁ := CustomIndexDirectoryValue.valid_create l₁ h₁
  have hv₂ := CustomIndexDirectoryValue.valid_create l₂ h₂
  rw [Merge_directory hkey hv₁ hv₂, Merge_directory hkey hv₂ hv₁, if_pos hc₁, if_pos hc₂]
  exact ⟨rfl, rfl⟩

/-- A directory value that is one `(key, LSN)` pair and another whose key is a proper prefix of the
first with a larger LSN: the merge keeps whichever comes first, though the second pair is the
smaller. -/
theorem Merge_directory_order_dependent :
    Merge (CustomIndexDirectoryKey.create 1 FIND_KEY_INDEX 0)
        (some (CustomIndexDirectoryValue.create [97, 98] 1)) (CustomIndexDirectoryValue.create [97] 2) =
      some (CustomIndexDirectoryValue.create [97, 98] 1) ∧
    Merge (CustomIndexDirectoryKey.create 1 FIND_KEY_INDEX 0)
        (some (CustomIndexDirectoryValue.create [97] 2)) (CustomIndexDirectoryValue.create [97, 98] 1) =
      some (CustomIndexDirectoryValue.create [97] 2) ∧
    Prod.Lex (· < ·) (· < ·) (([97] : List UInt8), (2 : Lsn)) ([97, 98], 1) := by
  have hp : ([97] : List UInt8) <+: [97, 98] := ⟨[98], rfl⟩
  obtain ⟨hleft, hright⟩ := Merge_keeps_left_of_isPrefix
    (CustomIndexDirectoryKey.valid_create 1 0) (by decide) (by decide) hp (by decide)
    (show (1 : Lsn) < 2 by decide)
  exact ⟨hleft, hright, Prod.Lex.left _ _ ((lt_iff_length_lt_of_isPrefix hp).mpr (by decide))⟩

/-! ### Mutable per-epoch metadata -/

/-- Under a per-epoch metadata key, `Merge` of a valid value into one that deserializes is the
serialized merge. -/
lemma Merge_mutable {key existing value : List UInt8} {m : MutablePerEpochLogMetadata}
    (hkey : key.getD 0 0 = PerEpochLogMetaKey.HEADER_MUTABLE)
    (hv : MutablePerEpochLogMetadata.validBlob value = true)
    (he : MutablePerEpochLogMetadata.deserialize existing = some m) :
    Merge key (some existing) value = some (m.mergeSlice value).serialize := by
  have hlen : key.length ≠ 0 := fun h0 => by
    rw [List.eq_nil_of_length_eq_zero h0] at hkey
    exact absurd hkey (by decide)
  simp only [Merge, hlen, hkey, false_or, ne_eq, not_true_eq_false, false_and, if_false, if_true,
    mergeMutable, hv, Bool.not_true, Bool.false_eq_true, he]

/-- What a per-epoch merge reads back as: the merge, with every counter but `BYTE_OFFSET` dropped
where the existing value lacks `SUPPORT_OFFSET_MAP`; its `last_known_good` is the larger of the
two. -/
lemma deserialize_Merge_mutable {key existing value : List UInt8}
    {m o : MutablePerEpochLogMetadata}
    (hkey : key.getD 0 0 = PerEpochLogMetaKey.HEADER_MUTABLE)
    (hv : MutablePerEpochLogMetadata.validBlob value = true)
    (he : MutablePerEpochLogMetadata.deserialize existing = some m)
    (ho : MutablePerEpochLogMetadata.deserialize value = some o)
    (hsize : (m.mergeSlice value).epoch_size_map_.counterTypeMap_.length < 256) :
    (Merge key (some existing) value).bind MutablePerEpochLogMetadata.deserialize =
        some (m.mergeSlice value).stored ∧
      (m.mergeSlice value).data_.last_known_good.toNat =
        Max.max m.data_.last_known_good.toNat o.data_.last_known_good.toNat := by
  rw [Merge_mutable hkey hv he, Option.bind_some,
    MutablePerEpochLogMetadata.deserialize_serialize _ hsize]
  refine ⟨rfl, ?_⟩
  rw [MutablePerEpochLogMetadata.mergeSlice, ho]
  exact (MutablePerEpochLogMetadata.data_mergeData m o.data_ o.epoch_size_map_).2

end MetadataMergeOperator

end LogDevice
