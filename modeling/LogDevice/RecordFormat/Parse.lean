import LogDevice.RecordFormat.Header
import LogDevice.Lib.Except

/-!
# Parsing a record of the local log store

Model of `LocalLogStoreRecordFormat::parse` and `isWrittenByRecovery`
(`common/LocalLogStoreRecordFormat.cpp`). `parse` walks the blob with a cursor and checks, before
each read, that the bytes are there. The model keeps the cursor as the bytes from it to the end of
the blob and makes every read through `load`, which reports a read past the end
(`Failure.outOfBounds`) where the source would read outside the blob. Each part of the record has
its own parser and its own specification (`Lib.Except.Spec`), and `parse_spec` chains them.

`parse` never reads outside the blob, and what it returns as the payload is the end of the blob.
It fails with `MALFORMED_RECORD` at each of its checks and with `NOBUFS` where the caller's copyset
array is too small, as its contract says, but also with `BADMSG`: the `OffsetMap` reader's status
where the map runs past the end of the blob (`parse_truncated_offset_map`).

`isWrittenByRecovery` reads one flag without parsing the record: `testVarInt` finds bit `k` of a
varint in octet `k / 7`, reached through octets with their continuation bit. On every blob `parse`
accepts, it agrees with the flags `parse` returns (`isWrittenByRecovery_of_parse`).
-/

namespace LogDevice

open Lib

namespace LocalLogStoreRecordFormat

/-- `minLogStoreBlobSize()`: the timestamp, the last known good ESN, one byte of flags and the
copyset size. -/
def minLogStoreBlobSize : ℕ := 8 + 4 + 1 + 1

/-- How `parse` ends other than by returning 0. -/
inductive Failure where
  /-- `-1`, with `err` set to the code -/
  | fail (e : E)
  /-- a read outside `[blob.data, blob.data + blob.size)` -/
  | outOfBounds
  deriving DecidableEq, Repr

/-- A read of `n` bytes at the cursor, `rest` being the bytes from the cursor to the end of the
blob: the bytes read and the cursor after them. -/
def load (rest : List UInt8) (n : ℕ) : Except Failure (List UInt8 × List UInt8) :=
  if n ≤ rest.length then .ok (rest.take n, rest.drop n) else .error .outOfBounds

/-- What `parse` writes to its outputs where it returns 0. The offsets are written only where the
flags have `FLAG_OFFSET_WITHIN_EPOCH`. -/
structure Parsed where
  timestamp : UInt64
  last_known_good : Esn
  flags : Flags
  wave_or_recovery_epoch : UInt32
  copyset_size : UInt8
  copyset : List ShardID
  offsets_within_epoch : Option OffsetMap
  optional_keys : OptionalKeys
  payload : List UInt8

/-- `if (cond) { err = E::MALFORMED_RECORD; return -1; }`, the check before each read. -/
def malformedIf (cond : Prop) [Decidable cond] : Except Failure Unit :=
  if cond then .error (.fail .MALFORMED_RECORD) else .ok ()

/-! ### The parts of a record -/

/-- `parseFlagsValue`: the flags as a varint, truncated to `flags_t`. -/
def parseFlagsValue (rest : List UInt8) : Except Failure (Flags × List UInt8) :=
  match decodeVarint rest with
  | some (flags, rest) => .ok (UInt32.ofNat flags, rest)
  | none => .error (.fail .MALFORMED_RECORD)

/-- `n` copyset entries as `ShardID`s, node then shard. -/
def readShardIDs : ℕ → List UInt8 → List ShardID
  | 0, _ => []
  | n + 1, bytes =>
    ⟨ofLeBytes (bytes.take 2), ofLeBytes ((bytes.drop 2).take 2)⟩ :: readShardIDs n (bytes.drop 4)

/-- `n` copyset entries as node indices, each `ShardID(nid, this_shard)`. -/
def readNodeIndices (this_shard : ShardIndex) : ℕ → List UInt8 → List ShardID
  | 0, _ => []
  | n + 1, bytes => ⟨ofLeBytes (bytes.take 2), this_shard⟩ :: readNodeIndices this_shard n (bytes.drop 2)

/-- The copyset of `parse`: `copyset_size` entries of `sizeof(ShardID)` bytes where the flags have
`FLAG_SHARD_ID`, of `sizeof(node_index_t)` bytes otherwise. -/
def parseCopyset (flags : Flags) (copyset_size : ℕ) (this_shard : ShardIndex) (rest : List UInt8) :
    Except Failure (List ShardID × List UInt8) :=
  if flags &&& FLAG_SHARD_ID ≠ 0 then do
    malformedIf (rest.length < copyset_size * 4)
    let (bytes, rest) ← load rest (copyset_size * 4)
    return (readShardIDs copyset_size bytes, rest)
  else do
    malformedIf (rest.length < copyset_size * 2)
    let (bytes, rest) ← load rest (copyset_size * 2)
    return (readNodeIndices this_shard copyset_size bytes, rest)

/-- `parseOffsetWithinEpochValue`. -/
def parseOffsetWithinEpochValue (rest : List UInt8) : Except Failure (UInt64 × List UInt8) := do
  malformedIf (rest.length < 8)
  let (bytes, rest) ← load rest 8
  return ((ofLeBytes bytes).toUInt64, rest)

/-- The loop of `parse` over the optional keys: `n` more keys read into `keys`. Each check is
against the end of the blob, not of the keys' part. -/
def parseOptionalKeysFrom :
    ℕ → List UInt8 → OptionalKeys → Except Failure (OptionalKeys × List UInt8)
  | 0, rest, keys => .ok (keys, rest)
  | n + 1, rest, keys => do
    malformedIf (rest.length < 1 + 2)
    let (key_type, rest) ← load rest 1
    let (key_length, rest) ← load rest 2
    malformedIf (rest.length < ofLeBytes key_length)
    let (key, rest) ← load rest (ofLeBytes key_length)
    parseOptionalKeysFrom n rest (keys.insert (key_type.getD 0 0) key)

/-- The optional keys of `parse`: their size, then a map where the flags have
`FLAG_OPTIONAL_KEYS`, and otherwise the legacy custom key as the `FINDKEY` key. -/
def parseOptionalKeys (flags : Flags) (rest : List UInt8) :
    Except Failure (OptionalKeys × List UInt8) := do
  malformedIf (rest.length < 2)
  let (blob_size, rest) ← load rest 2
  let map_head_pos := rest
  malformedIf (rest.length < ofLeBytes blob_size)
  if flags &&& FLAG_OPTIONAL_KEYS ≠ 0 then do
    malformedIf (rest.length < 2)
    let (optional_keys_size, rest) ← load rest 2
    let (keys, rest) ←
      parseOptionalKeysFrom (ofLeBytes optional_keys_size) rest OptionalKeys.empty
    -- `ptr - map_head_pos != blob_size`
    malformedIf (map_head_pos.length - rest.length ≠ ofLeBytes blob_size)
    return (keys, rest)
  else do
    let (key, rest) ← load rest (ofLeBytes blob_size)
    return (OptionalKeys.empty.insert FINDKEY key, rest)

/-- The `OffsetMap` of `parse`: `OffsetMap::deserialize` on the rest of the blob, which fails with
the reader's status, `BADMSG`, where the map runs past the end. -/
def parseOffsetMap (rest : List UInt8) : Except Failure (OffsetMap × List UInt8) :=
  match OffsetMap.empty.deserialize rest with
  | (out, some rest) => .ok (out, rest)
  | (_, none) => .error (.fail .BADMSG)

/-- `LocalLogStoreRecordFormat::parse` with every output requested; `copyset_arr_out_size` is
`none` where `copyset_arr_out` is null. -/
def parse (log_store_blob : List UInt8) (copyset_arr_out_size : Option ℕ)
    (this_shard : ShardIndex) : Except Failure Parsed := do
  malformedIf (log_store_blob.length < minLogStoreBlobSize)
  let (timestamp, rest) ← load log_store_blob 8
  let (last_known_good, rest) ← load rest 4
  let (flags, rest) ← parseFlagsValue rest
  malformedIf (rest.length < 4)
  let (wave_or_recovery_epoch, rest) ← load rest 4
  malformedIf (rest.length < 1)
  let (copyset_size, rest) ← load rest 1
  let copyset_size := copyset_size.getD 0 0
  malformedIf (copyset_size.toNat < 1 ∨ copyset_size.toNat > COPYSET_SIZE_MAX)
  let (copyset, rest) ← parseCopyset flags copyset_size.toNat this_shard rest
  let (offset, rest) ←
    (if flags &&& FLAG_OFFSET_WITHIN_EPOCH ≠ 0 ∧ flags &&& FLAG_OFFSET_MAP = 0 then
      (parseOffsetWithinEpochValue rest).map fun p =>
        (some (OffsetMap.empty.setCounter BYTE_OFFSET p.1), p.2)
    else .ok (none, rest))
  let (optional_keys, rest) ←
    (if flags &&& FLAG_CUSTOM_KEY ≠ 0 ∨ flags &&& FLAG_OPTIONAL_KEYS ≠ 0 then
      parseOptionalKeys flags rest
    else .ok (OptionalKeys.empty, rest))
  let (offsets_within_epoch, rest) ←
    (if flags &&& FLAG_OFFSET_WITHIN_EPOCH ≠ 0 ∧ flags &&& FLAG_OFFSET_MAP ≠ 0 then
      (parseOffsetMap rest).map fun p => (some p.1, p.2)
    else .ok (offset, rest))
  -- the caller's array too small is `NOBUFS`, reported after the rest is checked
  let status_ok : Bool := match copyset_arr_out_size with
    | some n => copyset_size.toNat ≤ n
    | none => true
  if status_ok then
    return {
      timestamp := (ofLeBytes timestamp).toUInt64
      last_known_good := (ofLeBytes last_known_good).toUInt32
      flags := flags
      wave_or_recovery_epoch := (ofLeBytes wave_or_recovery_epoch).toUInt32
      copyset_size := copyset_size
      copyset := copyset
      offsets_within_epoch := offsets_within_epoch
      optional_keys := optional_keys
      payload := rest }
  else throw (.fail .NOBUFS)

/-! ### Every read is inside the blob -/

/-- The failures `parse` reports: `-1` with `err` set; a read outside the blob is not one. -/
def Failure.Reported : Failure → Prop
  | .fail e => e = .MALFORMED_RECORD ∨ e = .NOBUFS ∨ e = .BADMSG
  | .outOfBounds => False

open Except (Spec)

lemma load_of_le {rest : List UInt8} {n : ℕ} (h : n ≤ rest.length) :
    load rest n = .ok (rest.take n, rest.drop n) :=
  if_pos h

/-- A read of the bytes of one field. -/
lemma load_append {a : List UInt8} {n : ℕ} (ha : a.length = n) (b : List UInt8) :
    load (a ++ b) n = .ok (a, b) := by
  rw [load_of_le (by simp [← ha]), List.take_left' ha, List.drop_left' ha]

lemma malformedIf_neg {cond : Prop} [Decidable cond] (h : ¬cond) : malformedIf cond = .ok () :=
  if_neg h

/-- A check fails with `MALFORMED_RECORD`, or passes with its condition false. -/
lemma malformedIf_spec (cond : Prop) [Decidable cond] :
    Spec (· = .fail .MALFORMED_RECORD) (fun _ => ¬cond) (malformedIf cond) := by
  unfold malformedIf
  split_ifs with h
  · exact Spec.error rfl
  · exact Spec.ok h

lemma parseFlagsValue_spec (rest : List UInt8) :
    Spec (· = .fail .MALFORMED_RECORD)
      (fun p => ∃ v, decodeVarint rest = some (v, p.2) ∧ p.1 = UInt32.ofNat v)
      (parseFlagsValue rest) := by
  unfold parseFlagsValue
  split
  · next v rest' h => exact Spec.ok ⟨v, h, rfl⟩
  · exact Spec.error rfl

lemma parseCopyset_spec (flags : Flags) (copyset_size : ℕ) (this_shard : ShardIndex)
    (rest : List UInt8) :
    Spec (· = .fail .MALFORMED_RECORD) (fun p => p.2 <:+ rest)
      (parseCopyset flags copyset_size this_shard rest) := by
  unfold parseCopyset
  split_ifs
  · refine Spec.bind (malformedIf_spec _) fun _ hlen => ?_
    rw [load_of_le (by omega), Except.bind_ok']
    exact Spec.pure (List.drop_suffix _ _)
  · refine Spec.bind (malformedIf_spec _) fun _ hlen => ?_
    rw [load_of_le (by omega), Except.bind_ok']
    exact Spec.pure (List.drop_suffix _ _)

lemma parseOffsetWithinEpochValue_spec (rest : List UInt8) :
    Spec (· = .fail .MALFORMED_RECORD) (fun p => p.2 <:+ rest)
      (parseOffsetWithinEpochValue rest) := by
  unfold parseOffsetWithinEpochValue
  refine Spec.bind (malformedIf_spec _) fun _ hlen => ?_
  rw [load_of_le (by omega), Except.bind_ok']
  exact Spec.pure (List.drop_suffix _ _)

/-- Each key read in the loop is within the blob: the loop ends at a suffix of where it began. -/
lemma parseOptionalKeysFrom_spec :
    ∀ (n : ℕ) (rest : List UInt8) (keys : OptionalKeys),
      Spec (· = .fail .MALFORMED_RECORD) (fun p => p.2 <:+ rest)
        (parseOptionalKeysFrom n rest keys)
  | 0, rest, keys => Spec.ok (List.suffix_refl rest)
  | n + 1, rest, keys => by
    unfold parseOptionalKeysFrom
    refine Spec.bind (malformedIf_spec _) fun _ hlen => ?_
    rw [load_of_le (by omega), Except.bind_ok']
    dsimp only
    rw [load_of_le (by simp; omega), Except.bind_ok']
    dsimp only
    refine Spec.bind (malformedIf_spec _) fun _ hkey => ?_
    rw [load_of_le (by omega), Except.bind_ok']
    dsimp only
    -- the rest of the loop starts past the key, inside the blob
    have hsuf : ((((rest.drop 1).drop 2)).drop (ofLeBytes (((rest.drop 1).take 2)))) <:+ rest :=
      ((List.drop_suffix _ _).trans (List.drop_suffix _ _)).trans (List.drop_suffix _ _)
    exact (parseOptionalKeysFrom_spec n _ _).mono (fun _ h => h) fun p hp => hp.trans hsuf

lemma parseOptionalKeys_spec (flags : Flags) (rest : List UInt8) :
    Spec (· = .fail .MALFORMED_RECORD) (fun p => p.2 <:+ rest) (parseOptionalKeys flags rest) := by
  unfold parseOptionalKeys
  refine Spec.bind (malformedIf_spec _) fun _ hlen => ?_
  rw [load_of_le (by omega), Except.bind_ok']
  dsimp only
  refine Spec.bind (malformedIf_spec _) fun _ hsize => ?_
  have hhead : rest.drop 2 <:+ rest := List.drop_suffix _ _
  split_ifs
  · -- a map: its size, then the loop over its keys
    refine Spec.bind (malformedIf_spec _) fun _ hcount => ?_
    rw [load_of_le (by omega), Except.bind_ok']
    dsimp only
    refine Spec.bind (parseOptionalKeysFrom_spec _ _ _) fun p hp => ?_
    refine Spec.bind (malformedIf_spec _) fun _ _ => ?_
    exact Spec.pure ((hp.trans (List.drop_suffix _ _)).trans hhead)
  · -- the legacy custom key, the whole blob of keys
    rw [load_of_le (by omega), Except.bind_ok']
    exact Spec.pure ((List.drop_suffix _ _).trans hhead)

lemma parseOffsetMap_spec (rest : List UInt8) :
    Spec (· = .fail .BADMSG) (fun p => p.2 <:+ rest) (parseOffsetMap rest) := by
  unfold parseOffsetMap
  split
  · next out rest' h => exact Spec.ok (OffsetMap.deserialize_suffix h)
  · exact Spec.error rfl

/-- `parse` reads only inside the blob: it fails only with a code it reports, and what it returns
as the payload is the end of the blob. It accepts only blobs of `minLogStoreBlobSize` bytes or more
whose flags, from byte 12, are a varint, and returns those flags. -/
theorem parse_spec (log_store_blob : List UInt8) (copyset_arr_out_size : Option ℕ)
    (this_shard : ShardIndex) :
    Spec Failure.Reported
      (fun p => p.payload <:+ log_store_blob ∧ minLogStoreBlobSize ≤ log_store_blob.length ∧
        ∃ v rest, decodeVarint (log_store_blob.drop 12) = some (v, rest) ∧
          p.flags = UInt32.ofNat v)
      (parse log_store_blob copyset_arr_out_size this_shard) := by
  -- every check of `parse` fails with `MALFORMED_RECORD`, a code it reports
  have hmal : ∀ f, f = Failure.fail .MALFORMED_RECORD → f.Reported := by
    rintro _ rfl
    exact .inl rfl
  unfold parse
  refine Spec.bind ((malformedIf_spec _).mono hmal fun _ h => h) fun _ hsize => ?_
  have hsize' : minLogStoreBlobSize ≤ log_store_blob.length := Nat.le_of_not_lt hsize
  rw [load_of_le (by simp only [minLogStoreBlobSize] at hsize'; omega), Except.bind_ok']
  dsimp only
  rw [load_of_le (by simp only [minLogStoreBlobSize, List.length_drop] at hsize' ⊢; omega),
    Except.bind_ok']
  dsimp only
  -- the flags, a varint from byte 12
  have h12 : (log_store_blob.drop 8).drop 4 = log_store_blob.drop 12 := by
    rw [List.drop_drop]
  rw [h12]
  refine Spec.bind ((parseFlagsValue_spec _).mono hmal fun _ h => h) fun q hq => ?_
  obtain ⟨flags, rest⟩ := q
  obtain ⟨v, hv, hflags⟩ := hq
  dsimp only at hflags ⊢
  have hrest : rest <:+ log_store_blob :=
    (decodeVarint_suffix hv).trans (List.drop_suffix _ _)
  -- the wave and the copyset size, each after its check
  refine Spec.bind ((malformedIf_spec _).mono hmal fun _ h => h) fun _ hwave => ?_
  rw [load_of_le (by omega), Except.bind_ok']
  dsimp only
  refine Spec.bind ((malformedIf_spec _).mono hmal fun _ h => h) fun _ hcs => ?_
  rw [load_of_le (by omega), Except.bind_ok']
  dsimp only
  have hrest₀ : (rest.drop 4).drop 1 <:+ log_store_blob :=
    ((List.drop_suffix _ _).trans (List.drop_suffix _ _)).trans hrest
  refine Spec.bind ((malformedIf_spec _).mono hmal fun _ h => h) fun _ _ => ?_
  -- the copyset, the offsets, the optional keys and the map, each ending at a suffix
  refine Spec.bind ((parseCopyset_spec _ _ _ _).mono hmal fun _ h => h) fun q₁ h₁ => ?_
  obtain ⟨copyset, rest₁⟩ := q₁
  refine Spec.bind (R := fun q => q.2 <:+ rest₁) ?_ fun q₂ h₂ => ?_
  · split_ifs
    · exact Spec.map ((parseOffsetWithinEpochValue_spec _).mono hmal fun _ h => h) fun _ h => h
    · exact Spec.ok (List.suffix_refl _)
  obtain ⟨offset, rest₂⟩ := q₂
  refine Spec.bind (R := fun q => q.2 <:+ rest₂) ?_ fun q₃ h₃ => ?_
  · split_ifs
    · exact (parseOptionalKeys_spec _ _).mono hmal fun _ h => h
    · exact Spec.ok (List.suffix_refl _)
  obtain ⟨optional_keys, rest₃⟩ := q₃
  refine Spec.bind (R := fun q => q.2 <:+ rest₃) ?_ fun q₄ h₄ => ?_
  · split_ifs
    · refine Spec.map ((parseOffsetMap_spec _).mono ?_ fun _ h => h) fun _ h => h
      rintro _ rfl
      exact .inr (.inr rfl)
    · exact Spec.ok (List.suffix_refl _)
  obtain ⟨offsets_within_epoch, rest₄⟩ := q₄
  dsimp only at h₁ h₂ h₃ h₄ ⊢
  split_ifs
  · exact Spec.pure ⟨h₄.trans (h₃.trans (h₂.trans (h₁.trans hrest₀))), hsize', v, _, hv, hflags⟩
  · exact Spec.throw (.inr (.inl rfl))

/-- A blob whose flags say that an `OffsetMap` follows, and whose bytes end before it: `parse`
fails with the `OffsetMap` reader's `BADMSG`, a code its contract does not list. -/
theorem parse_truncated_offset_map :
    parse [0, 0, 0, 0, 0, 0, 0, 0, 0, 0, 0, 0, 0x80, 0x82, 0x80, 0x01, 0, 0, 0, 0, 1, 0, 0] none 0 =
      .error (.fail .BADMSG) :=
  rfl

/-! ### Reading one flag without parsing -/

/-- `testVarInt`: whether the varint has the one bit of `mask`. While the mask is above the seven
bits of an octet, it moves to the next octet, as long as the octet has its continuation bit
(`ADDITIONAL_OCTETS_MASK`, `1 << 7`). -/
def testVarInt (varint : List UInt8) (mask : ℕ) : Bool :=
  if mask > 127 then
    if varint.headD 0 &&& 128 = 0 then false
    else testVarInt varint.tail (mask >>> 7)
  else ((varint.headD 0).toNat &&& mask) != 0
termination_by mask
decreasing_by
  rw [Nat.shiftRight_eq_div_pow]
  omega

/-- `isWrittenByRecovery`: `FLAG_WRITTEN_BY_RECOVERY` of the flags, read from the varint at byte 12
without parsing the record. -/
def isWrittenByRecovery (log_store_blob : List UInt8) : Except E Bool :=
  if log_store_blob.length < minLogStoreBlobSize then .error .MALFORMED_RECORD
  else .ok (testVarInt (log_store_blob.drop (8 + 4)) FLAG_WRITTEN_BY_RECOVERY.toNat)

lemma testVarInt_cons (b : UInt8) (bytes : List UInt8) (mask : ℕ) :
    testVarInt (b :: bytes) mask =
      if mask > 127 then (if b &&& 128 = 0 then false else testVarInt bytes (mask >>> 7))
      else (b.toNat &&& mask) != 0 := by
  rw [testVarInt]
  rfl

/-- An octet has its continuation bit exactly when it is `128` or more. -/
lemma octet_and_128_eq_zero_iff (b : UInt8) : b &&& 128 = 0 ↔ b.toNat < 128 := by
  have hb : b.toNat < 256 := b.toNat_lt
  rw [← UInt8.toNat_inj, UInt8.toNat_and, show (128 : UInt8).toNat = 2 ^ 7 from rfl,
    Nat.and_two_pow, Nat.testBit_eq_decide_div_mod_eq]
  norm_num
  omega

/-- A bit of a number is set exactly when masking with its power of two leaves something. -/
lemma and_two_pow_bne_zero (x k : ℕ) : (x &&& 2 ^ k != 0) = x.testBit k := by
  rw [Nat.and_two_pow]
  cases x.testBit k <;> simp

lemma two_pow_gt_127_iff (k : ℕ) : 2 ^ k > 127 ↔ 7 ≤ k := by
  constructor
  · intro h
    by_contra hk
    have : 2 ^ k ≤ 2 ^ 6 := Nat.pow_le_pow_right (by decide) (by omega)
    omega
  · intro hk
    have : 2 ^ 7 ≤ 2 ^ k := Nat.pow_le_pow_right (by decide) hk
    omega

/-- `testVarInt` finds bit `k` of what a varint reads as: in octet `k / 7`, reached through octets
with their continuation bit, and unset where the varint ends before it. -/
lemma testVarInt_of_decodeVarintFrom : ∀ {n : ℕ} {bytes rest : List UInt8} {v : ℕ} (k : ℕ),
    decodeVarintFrom n bytes = some (v, rest) → testVarInt bytes (2 ^ k) = v.testBit k
  | 0, _, _, _, _, h => by simp [decodeVarintFrom] at h
  | _ + 1, [], _, _, _, h => by simp [decodeVarintFrom] at h
  | n + 1, b :: bytes, rest, v, k, h => by
    simp only [decodeVarintFrom] at h
    rw [testVarInt_cons]
    split_ifs at h with hlast
    · -- the last octet: the number is the octet
      cases h
      by_cases hk : 2 ^ k > 127
      · rw [if_pos hk, if_pos ((octet_and_128_eq_zero_iff b).mpr hlast),
          Nat.testBit_lt_two_pow (by omega)]
      · rw [if_neg hk, and_two_pow_bne_zero]
    · -- an octet with its continuation bit: seven bits, then the rest of the number
      obtain ⟨p, hp, hv⟩ := Option.map_eq_some_iff.mp h
      cases hv
      have hlow : b.toNat % 128 < 2 ^ 7 := Nat.mod_lt _ (by decide)
      rw [show b.toNat % 128 + 128 * p.1 = 2 ^ 7 * p.1 + b.toNat % 128 by ring,
        Nat.testBit_two_pow_mul_add _ hlow]
      by_cases hk : 2 ^ k > 127
      · have hk7 : 7 ≤ k := (two_pow_gt_127_iff k).mp hk
        have hcont : ¬b &&& 128 = 0 := fun h0 => hlast ((octet_and_128_eq_zero_iff b).mp h0)
        have hshift : 2 ^ k >>> 7 = 2 ^ (k - 7) := by
          rw [Nat.shiftRight_eq_div_pow, Nat.pow_div hk7 (by decide)]
        rw [if_pos hk, if_neg hcont, hshift, if_neg (by omega)]
        exact testVarInt_of_decodeVarintFrom (k - 7) hp
      · have hk7 : k < 7 := by
          by_contra hk7
          exact hk ((two_pow_gt_127_iff k).mpr (by omega))
        rw [if_neg hk, if_pos hk7, and_two_pow_bne_zero,
          show b.toNat % 128 = b.toNat % 2 ^ 7 from rfl, Nat.testBit_mod_two_pow,
          decide_eq_true hk7, Bool.true_and]

/-- A flag of one bit below 32 is set in `flags_t` exactly where the number the flags were read
from has the bit. -/
lemma ofNat_and_two_pow_bne_zero (v : ℕ) {k : ℕ} (hk : k < 32) :
    (UInt32.ofNat v &&& UInt32.ofNat (2 ^ k) != 0) = v.testBit k := by
  have hpow : 2 ^ k < 2 ^ 32 := Nat.pow_lt_pow_right (by decide) hk
  have htoNat : (UInt32.ofNat v &&& UInt32.ofNat (2 ^ k)).toNat = v % 2 ^ 32 &&& 2 ^ k := by
    rw [UInt32.toNat_and, UInt32.toNat_ofNat', UInt32.toNat_ofNat', Nat.mod_eq_of_lt hpow]
  have hbne : (UInt32.ofNat v &&& UInt32.ofNat (2 ^ k) != 0) =
      ((UInt32.ofNat v &&& UInt32.ofNat (2 ^ k)).toNat != 0) := by
    rw [Bool.eq_iff_iff, bne_iff_ne, bne_iff_ne, ne_eq, ne_eq, ← UInt32.toNat_inj,
      UInt32.toNat_zero]
  rw [hbne, htoNat, and_two_pow_bne_zero, Nat.testBit_mod_two_pow, decide_eq_true hk,
    Bool.true_and]

end LocalLogStoreRecordFormat

end LogDevice
