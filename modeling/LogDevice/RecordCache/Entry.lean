import LogDevice.RecordFormat.RoundTrip

/-!
# Record cache entries in a linear buffer

Model of the linear-buffer form of `EpochRecordCacheEntry` (`server/EpochRecordCacheEntry.cpp`,
`EntryHeader` in `server/EpochRecordCache.h`), in which record cache snapshots are written to disk
and read back on startup. `toLinearBuffer` writes the packed `EntryHeader` (53 bytes in host order,
`size_t` being 64 bits), then the `OffsetMap` where the flags have `OFFSET_MAP`, the copyset as raw
`ShardID`s, the keys of types `FINDKEY` and `FILTERABLE` in that order, and the payload.

`fromLinearBuffer` reads them back from a buffer of any content. It checks that the header fits,
and that the copyset and the payload together fit after it; it does not check the keys, whose sizes
come from the header. A copy past the end of the buffer is `ReadFailure.outOfBounds`, where the
source reads outside `[buffer, buffer + size)`. Where the flags have `OFFSET_MAP`, the map is read
from the bytes after the header but `current_size` is not moved past it, so the copyset, keys and
payload are read from where the map starts.

The keys are a `std::map<KeyType, std::string>`, kept as `OptionalKeys`. A key type at or above
`KeyType::MAX` has no slot in `EntryHeader::key_size`; `toLinearBuffer` would write its size outside
the array, and the model leaves such keys out of the header.
-/

namespace LogDevice

open Lib LocalLogStoreRecordFormat

/-- `STORE_flags_t`. -/
abbrev STORE_flags_t := UInt32

/-- `STORE_Header::OFFSET_MAP`, `1u << 18`. -/
def STORE_Header.OFFSET_MAP : STORE_flags_t := 262144

/-- `to_integral(KeyType::MAX)`: the key types `FINDKEY` and `FILTERABLE`. -/
def KeyType_MAX : ℕ := 2

/-- A record of an epoch's record cache (`EpochRecordCacheEntry`). -/
structure EpochRecordCacheEntry where
  lsn : Lsn
  flags : STORE_flags_t
  timestamp : UInt64
  last_known_good : Esn
  wave_or_recovery_epoch : UInt32
  copyset : List ShardID
  offsets_within_epoch : OffsetMap
  keys : OptionalKeys
  payload : List UInt8

namespace EpochRecordCacheSerializer

/-- `EntryHeader`, a packed struct; `key_size` has `KeyType_MAX` entries. -/
structure EntryHeader where
  flags : STORE_flags_t
  timestamp : UInt64
  last_known_good : Esn
  wave_or_recovery_epoch : UInt32
  copyset_size : UInt8
  offset_within_epoch : UInt64
  key_size : List UInt64
  payload_size : UInt64
  deriving DecidableEq, Repr

/-- `sizeof(EntryHeader)`. -/
def sizeof_EntryHeader : ℕ := 4 + 8 + 4 + 4 + 1 + 8 + 8 * KeyType_MAX + 8

namespace EntryHeader

/-- The bytes of the header, as `memcpy` copies them. -/
def toBytes (header : EntryHeader) : List UInt8 :=
  leBytes 4 header.flags.toNat ++ leBytes 8 header.timestamp.toNat ++
    leBytes 4 header.last_known_good.toNat ++ leBytes 4 header.wave_or_recovery_epoch.toNat ++
    [header.copyset_size] ++ leBytes 8 header.offset_within_epoch.toNat ++
    header.key_size.flatMap (fun key_size => leBytes 8 key_size.toNat) ++
    leBytes 8 header.payload_size.toNat

/-- `memcpy(&header, buffer, sizeof(EntryHeader))`: each field at its offset in the packed
struct. -/
def ofBytes (bytes : List UInt8) : EntryHeader :=
  { flags := (readLE bytes 0 4).toUInt32
    timestamp := (readLE bytes 4 8).toUInt64
    last_known_good := (readLE bytes 12 4).toUInt32
    wave_or_recovery_epoch := (readLE bytes 16 4).toUInt32
    copyset_size := (readLE bytes 20 1).toUInt8
    offset_within_epoch := (readLE bytes 21 8).toUInt64
    key_size := (List.range KeyType_MAX).map fun i => (readLE bytes (29 + 8 * i) 8).toUInt64
    payload_size := (readLE bytes (29 + 8 * KeyType_MAX) 8).toUInt64 }

lemma length_toBytes (header : EntryHeader) (hkeys : header.key_size.length = KeyType_MAX) :
    header.toBytes.length = sizeof_EntryHeader := by
  obtain ⟨_, _, _, _, _, _, key_size, _⟩ := header
  match key_size, hkeys with
  | [_, _], _ => simp [toBytes, sizeof_EntryHeader, KeyType_MAX]

/-- A header with a size for each key type reads back from its bytes. -/
lemma ofBytes_toBytes (header : EntryHeader) (hkeys : header.key_size.length = KeyType_MAX) :
    ofBytes header.toBytes = header := by
  obtain ⟨_, _, _, _, _, _, key_size, _⟩ := header
  -- `KeyType::MAX` is 2: a size for `FINDKEY`, then one for `FILTERABLE`
  match key_size, hkeys with
  | [_, _], _ =>
    simp [ofBytes, toBytes, readLE_append_of_le, readLE_cons_of_pos, KeyType_MAX, List.range_succ]

end EntryHeader

end EpochRecordCacheSerializer

namespace EpochRecordCacheEntry

open EpochRecordCacheSerializer

/-! ### Writing -/

/-- The size of the value of each key type below `KeyType::MAX`, 0 for a type without a key. -/
def keySizes (keys : OptionalKeys) : List UInt64 :=
  (List.range KeyType_MAX).map fun i =>
    UInt64.ofNat (((keys.entries.lookup (UInt8.ofNat i)).map List.length).getD 0)

/-- The values of the key types below `KeyType::MAX`, in type order. -/
def keyBytes (keys : OptionalKeys) : List UInt8 :=
  (List.range KeyType_MAX).flatMap fun i => (keys.entries.lookup (UInt8.ofNat i)).getD []

/-- `EpochRecordCacheEntry::sizeInLinearBuffer`. -/
def sizeInLinearBuffer (e : EpochRecordCacheEntry) : ℕ :=
  sizeof_EntryHeader + 4 * e.copyset.length + (e.keys.entries.map fun kv => kv.2.length).sum +
    e.payload.length +
    (if e.flags &&& STORE_Header.OFFSET_MAP ≠ 0 then e.offsets_within_epoch.serialize.length else 0)

/-- The `EntryHeader` that `toLinearBuffer` writes. -/
def entryHeader (e : EpochRecordCacheEntry) : EntryHeader :=
  { flags := e.flags
    timestamp := e.timestamp
    last_known_good := e.last_known_good
    wave_or_recovery_epoch := e.wave_or_recovery_epoch
    copyset_size := UInt8.ofNat e.copyset.length
    offset_within_epoch := e.offsets_within_epoch.getCounter BYTE_OFFSET
    key_size := keySizes e.keys
    payload_size := UInt64.ofNat e.payload.length }

/-- `EpochRecordCacheEntry::toLinearBuffer` into a buffer of `size` bytes: the bytes written, or
`NOBUFS`. -/
def toLinearBuffer (e : EpochRecordCacheEntry) (size : ℕ) : Except E (List UInt8) :=
  if e.sizeInLinearBuffer > size then .error .NOBUFS
  else
    let header := entryHeader e
    let map_bytes :=
      if header.flags &&& STORE_Header.OFFSET_MAP ≠ 0 then e.offsets_within_epoch.serialize else []
    -- each `ShardID` as it is in memory: the node index, then the shard index
    let copyset_bytes := e.copyset.flatMap (copysetEntry true)
    .ok (header.toBytes ++ map_bytes ++ copyset_bytes ++ keyBytes e.keys ++ e.payload)

/-! ### Reading -/

/-- How `fromLinearBuffer` ends other than by returning the size it read. -/
inductive ReadFailure where
  /-- `-1`, with `err` set to the code, or left as it was -/
  | failed (err : Option E)
  /-- a copy from outside `[buffer, buffer + size)` -/
  | outOfBounds
  deriving DecidableEq, Repr

/-- A check that returns `-1` where its condition holds. -/
def failIf (cond : Prop) [Decidable cond] (failure : ReadFailure) : Except ReadFailure Unit :=
  if cond then .error failure else .ok ()

/-- A copy of `n` bytes from the front of what is left of the buffer. -/
def copyBytes (rest : List UInt8) (n : ℕ) : Except ReadFailure (List UInt8 × List UInt8) :=
  if n ≤ rest.length then .ok (rest.take n, rest.drop n) else .error .outOfBounds

/-- The loop of `fromLinearBuffer` over the key types from `i`: a key of `key_size[i]` bytes for
each type whose size is not 0. The keys start empty and each type comes once, so `insert` is the
source's `keys[i] = ...`. -/
def readKeys : ℕ → List UInt64 → List UInt8 → OptionalKeys → ℕ →
    Except ReadFailure (OptionalKeys × List UInt8 × ℕ)
  | _, [], rest, keys, current_size => .ok (keys, rest, current_size)
  | i, key_size :: key_sizes, rest, keys, current_size =>
    if key_size > 0 then do
      let (key, rest) ← copyBytes rest key_size.toNat
      readKeys (i + 1) key_sizes rest (keys.insert (UInt8.ofNat i) key)
        (current_size + key_size.toNat)
    else readKeys (i + 1) key_sizes rest keys current_size

/-- The payload: `payload_size` bytes where that is not 0. -/
def readPayload (payload_size : UInt64) (rest : List UInt8) (current_size : ℕ) :
    Except ReadFailure (List UInt8 × ℕ) :=
  if payload_size > 0 then do
    let (payload, _) ← copyBytes rest payload_size.toNat
    return (payload, current_size + payload_size.toNat)
  else .ok ([], current_size)

/-- `EpochRecordCacheEntry::fromLinearBuffer`: the entry and the size read, its return value. -/
def fromLinearBuffer (lsn : Lsn) (buffer : List UInt8) :
    Except ReadFailure (EpochRecordCacheEntry × ℕ) := do
  failIf (sizeof_EntryHeader > buffer.length) (.failed none)
  let (header_bytes, rest) ← copyBytes buffer sizeof_EntryHeader
  let header := EntryHeader.ofBytes header_bytes
  let current_size := sizeof_EntryHeader
  -- the map is read after the header, and `current_size` is left where it is
  let offsets_within_epoch :=
    if header.flags &&& STORE_Header.OFFSET_MAP ≠ 0 then (OffsetMap.empty.deserialize rest).1
    else OffsetMap.empty.setCounter BYTE_OFFSET header.offset_within_epoch
  let copyset_memsize := 4 * header.copyset_size.toNat
  -- in `size_t`
  failIf ((current_size + copyset_memsize + header.payload_size.toNat) % 2 ^ 64 > buffer.length)
    (.failed (some .NOBUFS))
  let (copyset_bytes, rest) ← copyBytes rest copyset_memsize
  let current_size := current_size + copyset_memsize
  let (keys, rest, current_size) ← readKeys 0 header.key_size rest OptionalKeys.empty current_size
  let (payload, current_size) ← readPayload header.payload_size rest current_size
  return ({ lsn
            flags := header.flags
            timestamp := header.timestamp
            last_known_good := header.last_known_good
            wave_or_recovery_epoch := header.wave_or_recovery_epoch
            copyset := readShardIDs header.copyset_size.toNat copyset_bytes
            offsets_within_epoch
            keys
            payload }, current_size)

/-! ### Reading back what was written -/

lemma failIf_neg {cond : Prop} [Decidable cond] (h : ¬cond) (failure : ReadFailure) :
    failIf cond failure = .ok () :=
  if_neg h

lemma copyBytes_append {a : List UInt8} {n : ℕ} (ha : a.length = n) (b : List UInt8) :
    copyBytes (a ++ b) n = .ok (a, b) := by
  rw [copyBytes, if_pos (by simp [← ha]), List.take_left' ha, List.drop_left' ha]

/-- Every key has a type with a slot in `EntryHeader::key_size`, and a value that is not empty. -/
def KeysFit (keys : OptionalKeys) : Prop :=
  ∀ kv ∈ keys.entries, kv.1.toNat < KeyType_MAX ∧ kv.2 ≠ []

lemma keyType_cases {t : KeyType} (h : t.toNat < KeyType_MAX) : t = 0 ∨ t = 1 := by
  have h' : t.toNat = 0 ∨ t.toNat = 1 := by
    simp only [KeyType_MAX] at h
    omega
  rcases h' with h' | h'
  · exact .inl (UInt8.toNat_inj.mp h')
  · exact .inr (UInt8.toNat_inj.mp h')

/-- Keys that fit are a `FINDKEY` key, a `FILTERABLE` key, both in that order, or none. -/
lemma entries_of_keysFit {keys : OptionalKeys} (h : KeysFit keys) :
    keys.entries = [] ∨ (∃ v, keys.entries = [(0, v)] ∧ v ≠ []) ∨
      (∃ v, keys.entries = [(1, v)] ∧ v ≠ []) ∨
      (∃ v₀ v₁, keys.entries = [(0, v₀), (1, v₁)] ∧ v₀ ≠ [] ∧ v₁ ≠ []) := by
  obtain ⟨entries, sorted⟩ := keys
  simp only [KeysFit] at h ⊢
  match entries, sorted, h with
  | [], _, _ => exact .inl rfl
  | [(t, v)], _, h =>
    obtain ⟨ht, hv⟩ := h (t, v) List.mem_cons_self
    rcases keyType_cases ht with rfl | rfl
    · exact .inr (.inl ⟨v, rfl, hv⟩)
    · exact .inr (.inr (.inl ⟨v, rfl, hv⟩))
  | [(t₀, v₀), (t₁, v₁)], hs, h =>
    obtain ⟨ht₀, hv₀⟩ := h (t₀, v₀) List.mem_cons_self
    obtain ⟨ht₁, hv₁⟩ := h (t₁, v₁) (List.mem_cons_of_mem _ List.mem_cons_self)
    have hlt : t₀.toNat < t₁.toNat := UInt8.lt_iff_toNat_lt.mp (List.rel_of_pairwise_cons hs
      List.mem_cons_self)
    simp only [KeyType_MAX] at ht₀ ht₁
    have h₀ : t₀ = 0 := UInt8.toNat_inj.mp (by simp; omega)
    have h₁ : t₁ = 1 := UInt8.toNat_inj.mp (by simp; omega)
    subst h₀ h₁
    exact .inr (.inr (.inr ⟨v₀, v₁, rfl, hv₀, hv₁⟩))
  | a :: b :: c :: _, hs, h =>
    -- three types below 2 cannot rise strictly
    have hab : a.1.toNat < b.1.toNat := UInt8.lt_iff_toNat_lt.mp (List.rel_of_pairwise_cons hs
      List.mem_cons_self)
    have hbc : b.1.toNat < c.1.toNat := UInt8.lt_iff_toNat_lt.mp (List.rel_of_pairwise_cons
      (List.Pairwise.of_cons hs) List.mem_cons_self)
    have hc := (h c (by simp)).1
    simp only [KeyType_MAX] at hc
    omega

/-- A size below `2 ^ 64` read back through `size_t`. -/
lemma toNat_ofNat_size {n : ℕ} (h : n < 2 ^ 64) : (UInt64.ofNat n).toNat = n :=
  UInt64.toNat_ofNat_of_lt' h

lemma ofNat_size_pos {n : ℕ} (h : n < 2 ^ 64) (hpos : 0 < n) : UInt64.ofNat n > 0 := by
  rw [gt_iff_lt, UInt64.lt_iff_toNat_lt, toNat_ofNat_size h]
  exact hpos

/-- The key bytes are the values of the keys, one after the other. -/
lemma length_keyBytes {keys : OptionalKeys} (h : KeysFit keys) :
    (keyBytes keys).length = (keys.entries.map fun kv => kv.2.length).sum := by
  rcases entries_of_keysFit h with hk | ⟨v, hk, -⟩ | ⟨v, hk, -⟩ | ⟨v₀, v₁, hk, -, -⟩ <;>
    simp [keyBytes, hk, KeyType_MAX, List.range_succ, List.lookup]

/-- The loop over the key types reads back the keys `toLinearBuffer` wrote. -/
lemma readKeys_keyBytes {keys : OptionalKeys} (h : KeysFit keys)
    (hlen : ∀ kv ∈ keys.entries, kv.2.length < 2 ^ 64) (rest : List UInt8) (current_size : ℕ) :
    readKeys 0 (keySizes keys) (keyBytes keys ++ rest) OptionalKeys.empty current_size =
      .ok (keys, rest, current_size + (keys.entries.map fun kv => kv.2.length).sum) := by
  rcases entries_of_keysFit h with hk | ⟨v, hk, hv⟩ | ⟨v, hk, hv⟩ | ⟨v₀, v₁, hk, hv₀, hv₁⟩
  · -- no key: both sizes are 0
    have hkeys : keys = OptionalKeys.empty := OptionalKeys.ext_entries hk
    simp [keySizes, keyBytes, readKeys, hkeys, KeyType_MAX, List.range_succ, OptionalKeys.empty]
  · -- a `FINDKEY` key only
    have hv' := hlen (0, v) (by simp [hk])
    have hkeys : OptionalKeys.empty.insert 0 v = keys := OptionalKeys.ext_entries (by
      simp [OptionalKeys.insert, OptionalKeys.empty, insertEntry, hk])
    simp [keySizes, keyBytes, readKeys, hk, KeyType_MAX, List.range_succ, List.lookup,
      ofNat_size_pos hv' (List.length_pos_of_ne_nil hv), toNat_ofNat_size hv',
      copyBytes_append rfl, hkeys]
  · -- a `FILTERABLE` key only
    have hv' := hlen (1, v) (by simp [hk])
    have hkeys : OptionalKeys.empty.insert 1 v = keys := OptionalKeys.ext_entries (by
      simp [OptionalKeys.insert, OptionalKeys.empty, insertEntry, hk])
    simp [keySizes, keyBytes, readKeys, hk, KeyType_MAX, List.range_succ, List.lookup,
      ofNat_size_pos hv' (List.length_pos_of_ne_nil hv), toNat_ofNat_size hv',
      copyBytes_append rfl, hkeys]
  · -- both, `FINDKEY` first
    have hv₀' := hlen (0, v₀) (by simp [hk])
    have hv₁' := hlen (1, v₁) (by simp [hk])
    have hkeys : (OptionalKeys.empty.insert 0 v₀).insert 1 v₁ = keys := OptionalKeys.ext_entries (by
      simp [OptionalKeys.insert, OptionalKeys.empty, insertEntry, hk])
    simp [keySizes, keyBytes, readKeys, hk, KeyType_MAX, List.range_succ, List.lookup,
      ofNat_size_pos hv₀' (List.length_pos_of_ne_nil hv₀), toNat_ofNat_size hv₀',
      ofNat_size_pos hv₁' (List.length_pos_of_ne_nil hv₁), toNat_ofNat_size hv₁',
      copyBytes_append rfl, hkeys, add_assoc]

/-- The payload reads back, all of what is left. -/
lemma readPayload_ofNat (payload : List UInt8) (hlen : payload.length < 2 ^ 64)
    (current_size : ℕ) :
    readPayload (UInt64.ofNat payload.length) payload current_size =
      .ok (payload, current_size + payload.length) := by
  cases payload with
  | nil => rfl
  | cons b bytes =>
    have hpos := ofNat_size_pos hlen (List.length_pos_of_ne_nil (List.cons_ne_nil b bytes))
    have hcopy := copyBytes_append (rfl : (b :: bytes).length = _) []
    rw [List.append_nil] at hcopy
    rw [readPayload, if_pos hpos, toNat_ofNat_size hlen, hcopy]
    rfl

/-- Without `OFFSET_MAP`, an entry reads back from what `toLinearBuffer` wrote, all of it, with its
offsets reduced to the `BYTE_OFFSET` counter: where its copyset fits in `copyset_size_t` and in the
fields of `ShardID`, its keys fit, and its size fits in `size_t`. -/
lemma fromLinearBuffer_toLinearBuffer (e : EpochRecordCacheEntry) (size : ℕ)
    (hsize : e.sizeInLinearBuffer ≤ size) (hflags : e.flags &&& STORE_Header.OFFSET_MAP = 0)
    (hcopyset : e.copyset.length < 256) (hfits : FitsInCopyset e.copyset) (hkeys : KeysFit e.keys)
    (hbound : e.sizeInLinearBuffer < 2 ^ 64) :
    ∃ bytes, e.toLinearBuffer size = .ok bytes ∧ bytes.length = e.sizeInLinearBuffer ∧
      fromLinearBuffer e.lsn bytes =
        .ok ({ e with
          offsets_within_epoch := OffsetMap.fromLegacy (e.offsets_within_epoch.getCounter BYTE_OFFSET) },
          e.sizeInLinearBuffer) := by
  have hkeysize : (entryHeader e).key_size.length = KeyType_MAX := by
    simp [entryHeader, keySizes]
  have hnomap : ¬(e.flags &&& STORE_Header.OFFSET_MAP ≠ 0) := not_not.mpr hflags
  have hsum : e.sizeInLinearBuffer = sizeof_EntryHeader + 4 * e.copyset.length +
      (e.keys.entries.map fun kv => kv.2.length).sum + e.payload.length := by
    simp [sizeInLinearBuffer, hnomap]
  -- every length fits in `size_t`
  have hkeylen : ∀ kv ∈ e.keys.entries, kv.2.length < 2 ^ 64 := fun kv hkv =>
    lt_of_le_of_lt (List.le_sum_of_mem
      (List.mem_map_of_mem (f := fun kv : KeyType × List UInt8 => kv.2.length) hkv)) (by omega)
  have hpayload : e.payload.length < 2 ^ 64 := by omega
  have hcs : (entryHeader e).copyset_size.toNat = e.copyset.length :=
    UInt8.toNat_ofNat_of_lt' hcopyset
  have hcopyset_bytes :
      (e.copyset.flatMap (copysetEntry true)).length = 4 * (entryHeader e).copyset_size.toNat := by
    rw [length_flatMap_copysetEntry, hcs, if_pos rfl, Nat.mul_comm]
  have hlen : ((entryHeader e).toBytes ++ e.copyset.flatMap (copysetEntry true) ++ keyBytes e.keys ++
      e.payload).length = e.sizeInLinearBuffer := by
    rw [List.length_append, List.length_append, List.length_append,
      EntryHeader.length_toBytes _ hkeysize, hcopyset_bytes, hcs, length_keyBytes hkeys, hsum]
  refine ⟨(entryHeader e).toBytes ++ e.copyset.flatMap (copysetEntry true) ++ keyBytes e.keys ++
    e.payload, ?_, hlen, ?_⟩
  · -- the writer: the size check passes, and no map is written
    rw [toLinearBuffer, if_neg (not_lt.mpr hsize)]
    simp only [entryHeader, hnomap, if_false, List.append_nil]
  · -- the reader, part after part
    have hfit : ¬(sizeof_EntryHeader > e.sizeInLinearBuffer) := by
      rw [hsum]
      omega
    have hnobufs : ¬((sizeof_EntryHeader + 4 * (entryHeader e).copyset_size.toNat +
        (entryHeader e).payload_size.toNat) % 2 ^ 64 > e.sizeInLinearBuffer) := by
      have hps : (entryHeader e).payload_size.toNat = e.payload.length := toNat_ofNat_size hpayload
      rw [hcs, hps, Nat.mod_eq_of_lt (by omega)]
      omega
    unfold fromLinearBuffer
    rw [hlen, failIf_neg hfit, Except.bind_ok', List.append_assoc, List.append_assoc,
      copyBytes_append (EntryHeader.length_toBytes _ hkeysize), Except.bind_ok']
    dsimp only
    rw [EntryHeader.ofBytes_toBytes _ hkeysize, failIf_neg hnobufs, Except.bind_ok',
      copyBytes_append hcopyset_bytes, Except.bind_ok']
    dsimp only
    have hks : (entryHeader e).key_size = keySizes e.keys := rfl
    have hps : (entryHeader e).payload_size = UInt64.ofNat e.payload.length := rfl
    rw [hks, readKeys_keyBytes hkeys hkeylen, Except.bind_ok']
    dsimp only
    rw [hps, readPayload_ofNat e.payload hpayload, Except.bind_ok', hcs,
      readShardIDs_flatMap _ hfits]
    have hflags' : (entryHeader e).flags = e.flags := rfl
    simp only [hflags', hnomap, if_false, Except.pure_eq_ok, hsum]
    rfl

theorem fromLinearBuffer_toLinearBuffer_payload :
    let e : EpochRecordCacheEntry :=
      ⟨5, 0, 0, 0, 1, [⟨1, 0⟩], OffsetMap.empty, OptionalKeys.empty, [7]⟩
    ∃ bytes, e.toLinearBuffer 58 = .ok bytes ∧ bytes.length = e.sizeInLinearBuffer ∧
      fromLinearBuffer e.lsn bytes =
        .ok ({ e with
          offsets_within_epoch := OffsetMap.fromLegacy (e.offsets_within_epoch.getCounter BYTE_OFFSET) },
          e.sizeInLinearBuffer) :=
  fromLinearBuffer_toLinearBuffer _ 58 (by decide) (by decide) (by decide)
    (by
      intro s hs
      rw [List.mem_singleton] at hs
      subst hs
      decide)
    (by
      intro kv hkv
      exact absurd hkv List.not_mem_nil)
    (by decide)

/-- An entry with `OFFSET_MAP` and no counter, copyset `N1:S0` and the payload `[7]`. -/
def offsetMapEntry : EpochRecordCacheEntry :=
  { lsn := 5
    flags := STORE_Header.OFFSET_MAP
    timestamp := 0
    last_known_good := 0
    wave_or_recovery_epoch := 1
    copyset := [⟨1, 0⟩]
    offsets_within_epoch := OffsetMap.empty
    keys := OptionalKeys.empty
    payload := [7] }

/-- The 59 bytes written for `offsetMapEntry` read back with the copyset and the payload taken from
one byte too early, and a size of 58. -/
theorem fromLinearBuffer_offset_map_misread :
    offsetMapEntry.sizeInLinearBuffer = 59 ∧
      offsetMapEntry.toLinearBuffer 59 =
        .ok ((entryHeader offsetMapEntry).toBytes ++ [0, 1, 0, 0, 0, 7]) ∧
      ((fromLinearBuffer offsetMapEntry.lsn
          ((entryHeader offsetMapEntry).toBytes ++ [0, 1, 0, 0, 0, 7])).toOption.map
        fun r => (r.1.copyset, r.1.payload, r.2)) = some ([⟨256, 0⟩], [0], 58) := by
  decide

/-- A buffer that is just a header whose `FINDKEY` size is 1: the key is copied from past the end. -/
theorem fromLinearBuffer_unchecked_key :
    fromLinearBuffer 1 (EntryHeader.toBytes
      { flags := 0
        timestamp := 0
        last_known_good := 0
        wave_or_recovery_epoch := 1
        copyset_size := 0
        offset_within_epoch := 0
        key_size := [1, 0]
        payload_size := 0 }) = .error .outOfBounds := by
  rfl

end EpochRecordCacheEntry

end LogDevice
