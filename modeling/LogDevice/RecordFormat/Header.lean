import LogDevice.OffsetMap
import LogDevice.Types
import LogDevice.Lib.Varint

/-!
# The record header of the local log store

Model of the writer of `LocalLogStoreRecordFormat` (`common/LocalLogStoreRecordFormat.h`,
`LocalLogStoreRecordFormat.cpp`): the header a storage node writes before a record's payload.
Every fixed-width field is in host byte order (little-endian):

* the timestamp (8 bytes), the last known good ESN (4), the flags as a varint, and the wave or
  recovery epoch (4);
* the copyset size (1) and the copyset: with `FLAG_SHARD_ID` each `ShardID` (node, then shard, 2
  bytes each), otherwise each node index (2);
* with `FLAG_OFFSET_WITHIN_EPOCH` and without `FLAG_OFFSET_MAP`, the `BYTE_OFFSET` counter (8);
* with `FLAG_CUSTOM_KEY` or `FLAG_OPTIONAL_KEYS`, the size of the optional keys (2) and their bytes:
  `serializeOptionalKeys` writes the number of keys (2), then each key's type (1), length (2) and
  bytes;
* with `FLAG_OFFSET_WITHIN_EPOCH` and `FLAG_OFFSET_MAP`, the whole `OffsetMap`.

The optional keys are a `std::map<KeyType, std::string>`, kept as its entries in key order
(`OptionalKeys`); `insert` is `std::map::insert`, which keeps the value of a key already there.
-/

namespace LogDevice

open Lib

namespace LocalLogStoreRecordFormat

/-- `flags_t`. -/
abbrev Flags := UInt32

/-- `FLAG_OFFSET_WITHIN_EPOCH`, `1u << 8`. -/
def FLAG_OFFSET_WITHIN_EPOCH : Flags := 256

/-- `FLAG_WRITTEN_BY_RECOVERY`, `1u << 13`. -/
def FLAG_WRITTEN_BY_RECOVERY : Flags := 8192

/-- `FLAG_CUSTOM_KEY`, `1u << 14`. -/
def FLAG_CUSTOM_KEY : Flags := 16384

/-- `FLAG_OPTIONAL_KEYS`, `1u << 18`. -/
def FLAG_OPTIONAL_KEYS : Flags := 262144

/-- `FLAG_SHARD_ID`, `1u << 20`. -/
def FLAG_SHARD_ID : Flags := 1048576

/-- `FLAG_OFFSET_MAP`, `1u << 21`. -/
def FLAG_OFFSET_MAP : Flags := 2097152

/-- `COPYSET_SIZE_MAX`. -/
def COPYSET_SIZE_MAX : ℕ := 127

/-- `KeyType`, a byte. -/
abbrev KeyType := UInt8

/-- `KeyType::FINDKEY`. -/
def FINDKEY : KeyType := 0

/-! ### The optional keys -/

/-- `std::map::insert` on entries in key order: a new key goes in its place, a key already there
keeps its value. -/
def insertEntry (key_type : KeyType) (key : List UInt8) :
    List (KeyType × List UInt8) → List (KeyType × List UInt8)
  | [] => [(key_type, key)]
  | e :: rest =>
    if key_type < e.1 then (key_type, key) :: e :: rest
    else if key_type = e.1 then e :: rest
    else e :: insertEntry key_type key rest

lemma fst_mem_insertEntry {x : KeyType} {key_type : KeyType} {key : List UInt8} :
    ∀ {l : List (KeyType × List UInt8)}, x ∈ (insertEntry key_type key l).map Prod.fst →
      x = key_type ∨ x ∈ l.map Prod.fst
  | [], h => by simpa [insertEntry] using h
  | e :: rest, h => by
    simp only [insertEntry] at h
    split_ifs at h with hlt heq
    · simpa using h
    · exact .inr h
    · simp only [List.map_cons, List.mem_cons] at h
      rcases h with h | h
      · exact .inr (by simp [h])
      · rcases fst_mem_insertEntry h with h | h
        · exact .inl h
        · exact .inr (by simp [h])

/-- Inserting keeps the entries in key order. -/
lemma sorted_insertEntry {key_type : KeyType} {key : List UInt8} :
    ∀ {l : List (KeyType × List UInt8)}, l.Pairwise (fun a b => a.1 < b.1) →
      (insertEntry key_type key l).Pairwise (fun a b => a.1 < b.1)
  | [], _ => by simp [insertEntry]
  | e :: rest, h => by
    obtain ⟨he, hrest⟩ := List.pairwise_cons.mp h
    simp only [insertEntry]
    split_ifs with hlt heq
    · -- in front of `e`, hence of every later key
      refine List.Pairwise.cons (fun b hb => ?_) h
      rcases List.mem_cons.mp hb with rfl | hb
      · exact hlt
      · exact UInt8.lt_trans hlt (he b hb)
    · exact h
    · -- past `e`: what goes in after it is above it
      have hgt : e.1 < key_type := by
        rcases UInt8.lt_or_lt_of_ne heq with h' | h'
        · exact absurd h' hlt
        · exact h'
      refine List.Pairwise.cons (fun b hb => ?_) (sorted_insertEntry hrest)
      rcases fst_mem_insertEntry (List.mem_map_of_mem (f := Prod.fst) hb) with h' | h'
      · rw [h']
        exact hgt
      · obtain ⟨c, hc, hcb⟩ := List.mem_map.mp h'
        rw [← hcb]
        exact he c hc

/-- A key past every key of the map goes at the end. -/
lemma insertEntry_of_lt {key_type : KeyType} {key : List UInt8} :
    ∀ {l : List (KeyType × List UInt8)}, (∀ e ∈ l, e.1 < key_type) →
      insertEntry key_type key l = l ++ [(key_type, key)]
  | [], _ => rfl
  | e :: rest, h => by
    have he := h e List.mem_cons_self
    have hnlt : ¬key_type < e.1 := UInt8.not_lt.mpr (UInt8.le_of_lt he)
    have hne : key_type ≠ e.1 := fun heq => UInt8.lt_irrefl _ (heq ▸ he)
    rw [insertEntry, if_neg hnlt, if_neg hne,
      insertEntry_of_lt fun e' he' => h e' (List.mem_cons_of_mem e he')]
    rfl

/-- The optional keys of a record, `std::map<KeyType, std::string>`: the entries in key order. -/
structure OptionalKeys where
  entries : List (KeyType × List UInt8)
  sorted : entries.Pairwise (fun a b => a.1 < b.1)

namespace OptionalKeys

/-- A map with no key. -/
def empty : OptionalKeys := ⟨[], List.Pairwise.nil⟩

/-- `std::map::insert`. -/
def insert (m : OptionalKeys) (key_type : KeyType) (key : List UInt8) : OptionalKeys :=
  ⟨insertEntry key_type key m.entries, sorted_insertEntry m.sorted⟩

lemma ext_entries {m m' : OptionalKeys} (h : m.entries = m'.entries) : m = m' := by
  cases m
  cases m'
  cases h
  rfl

/-- Keys inserted in increasing order past every key of the map go at the end: the first is
appended, and the others are still past every key. -/
lemma insert_of_lt {m : OptionalKeys} {f : KeyType × List UInt8} {es : List (KeyType × List UInt8)}
    (hlt : ∀ e ∈ m.entries, ∀ g ∈ f :: es, e.1 < g.1) (hf : ∀ g ∈ es, f.1 < g.1) :
    (m.insert f.1 f.2).entries = m.entries ++ [f] ∧
      ∀ e ∈ (m.insert f.1 f.2).entries, ∀ g ∈ es, e.1 < g.1 := by
  have happend : (m.insert f.1 f.2).entries = m.entries ++ [f] :=
    insertEntry_of_lt fun e he => hlt e he f List.mem_cons_self
  refine ⟨happend, fun e he g hg => ?_⟩
  rw [happend] at he
  rcases List.mem_append.mp he with he | he
  · exact hlt e he g (List.mem_cons_of_mem f hg)
  · rw [List.mem_singleton.mp he]
    exact hf g hg

end OptionalKeys

/-- `serializeOptionalKeys`: the number of keys, then each key's type, length and bytes, the
lengths as `uint16_t`. -/
def serializeOptionalKeys (optional_keys : OptionalKeys) : List UInt8 :=
  leBytes 2 optional_keys.entries.length ++
    optional_keys.entries.flatMap fun e => e.1 :: (leBytes 2 e.2.length ++ e.2)

/-! ### The header -/

/-- One entry of the copyset: the `ShardID` with `FLAG_SHARD_ID`, the node index alone
otherwise. -/
def copysetEntry (shard_id : Bool) (shard : ShardID) : List UInt8 :=
  if shard_id then leBytes 2 shard.node ++ leBytes 2 shard.shard else leBytes 2 shard.node

/-- `formRecordHeaderBufAppend` into an empty buffer. -/
def formRecordHeaderBufAppend (timestamp : UInt64) (last_known_good : Esn) (flags : Flags)
    (wave_or_recovery_epoch : UInt32) (copyset : List ShardID) (offsets_within_epoch : OffsetMap)
    (optional_keys : List UInt8) : List UInt8 :=
  let fixed := leBytes 8 timestamp.toNat ++ leBytes 4 last_known_good.toNat ++
    encodeVarint flags.toNat ++ leBytes 4 wave_or_recovery_epoch.toNat
  -- `copyset_size_t copyset_size = copyset.size()`
  let copyset_bytes := UInt8.ofNat copyset.length ::
    copyset.flatMap (copysetEntry (flags &&& FLAG_SHARD_ID ≠ 0))
  let offset_bytes :=
    if flags &&& FLAG_OFFSET_WITHIN_EPOCH ≠ 0 ∧ flags &&& FLAG_OFFSET_MAP = 0 then
      leBytes 8 (offsets_within_epoch.getCounter BYTE_OFFSET).toNat
    else []
  -- `uint16_t length = optional_keys.size`
  let key_bytes :=
    if flags &&& FLAG_CUSTOM_KEY ≠ 0 ∨ flags &&& FLAG_OPTIONAL_KEYS ≠ 0 then
      leBytes 2 optional_keys.length ++ optional_keys
    else []
  let map_bytes :=
    if flags &&& FLAG_OFFSET_WITHIN_EPOCH ≠ 0 ∧ flags &&& FLAG_OFFSET_MAP ≠ 0 then
      offsets_within_epoch.serialize
    else []
  fixed ++ copyset_bytes ++ offset_bytes ++ key_bytes ++ map_bytes

/-- `formRecordHeader` with the optional keys as a map. -/
def formRecordHeader (timestamp : UInt64) (last_known_good : Esn) (flags : Flags)
    (wave_or_recovery_epoch : UInt32) (copyset : List ShardID) (offsets_within_epoch : OffsetMap)
    (optional_keys : OptionalKeys) : List UInt8 :=
  formRecordHeaderBufAppend timestamp last_known_good flags wave_or_recovery_epoch copyset
    offsets_within_epoch (serializeOptionalKeys optional_keys)

end LocalLogStoreRecordFormat

end LogDevice
