import LogDevice.Lsn
import LogDevice.LocalLogStore.MetadataMerge

/-!
# The record and metadata keys of the local log store

Model of the key classes of `RocksDBKeyFormat` (`server/locallogstore/RocksDBKeyFormat.h`) beside
`IndexKey` and the merged `CustomIndexDirectoryKey`: `DataKey`, `PerEpochLogMetaKey`,
`PartitionDirectoryKey` and `CopySetIndexKey`, and the readers of `CustomIndexDirectoryKey`. Each is
a packed struct of a one-byte header and fields in big-endian byte order; a key is the bytes of the
struct, and a reader copies a field out at its `offsetof` (`Lib.readBE`). Each key reads back what
its constructor wrote, and `valid` accepts it where its entry or index type is one `valid` knows
(`keys_roundtrip`).

A `DataKey` is written in two formats. The new one is the header, the log id and the LSN
(`sliceForForwardSeek`); the old one is the whole struct, with the deprecated wave after them in
host byte order (`oldFormatKey`). For one record, a key of the new format is a prefix of every key
of the old format, and the old format with `WAVE_MAX` (`sliceForBackwardSeek`) comes after all of
them and before every key of a later record: `Seek` and `SeekForPrev` on the two slices find a
record in either format.
-/

namespace LogDevice

open Lib

/-- `PerEpochLogMetadataType`. -/
inductive PerEpochLogMetadataType where
  | RECOVERY
  | MUTABLE
  | MAX
  deriving DecidableEq, Repr

namespace RocksDBKeyFormat

/-! ### `DataKey` -/

namespace DataKey

/-- `DataKey::HEADER`, `prefix(KeyPrefix::DataKey)`. -/
def HEADER : UInt8 := 'd'.toUInt8

/-- `WAVE_MAX`. -/
def WAVE_MAX : UInt32 := 4294967295

/-- `DataKey::Format`, `DataKeyFormat`. -/
inductive Format where
  | DEFAULT
  | OLD
  | NEW
  deriving DecidableEq, Repr

/-- `DataKey(log_id, lsn).sliceForForwardSeek()`: the struct up to `wave_DEPRECATED_`. -/
def sliceForForwardSeek (log_id : LogId) (lsn : Lsn) : List UInt8 :=
  HEADER :: (beBytes 8 log_id.toNat ++ beBytes 8 lsn.toNat)

/-- The whole struct of a `DataKey(log_id, lsn)` whose `wave_DEPRECATED_` is `wave`, in host byte
order: the key of the old format. -/
def oldFormatKey (log_id : LogId) (lsn : Lsn) (wave : UInt32) : List UInt8 :=
  sliceForForwardSeek log_id lsn ++ leBytes 4 wave.toNat

/-- `DataKey::sliceForBackwardSeek`: the whole struct, with the wave set to `WAVE_MAX`. -/
def sliceForBackwardSeek (log_id : LogId) (lsn : Lsn) : List UInt8 :=
  oldFormatKey log_id lsn WAVE_MAX

/-- `DataKey::sliceForWriting`: the wave is set to `0xeeeeeeee`, and the slice stops before it
unless `fmt` is `OLD`. -/
def sliceForWriting (log_id : LogId) (lsn : Lsn) (fmt : Format := .DEFAULT) : List UInt8 :=
  if fmt ≠ .OLD then sliceForForwardSeek log_id lsn else oldFormatKey log_id lsn 0xeeeeeeee

/-- `DataKey::getLogID`: the eight bytes after the header. -/
def getLogID (blob : List UInt8) : LogId := (readBE blob 1 8).toUInt64

/-- `DataKey::getLSN`: the eight bytes after the log id. -/
def getLSN (blob : List UInt8) : Lsn := (readBE blob 9 8).toUInt64

/-- `DataKey::valid`: at least the new format's size, and the header. -/
def valid (blob : List UInt8) : Bool := blob.length ≥ 17 && blob.getD 0 0 == HEADER

/-- `DataKey::isInNewFormat`. -/
def isInNewFormat (blob : List UInt8) : Bool := blob.length == 17

section RoundTrip

variable (log_id : LogId) (lsn : Lsn)

@[simp] lemma length_sliceForForwardSeek : (sliceForForwardSeek log_id lsn).length = 17 := by
  simp [sliceForForwardSeek]

/-- Both fields read back from every key that starts with the new format's bytes. -/
lemma getLogID_sliceForForwardSeek_append (rest : List UInt8) :
    getLogID (sliceForForwardSeek log_id lsn ++ rest) = log_id := by
  have hsplit : sliceForForwardSeek log_id lsn ++ rest =
      [HEADER] ++ (beBytes 8 log_id.toNat ++ (beBytes 8 lsn.toNat ++ rest)) := by
    simp [sliceForForwardSeek]
  rw [getLogID, hsplit]
  exact toUInt64_readBE rfl _ log_id

lemma getLSN_sliceForForwardSeek_append (rest : List UInt8) :
    getLSN (sliceForForwardSeek log_id lsn ++ rest) = lsn := by
  have hsplit : sliceForForwardSeek log_id lsn ++ rest =
      (HEADER :: beBytes 8 log_id.toNat) ++ (beBytes 8 lsn.toNat ++ rest) := by
    simp [sliceForForwardSeek]
  rw [getLSN, hsplit]
  exact toUInt64_readBE (by simp) _ lsn

lemma valid_sliceForForwardSeek_append (rest : List UInt8) :
    valid (sliceForForwardSeek log_id lsn ++ rest) = true := by
  have hlen : (sliceForForwardSeek log_id lsn ++ rest).length ≥ 17 := by simp
  have hheader : (sliceForForwardSeek log_id lsn ++ rest).getD 0 0 = HEADER := rfl
  simp only [valid, hlen, hheader, decide_true, beq_self_eq_true, Bool.and_self]

lemma sliceForForwardSeek_roundtrip :
    getLogID (sliceForForwardSeek log_id lsn) = log_id ∧
      getLSN (sliceForForwardSeek log_id lsn) = lsn ∧
      valid (sliceForForwardSeek log_id lsn) = true := by
  rw [← List.append_nil (sliceForForwardSeek log_id lsn)]
  exact ⟨getLogID_sliceForForwardSeek_append _ _ _, getLSN_sliceForForwardSeek_append _ _ _,
    valid_sliceForForwardSeek_append _ _ _⟩

lemma oldFormatKey_roundtrip (wave : UInt32) :
    getLogID (oldFormatKey log_id lsn wave) = log_id ∧
      getLSN (oldFormatKey log_id lsn wave) = lsn ∧
      valid (oldFormatKey log_id lsn wave) = true :=
  ⟨getLogID_sliceForForwardSeek_append _ _ _, getLSN_sliceForForwardSeek_append _ _ _,
    valid_sliceForForwardSeek_append _ _ _⟩

/-- Every key `sliceForWriting` writes reads back and is valid; it is in the new format exactly
where `fmt` is not `OLD`. -/
lemma sliceForWriting_roundtrip (fmt : Format) :
    getLogID (sliceForWriting log_id lsn fmt) = log_id ∧
      getLSN (sliceForWriting log_id lsn fmt) = lsn ∧
      valid (sliceForWriting log_id lsn fmt) = true ∧
      isInNewFormat (sliceForWriting log_id lsn fmt) = decide (fmt ≠ .OLD) := by
  by_cases hfmt : fmt = .OLD
  · -- the whole struct, with the wave
    simp only [sliceForWriting, hfmt, ne_eq, not_true_eq_false, if_false]
    exact ⟨oldFormatKey_roundtrip log_id lsn _ |>.1, oldFormatKey_roundtrip log_id lsn _ |>.2.1,
      oldFormatKey_roundtrip log_id lsn _ |>.2.2, by simp [isInNewFormat, oldFormatKey]⟩
  · -- the new format alone
    obtain ⟨hlog, hlsn, hvalid⟩ := sliceForForwardSeek_roundtrip log_id lsn
    simp only [sliceForWriting, hfmt, ne_eq, not_false_eq_true, if_true, isInNewFormat,
      length_sliceForForwardSeek, decide_true]
    exact ⟨hlog, hlsn, hvalid, rfl⟩

end RoundTrip

/-! #### The two formats in the bytewise order -/

section Order

/-- The old format's wave in host byte order is `0xff` four times at `WAVE_MAX`. -/
lemma leBytes_WAVE_MAX : leBytes 4 WAVE_MAX.toNat = List.replicate 4 255 := by
  decide

/-- A key of the new format comes first among the keys of its record. -/
lemma sliceForForwardSeek_le_oldFormatKey (log_id : LogId) (lsn : Lsn) (wave : UInt32) :
    sliceForForwardSeek log_id lsn ≤ oldFormatKey log_id lsn wave :=
  List.IsPrefix.le (List.prefix_append _ _)

/-- `sliceForBackwardSeek` comes last among the keys of its record. -/
lemma oldFormatKey_le_sliceForBackwardSeek (log_id : LogId) (lsn : Lsn) (wave : UInt32) :
    oldFormatKey log_id lsn wave ≤ sliceForBackwardSeek log_id lsn := by
  intro hlt
  rw [sliceForBackwardSeek, oldFormatKey, oldFormatKey, append_lt_append_iff rfl] at hlt
  rcases hlt with hlt | ⟨-, hwave⟩
  · exact List.lt_irrefl _ hlt
  · rw [leBytes_WAVE_MAX] at hwave
    exact not_replicate_lt (length_leBytes 4 _) hwave

/-- `sliceForBackwardSeek` comes before every key of a later record. -/
lemma sliceForBackwardSeek_lt_sliceForForwardSeek {log_id log_id' : LogId} {lsn lsn' : Lsn}
    (hlt : Prod.Lex (· < ·) (· < ·) (log_id, lsn) (log_id', lsn')) :
    sliceForBackwardSeek log_id lsn < sliceForForwardSeek log_id' lsn' := by
  -- past the common header, the two words of the first key are below those of the second
  have hwords : beBytes 8 log_id.toNat ++ beBytes 8 lsn.toNat <
      beBytes 8 log_id'.toNat ++ beBytes 8 lsn'.toNat := beBytes_pair_lt_iff.mpr hlt
  have htail : (beBytes 8 log_id.toNat ++ beBytes 8 lsn.toNat) ++ leBytes 4 WAVE_MAX.toNat <
      (beBytes 8 log_id'.toNat ++ beBytes 8 lsn'.toNat) ++ [] :=
    (append_lt_append_iff (by simp)).mpr (.inl hwords)
  rw [List.append_nil] at htail
  rw [sliceForBackwardSeek, oldFormatKey, sliceForForwardSeek, sliceForForwardSeek,
    List.cons_append, List.cons_lt_cons_iff]
  exact .inr ⟨rfl, htail⟩

end Order

end DataKey

/-! ### `PerEpochLogMetaKey` -/

namespace PerEpochLogMetaKey

/-- `PerEpochLogMetaKey::HEADER_RECOVERY`, `prefix(KeyPrefix::PerEpochLogMeta_Recovery)`. -/
def HEADER_RECOVERY : UInt8 := 'V'.toUInt8

/-- `PerEpochLogMetaKey::getHeader`; `MAX` has none (`ld_check(false)`, then 0). -/
def getHeader : PerEpochLogMetadataType → UInt8
  | .RECOVERY => HEADER_RECOVERY
  | .MUTABLE => HEADER_MUTABLE
  | .MAX => 0

/-- `PerEpochLogMetaKey(type, log_id, epoch)`, packed: the header of the type, the log id in 8
bytes and the epoch in 4, big-endian. -/
def create (type : PerEpochLogMetadataType) (log_id : LogId) (epoch : Epoch) : List UInt8 :=
  getHeader type :: (beBytes 8 log_id.toNat ++ beBytes 4 epoch.toNat)

/-- `PerEpochLogMetaKey::getLogID`. -/
def getLogID (blob : List UInt8) : LogId := (readBE blob 1 8).toUInt64

/-- `PerEpochLogMetaKey::getEpoch`. -/
def getEpoch (blob : List UInt8) : Epoch := (readBE blob 9 4).toUInt32

/-- `PerEpochLogMetaKey::valid`: at least the size of the struct, and the header of the type. -/
def valid (type : PerEpochLogMetadataType) (blob : List UInt8) : Bool :=
  blob.length ≥ 13 && blob.getD 0 0 == getHeader type

variable (type : PerEpochLogMetadataType) (log_id : LogId) (epoch : Epoch)

lemma getLogID_create : getLogID (create type log_id epoch) = log_id := by
  have hsplit : create type log_id epoch =
      [getHeader type] ++ (beBytes 8 log_id.toNat ++ beBytes 4 epoch.toNat) := rfl
  rw [getLogID, hsplit]
  exact toUInt64_readBE rfl _ log_id

lemma getEpoch_create : getEpoch (create type log_id epoch) = epoch := by
  have hsplit : create type log_id epoch =
      (getHeader type :: beBytes 8 log_id.toNat) ++ (beBytes 4 epoch.toNat ++ []) := by
    simp [create]
  rw [getEpoch, hsplit]
  exact toUInt32_readBE (by simp) _ epoch

lemma valid_create : valid type (create type log_id epoch) = true := by
  simp [valid, create]

end PerEpochLogMetaKey

/-! ### `PartitionDirectoryKey` -/

namespace PartitionDirectoryKey

/-- `PartitionDirectoryKey::HEADER`, `prefix(KeyPrefix::PartitionDirectory)`. -/
def HEADER : UInt8 := 'p'.toUInt8

/-- `PartitionDirectoryKey(log_id, lsn, partition_id)`, packed: the header, then the log id, the
LSN and the partition id in 8 bytes each, big-endian. -/
def create (log_id : LogId) (lsn : Lsn) (partition_id : UInt64) : List UInt8 :=
  HEADER :: (beBytes 8 log_id.toNat ++ (beBytes 8 lsn.toNat ++ beBytes 8 partition_id.toNat))

/-- `PartitionDirectoryKey::getLogID`. -/
def getLogID (blob : List UInt8) : LogId := (readBE blob 1 8).toUInt64

/-- `PartitionDirectoryKey::getLSN`. -/
def getLSN (blob : List UInt8) : Lsn := (readBE blob 9 8).toUInt64

/-- `PartitionDirectoryKey::getPartition`. -/
def getPartition (blob : List UInt8) : UInt64 := (readBE blob 17 8).toUInt64

/-- `PartitionDirectoryKey::valid`: exactly the size of the struct, and the header. -/
def valid (blob : List UInt8) : Bool := blob.length == 25 && blob.getD 0 0 == HEADER

variable (log_id : LogId) (lsn : Lsn) (partition_id : UInt64)

lemma getLogID_create : getLogID (create log_id lsn partition_id) = log_id := by
  have hsplit : create log_id lsn partition_id = [HEADER] ++ (beBytes 8 log_id.toNat ++
      (beBytes 8 lsn.toNat ++ beBytes 8 partition_id.toNat)) := rfl
  rw [getLogID, hsplit]
  exact toUInt64_readBE rfl _ log_id

lemma getLSN_create : getLSN (create log_id lsn partition_id) = lsn := by
  have hsplit : create log_id lsn partition_id = (HEADER :: beBytes 8 log_id.toNat) ++
      (beBytes 8 lsn.toNat ++ beBytes 8 partition_id.toNat) := by
    simp [create]
  rw [getLSN, hsplit]
  exact toUInt64_readBE (by simp) _ lsn

lemma getPartition_create : getPartition (create log_id lsn partition_id) = partition_id := by
  have hsplit : create log_id lsn partition_id =
      (HEADER :: (beBytes 8 log_id.toNat ++ beBytes 8 lsn.toNat)) ++
        (beBytes 8 partition_id.toNat ++ []) := by
    simp [create]
  rw [getPartition, hsplit]
  exact toUInt64_readBE (by simp) _ partition_id

lemma valid_create : valid (create log_id lsn partition_id) = true := by
  simp [valid, create, HEADER]

end PartitionDirectoryKey

/-! ### `CopySetIndexKey` -/

namespace CopySetIndexKey

/-- `CopySetIndexKey::HEADER`, `prefix(KeyPrefix::CopySetIndex)`. -/
def HEADER : UInt8 := 'C'.toUInt8

/-- `CopySetIndexKey::SEEK_ENTRY_TYPE`: sorts before the entries of its log and LSN. -/
def SEEK_ENTRY_TYPE : UInt8 := 0

/-- `CopySetIndexKey::LAST_ENTRY_TYPE`: sorts after the entries of its log and LSN. -/
def LAST_ENTRY_TYPE : UInt8 := 0xFF

/-- `CopySetIndexKey::SINGLE_ENTRY_TYPE`. -/
def SINGLE_ENTRY_TYPE : UInt8 := 'S'.toUInt8

/-- `CopySetIndexKey::BLOCK_ENTRY_TYPE`. -/
def BLOCK_ENTRY_TYPE : UInt8 := 'b'.toUInt8

/-- `CopySetIndexKey(log_id, lsn, entry_type)`, packed: the header, the log id and the LSN in 8
bytes each, big-endian, and the entry type. The constructor takes the four entry types. -/
def create (log_id : LogId) (lsn : Lsn) (entry_type : UInt8) : List UInt8 :=
  HEADER :: (beBytes 8 log_id.toNat ++ (beBytes 8 lsn.toNat ++ [entry_type]))

/-- `CopySetIndexKey::getLogID`. -/
def getLogID (blob : List UInt8) : LogId := (readBE blob 1 8).toUInt64

/-- `CopySetIndexKey::getLSN`. -/
def getLSN (blob : List UInt8) : Lsn := (readBE blob 9 8).toUInt64

/-- `CopySetIndexKey::isBlockEntry`. -/
def isBlockEntry (blob : List UInt8) : Bool := blob.getD 17 0 == BLOCK_ENTRY_TYPE

/-- `CopySetIndexKey::valid`: exactly the size of the struct, the header, and an entry of a
record: a single or a block entry. -/
def valid (blob : List UInt8) : Bool :=
  if blob.length ≠ 18 then false
  else
    let entry_type := blob.getD 17 0
    blob.getD 0 0 == HEADER && (entry_type == SINGLE_ENTRY_TYPE || entry_type == BLOCK_ENTRY_TYPE)

variable (log_id : LogId) (lsn : Lsn) (entry_type : UInt8)

@[simp] lemma length_create : (create log_id lsn entry_type).length = 18 := by
  simp [create]

lemma getD_create_entry_type : (create log_id lsn entry_type).getD 17 0 = entry_type := by
  simp [create]

lemma getLogID_create : getLogID (create log_id lsn entry_type) = log_id := by
  have hsplit : create log_id lsn entry_type = [HEADER] ++ (beBytes 8 log_id.toNat ++
      (beBytes 8 lsn.toNat ++ [entry_type])) := rfl
  rw [getLogID, hsplit]
  exact toUInt64_readBE rfl _ log_id

lemma getLSN_create : getLSN (create log_id lsn entry_type) = lsn := by
  have hsplit : create log_id lsn entry_type = (HEADER :: beBytes 8 log_id.toNat) ++
      (beBytes 8 lsn.toNat ++ [entry_type]) := by
    simp [create]
  rw [getLSN, hsplit]
  exact toUInt64_readBE (by simp) _ lsn

lemma isBlockEntry_create :
    isBlockEntry (create log_id lsn entry_type) = (entry_type == BLOCK_ENTRY_TYPE) := by
  rw [isBlockEntry, getD_create_entry_type]

/-- `valid` accepts a key `create` wrote exactly where its entry type is a single or a block
entry: the seek bounds `SEEK_ENTRY_TYPE` and `LAST_ENTRY_TYPE` are not. -/
lemma valid_create_iff :
    valid (create log_id lsn entry_type) = true ↔
      entry_type = SINGLE_ENTRY_TYPE ∨ entry_type = BLOCK_ENTRY_TYPE := by
  have hheader : (create log_id lsn entry_type).getD 0 0 = HEADER := by
    simp [create]
  simp only [valid, length_create, ne_eq, not_true_eq_false, if_false, hheader,
    getD_create_entry_type, beq_self_eq_true, Bool.true_and, Bool.or_eq_true, beq_iff_eq]

end CopySetIndexKey

/-! ### The readers of `CustomIndexDirectoryKey` -/

namespace CustomIndexDirectoryKey

/-- `CustomIndexDirectoryKey::getLogID`. -/
def getLogID (blob : List UInt8) : LogId := (readBE blob 1 8).toUInt64

/-- `CustomIndexDirectoryKey::getPartition`: the eight bytes after the index type. -/
def getPartition (blob : List UInt8) : UInt64 := (readBE blob 10 8).toUInt64

variable (log_id : LogId) (index_type : UInt8) (partition_id : UInt64)

lemma getLogID_create : getLogID (create log_id index_type partition_id) = log_id := by
  have hsplit : create log_id index_type partition_id = [HEADER] ++ (beBytes 8 log_id.toNat ++
      index_type :: beBytes 8 partition_id.toNat) := rfl
  rw [getLogID, hsplit]
  exact toUInt64_readBE rfl _ log_id

lemma getIndexType_create : getIndexType (create log_id index_type partition_id) = index_type := by
  simp [getIndexType, create]

lemma getPartition_create : getPartition (create log_id index_type partition_id) = partition_id := by
  have hsplit : create log_id index_type partition_id =
      (HEADER :: beBytes 8 log_id.toNat ++ [index_type]) ++ (beBytes 8 partition_id.toNat ++ []) := by
    simp [create]
  rw [getPartition, hsplit]
  exact toUInt64_readBE (by simp) _ partition_id

end CustomIndexDirectoryKey

end RocksDBKeyFormat

/-! ### Every key reads back, and the two `DataKey` formats interleave -/

open RocksDBKeyFormat in
/-- Each key reads back the fields its constructor wrote and is one `valid` accepts: a `DataKey`
in either format, a partition directory key, a copyset index key of a single or a block entry, a
per-epoch metadata key of every type, a directory key of the findKey index, and an index key whose
custom key is what its index type stores (a findKey key that fits in a `uint16_t`, a findTime key
of `FIND_TIME_KEY_SIZE` bytes). Of one record, the new format comes first, every key of the old
format next, and `sliceForBackwardSeek` last, before every key of a later record. -/
theorem keys_roundtrip (log_id log_id' : LogId) (lsn lsn' : Lsn) (partition_id : UInt64)
    (epoch : Epoch) (type : PerEpochLogMetadataType) (wave : UInt32)
    (entry_type index_type : UInt8) (custom_key : List UInt8)
    (hentry : entry_type = CopySetIndexKey.SINGLE_ENTRY_TYPE ∨
      entry_type = CopySetIndexKey.BLOCK_ENTRY_TYPE)
    (hindex : index_type = FIND_KEY_INDEX ∧ custom_key.length < 2 ^ 16 ∨
      index_type = FIND_TIME_INDEX ∧ custom_key.length = FIND_TIME_KEY_SIZE)
    (hlt : Prod.Lex (· < ·) (· < ·) (log_id, lsn) (log_id', lsn')) :
    (DataKey.getLogID (DataKey.sliceForForwardSeek log_id lsn) = log_id ∧
      DataKey.getLSN (DataKey.sliceForForwardSeek log_id lsn) = lsn ∧
      DataKey.valid (DataKey.sliceForForwardSeek log_id lsn) = true) ∧
    (DataKey.getLogID (DataKey.oldFormatKey log_id lsn wave) = log_id ∧
      DataKey.getLSN (DataKey.oldFormatKey log_id lsn wave) = lsn ∧
      DataKey.valid (DataKey.oldFormatKey log_id lsn wave) = true) ∧
    (PartitionDirectoryKey.getLogID (PartitionDirectoryKey.create log_id lsn partition_id) =
        log_id ∧
      PartitionDirectoryKey.getLSN (PartitionDirectoryKey.create log_id lsn partition_id) = lsn ∧
      PartitionDirectoryKey.getPartition (PartitionDirectoryKey.create log_id lsn partition_id) =
        partition_id ∧
      PartitionDirectoryKey.valid (PartitionDirectoryKey.create log_id lsn partition_id) = true) ∧
    (CopySetIndexKey.getLogID (CopySetIndexKey.create log_id lsn entry_type) = log_id ∧
      CopySetIndexKey.getLSN (CopySetIndexKey.create log_id lsn entry_type) = lsn ∧
      CopySetIndexKey.valid (CopySetIndexKey.create log_id lsn entry_type) = true) ∧
    (PerEpochLogMetaKey.getLogID (PerEpochLogMetaKey.create type log_id epoch) = log_id ∧
      PerEpochLogMetaKey.getEpoch (PerEpochLogMetaKey.create type log_id epoch) = epoch ∧
      PerEpochLogMetaKey.valid type (PerEpochLogMetaKey.create type log_id epoch) = true) ∧
    (CustomIndexDirectoryKey.getLogID
        (CustomIndexDirectoryKey.create log_id FIND_KEY_INDEX partition_id) = log_id ∧
      CustomIndexDirectoryKey.getIndexType
        (CustomIndexDirectoryKey.create log_id FIND_KEY_INDEX partition_id) = FIND_KEY_INDEX ∧
      CustomIndexDirectoryKey.getPartition
        (CustomIndexDirectoryKey.create log_id FIND_KEY_INDEX partition_id) = partition_id ∧
      CustomIndexDirectoryKey.valid
        (CustomIndexDirectoryKey.create log_id FIND_KEY_INDEX partition_id) = true) ∧
    (IndexKey.getLogID (IndexKey.create log_id index_type custom_key lsn) = log_id ∧
      IndexKey.getIndexType (IndexKey.create log_id index_type custom_key lsn) = index_type ∧
      IndexKey.getCustomKey (IndexKey.create log_id index_type custom_key lsn) = custom_key ∧
      IndexKey.getLSN (IndexKey.create log_id index_type custom_key lsn) = lsn ∧
      IndexKey.valid (IndexKey.create log_id index_type custom_key lsn) = true) ∧
    DataKey.sliceForForwardSeek log_id lsn ≤ DataKey.oldFormatKey log_id lsn wave ∧
    DataKey.oldFormatKey log_id lsn wave ≤ DataKey.sliceForBackwardSeek log_id lsn ∧
    DataKey.sliceForBackwardSeek log_id lsn < DataKey.sliceForForwardSeek log_id' lsn' := by
  refine ⟨DataKey.sliceForForwardSeek_roundtrip _ _, DataKey.oldFormatKey_roundtrip _ _ _,
    ⟨PartitionDirectoryKey.getLogID_create _ _ _, PartitionDirectoryKey.getLSN_create _ _ _,
      PartitionDirectoryKey.getPartition_create _ _ _, PartitionDirectoryKey.valid_create _ _ _⟩,
    ⟨CopySetIndexKey.getLogID_create _ _ _, CopySetIndexKey.getLSN_create _ _ _,
      (CopySetIndexKey.valid_create_iff _ _ _).mpr hentry⟩,
    ⟨PerEpochLogMetaKey.getLogID_create _ _ _, PerEpochLogMetaKey.getEpoch_create _ _ _,
      PerEpochLogMetaKey.valid_create _ _ _⟩,
    ⟨CustomIndexDirectoryKey.getLogID_create _ _ _, CustomIndexDirectoryKey.getIndexType_create _ _ _,
      CustomIndexDirectoryKey.getPartition_create _ _ _, CustomIndexDirectoryKey.valid_create _ _⟩,
    IndexKey.create_roundtrip _ _ _ hindex, ?_⟩
  -- the order: the prefix, the largest wave, and the later record
  exact ⟨DataKey.sliceForForwardSeek_le_oldFormatKey _ _ _,
    DataKey.oldFormatKey_le_sliceForBackwardSeek _ _ _,
    DataKey.sliceForBackwardSeek_lt_sliceForForwardSeek hlt⟩

open RocksDBKeyFormat in
theorem keys_roundtrip_findTime :
    (CopySetIndexKey.SINGLE_ENTRY_TYPE = CopySetIndexKey.SINGLE_ENTRY_TYPE ∨
      CopySetIndexKey.SINGLE_ENTRY_TYPE = CopySetIndexKey.BLOCK_ENTRY_TYPE) ∧
    (FIND_TIME_INDEX = FIND_KEY_INDEX ∧ [0, 0, 0, 0, 0, 0, 0, 7].length < 2 ^ 16 ∨
      FIND_TIME_INDEX = FIND_TIME_INDEX ∧ [0, 0, 0, 0, 0, 0, 0, 7].length = FIND_TIME_KEY_SIZE) ∧
    Prod.Lex (· < ·) (· < ·) ((1 : LogId), (5 : Lsn)) ((1 : LogId), (6 : Lsn)) ∧
    IndexKey.getCustomKey (IndexKey.create 1 FIND_TIME_INDEX [0, 0, 0, 0, 0, 0, 0, 7] 5) =
      [0, 0, 0, 0, 0, 0, 0, 7] ∧
    DataKey.sliceForBackwardSeek 1 5 < DataKey.sliceForForwardSeek 1 6 := by
  have hlt : Prod.Lex (· < ·) (· < ·) ((1 : LogId), (5 : Lsn)) ((1 : LogId), (6 : Lsn)) :=
    Prod.Lex.right _ (by decide)
  obtain ⟨-, -, -, -, -, -, ⟨-, -, hkey, -, -⟩, -, -, hnext⟩ := keys_roundtrip 1 1 5 6 0 2 .MUTABLE
    0xeeeeeeee CopySetIndexKey.SINGLE_ENTRY_TYPE FIND_TIME_INDEX [0, 0, 0, 0, 0, 0, 0, 7]
    (.inl rfl) (.inr ⟨rfl, rfl⟩) hlt
  exact ⟨.inl rfl, .inr ⟨rfl, rfl⟩, hlt, hkey, hnext⟩

open RocksDBKeyFormat in
/-- A findTime key of another size than `FIND_TIME_KEY_SIZE`, the seek bounds of the copyset
index, and a directory key of the findTime index are written but not valid; the findTime key
reads back with the first bytes of the LSN after it. -/
theorem keys_roundtrip_rejects :
    IndexKey.valid (IndexKey.create 1 FIND_TIME_INDEX [1, 2, 3] 5) = false ∧
    IndexKey.getCustomKey (IndexKey.create 1 FIND_TIME_INDEX [1, 2, 3] 5) = [1, 2, 3, 0, 0, 0, 0, 0] ∧
    CopySetIndexKey.valid (CopySetIndexKey.create 1 5 CopySetIndexKey.SEEK_ENTRY_TYPE) = false ∧
    CopySetIndexKey.valid (CopySetIndexKey.create 1 5 CopySetIndexKey.LAST_ENTRY_TYPE) = false ∧
    CustomIndexDirectoryKey.valid (CustomIndexDirectoryKey.create 1 FIND_TIME_INDEX 0) = false := by
  decide

end LogDevice
