import LogDevice.OffsetMap
import LogDevice.Types

/-!
# Mutable per-epoch log metadata

Model of `MutablePerEpochLogMetadata` (`common/Metadata.h`, `Metadata.cpp`): the last known good
ESN of an epoch and the epoch's size counters. On disk it is the packed `Data` (`flags` in two
bytes, `last_known_good` in four, host order), then the whole `OffsetMap` where `flags` has
`SUPPORT_OFFSET_MAP`, and otherwise only the `BYTE_OFFSET` counter in eight bytes (the format before
`OffsetMap`).

`deserialize` reads into a freshly constructed object, the only way the source uses it here. What
it reads back from `serialize` is the value itself where `flags` has `SUPPORT_OFFSET_MAP`, and
otherwise the value with every counter but `BYTE_OFFSET` dropped (`deserialize_serialize`). `merge`
keeps its own flags, takes the larger `last_known_good`, and the larger value of every counter.
-/

namespace LogDevice

open Lib

namespace MutablePerEpochLogMetadata

/-- `MutablePerEpochLogMetadata::Data`. -/
structure Data where
  flags : UInt16
  last_known_good : Esn
  deriving DecidableEq, Repr

/-- `Data::SUPPORT_OFFSET_MAP`. -/
def SUPPORT_OFFSET_MAP : UInt16 := 1

/-- `Data::ALL_FLAGS`. -/
def ALL_FLAGS : UInt16 := SUPPORT_OFFSET_MAP

end MutablePerEpochLogMetadata

/-- `MutablePerEpochLogMetadata`. -/
structure MutablePerEpochLogMetadata where
  data_ : MutablePerEpochLogMetadata.Data
  epoch_size_map_ : OffsetMap

namespace MutablePerEpochLogMetadata

/-- `MutablePerEpochLogMetadata::valid()`: no flag but the known ones. -/
def valid (m : MutablePerEpochLogMetadata) : Bool := (m.data_.flags ||| ALL_FLAGS) == ALL_FLAGS

/-- `MutablePerEpochLogMetadata::serialize`. -/
def serialize (m : MutablePerEpochLogMetadata) : List UInt8 :=
  leBytes 2 m.data_.flags.toNat ++ leBytes 4 m.data_.last_known_good.toNat ++
    if m.data_.flags &&& SUPPORT_OFFSET_MAP ≠ 0 then m.epoch_size_map_.serialize
    else leBytes 8 (m.epoch_size_map_.getCounter BYTE_OFFSET).toNat

/-- `MutablePerEpochLogMetadata::deserialize` into a new object; `none` where the blob is shorter
than `Data` (`-1`). A malformed `OffsetMap` is only `ld_check`ed: the counters read before the
error stay. Without `SUPPORT_OFFSET_MAP` the eight bytes of the counter are copied whatever the
size of the blob; bytes past its end read as 0. -/
def deserialize (blob : List UInt8) : Option MutablePerEpochLogMetadata :=
  if blob.length < 6 then none
  else
    let data_ : Data :=
      ⟨(ofLeBytes (blob.take 2)).toUInt16, (ofLeBytes ((blob.drop 2).take 4)).toUInt32⟩
    let rest := blob.drop 6
    if data_.flags &&& SUPPORT_OFFSET_MAP ≠ 0 then
      some ⟨data_, (OffsetMap.empty.deserialize rest).1⟩
    else
      let epoch_size := (ofLeBytes ((rest ++ List.replicate 8 0).take 8)).toUInt64
      some ⟨data_, OffsetMap.empty.setCounter BYTE_OFFSET epoch_size⟩

/-- `MutablePerEpochLogMetadata::valid(Slice)`. -/
def validBlob (blob : List UInt8) : Bool :=
  match deserialize blob with
  | some m => m.valid
  | none => false

/-- `MutablePerEpochLogMetadata::merge(const Data&, const OffsetMap&)`. -/
def mergeData (m : MutablePerEpochLogMetadata) (other : Data) (other_epoch_size_map : OffsetMap) :
    MutablePerEpochLogMetadata where
  data_ := { m.data_ with
    last_known_good := if other.last_known_good > m.data_.last_known_good then other.last_known_good
      else m.data_.last_known_good }
  epoch_size_map_ := if other_epoch_size_map.isValid then m.epoch_size_map_.max other_epoch_size_map
    else m.epoch_size_map_

/-- `MutablePerEpochLogMetadata::merge(const Slice&)`. Its callers check the blob first; one that
does not deserialize leaves `m` as it is. -/
def mergeSlice (m : MutablePerEpochLogMetadata) (other : List UInt8) : MutablePerEpochLogMetadata :=
  match deserialize other with
  | some o => m.mergeData o.data_ o.epoch_size_map_
  | none => m

/-- What a value reads back as after `serialize`: itself with `SUPPORT_OFFSET_MAP`, and otherwise
only its `BYTE_OFFSET` counter. -/
def stored (m : MutablePerEpochLogMetadata) : MutablePerEpochLogMetadata :=
  if m.data_.flags &&& SUPPORT_OFFSET_MAP ≠ 0 then m
  else ⟨m.data_, OffsetMap.fromLegacy (m.epoch_size_map_.getCounter BYTE_OFFSET)⟩

/-! ### Reading back what `serialize` writes -/

/-- The fields of the `Data` of a serialized value read back. -/
lemma flags_deserialize_serialize (m : MutablePerEpochLogMetadata) :
    (ofLeBytes (m.serialize.take 2)).toUInt16 = m.data_.flags := by
  simp only [serialize, List.append_assoc, List.take_left' (length_leBytes 2 _), toUInt16_ofLeBytes]

lemma last_known_good_deserialize_serialize (m : MutablePerEpochLogMetadata) :
    (ofLeBytes ((m.serialize.drop 2).take 4)).toUInt32 = m.data_.last_known_good := by
  simp only [serialize, List.append_assoc, List.drop_left' (length_leBytes 2 _),
    List.take_left' (length_leBytes 4 _), toUInt32_ofLeBytes]

/-- A value whose map holds fewer than 256 counters reads back as `stored`. -/
lemma deserialize_serialize (m : MutablePerEpochLogMetadata)
    (h : m.epoch_size_map_.counterTypeMap_.length < 256) :
    deserialize m.serialize = some m.stored := by
  have h6 : (leBytes 2 m.data_.flags.toNat ++ leBytes 4 m.data_.last_known_good.toNat).length = 6 := by
    simp
  have hrest : m.serialize.drop 6 = if m.data_.flags &&& SUPPORT_OFFSET_MAP ≠ 0 then
      m.epoch_size_map_.serialize else leBytes 8 (m.epoch_size_map_.getCounter BYTE_OFFSET).toNat := by
    rw [serialize, List.drop_left' h6]
  have hlen : ¬m.serialize.length < 6 := by
    rw [serialize, List.length_append, h6]
    omega
  simp only [deserialize, if_neg hlen, flags_deserialize_serialize,
    last_known_good_deserialize_serialize, hrest, stored]
  split_ifs with hflag
  · -- the whole map, read from its own bytes
    have hmap := OffsetMap.deserialize_serialize m.epoch_size_map_ h []
    rw [List.append_nil] at hmap
    rw [hmap]
  · -- the `BYTE_OFFSET` counter alone, in eight bytes
    rw [List.take_left' (length_leBytes 8 _), toUInt64_ofLeBytes]
    rfl

/-! ### Merging -/

/-- `merge` keeps its own flags and takes the larger `last_known_good`. -/
lemma data_mergeData (m : MutablePerEpochLogMetadata) (other : Data) (om : OffsetMap) :
    (m.mergeData other om).data_.flags = m.data_.flags ∧
      (m.mergeData other om).data_.last_known_good.toNat =
        Max.max m.data_.last_known_good.toNat other.last_known_good.toNat := by
  refine ⟨rfl, ?_⟩
  simp only [mergeData]
  by_cases h : other.last_known_good > m.data_.last_known_good
  · have hlt := UInt32.lt_iff_toNat_lt.mp h
    rw [if_pos h]
    omega
  · have hle : ¬m.data_.last_known_good.toNat < other.last_known_good.toNat :=
      fun hlt => h (UInt32.lt_iff_toNat_lt.mpr hlt)
    rw [if_neg h]
    omega

end MutablePerEpochLogMetadata

end LogDevice
