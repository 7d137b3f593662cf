import LogDevice.Protocol.StoreMessage
import LogDevice.RecordFormat.CopySetIndex
import LogDevice.ClientReadStream.CircularBuffer
import LogDevice.Recovery.Digest

/-!
# The record cache of one epoch

Model of `EpochRecordCache` (`server/EpochRecordCache.{h,cpp}`): the records of one epoch of a log
that a storage shard has stored and not yet seen released, kept for epoch recovery. They sit in a
`CircularBuffer` of `capacity()` slots, the record of esn `head_ + i` in element `i`; `head_` is one
past the last known good esn (`lng`) the cache has seen, and `ESN_INVALID` until the first.

`putRecord` first advances the head to the record's `lng` (`advanceLNGImpl`), then puts the record
in its element, keeping the entry already there where that has higher precedence
(`Digest::RecordMetadata`), or amending its metadata where the record is an `AMEND`.
`advanceLNGImpl` evicts the elements up to the new `lng`, rotates the buffer so that the new head is
element 0, makes the last evicted record the tail record, and hands the evicted records to
`onRecordsReleased` of the dependencies when the cache is consistent; such a call is returned as a
`Released`. `disableCache` empties the cache for good.

The model is sequential: the checks repeated under the lock see the state of the first ones.
`capacity()` and the arithmetic of `maxESNToAccept` and `isConsistent` are `size_t`, here `UInt64`;
an index given to `CircularBuffer::operator[]` goes through its `int` parameter (`intIndex`).
Entries are values: `amendExistingEntry` changes the entry in its slot, where the source changes the
object that snapshots and released vectors may share.
-/

namespace LogDevice

namespace LocalLogStoreRecordFormat

def FLAG_CHECKSUM : Flags := 4
def FLAG_CHECKSUM_64BIT : Flags := 8
def FLAG_CHECKSUM_PARITY : Flags := 16
def FLAG_BUFFERED_WRITER_BLOB : Flags := 128
def FLAG_BRIDGE : Flags := 32768
def FLAG_EPOCH_BEGIN : Flags := 65536
def FLAG_WRITE_STREAM : Flags := 4194304
def FLAG_PAYLOAD_GROUP : Flags := 8388608

/-- `FLAG_MASK`: the flags with the same value and meaning here, in `STORE_Message` and in
`RECORD_Message`. -/
def FLAG_MASK : Flags :=
  FLAG_CHECKSUM ||| FLAG_CHECKSUM_64BIT ||| FLAG_CHECKSUM_PARITY ||| FLAG_HOLE |||
    FLAG_BUFFERED_WRITER_BLOB ||| FLAG_WRITTEN_BY_RECOVERY ||| FLAG_BRIDGE ||| FLAG_EPOCH_BEGIN |||
    FLAG_DRAINED ||| FLAG_WRITE_STREAM ||| FLAG_PAYLOAD_GROUP

end LocalLogStoreRecordFormat

namespace STORE_Header

def CHECKSUM : STORE_flags_t := 4
def CHECKSUM_64BIT : STORE_flags_t := 8
def CHECKSUM_PARITY : STORE_flags_t := 16
def HOLE : STORE_flags_t := 64
def WRITTEN_BY_RECOVERY : STORE_flags_t := 8192
def BRIDGE : STORE_flags_t := 32768

end STORE_Header

/-! ### The tail record -/

/-- `TailRecordHeader`, without the deprecated byte offset. -/
structure TailRecordHeader where
  log_id : UInt64
  lsn : Lsn
  timestamp : UInt64
  flags : UInt32
  deriving DecidableEq, Repr

namespace TailRecordHeader

def HAS_PAYLOAD : UInt32 := 2
def CHECKSUM : UInt32 := 4
def CHECKSUM_64BIT : UInt32 := 8
def CHECKSUM_PARITY : UInt32 := 16
def OFFSET_WITHIN_EPOCH : UInt32 := 512
def OFFSET_MAP : UInt32 := 1024

end TailRecordHeader

/-- `TailRecord` (`common/TailRecord.h`): the header, the offsets, and the record whose payload it
holds (`zero_copied_record_`). -/
structure TailRecord where
  header : TailRecordHeader
  offsets_map_ : OffsetMap
  zero_copied_record_ : Option EpochRecordCacheEntry

namespace TailRecord

/-- `TailRecord()`, also what `reset()` leaves: the invalid log, `LSN_INVALID`, no flags. -/
def empty : TailRecord :=
  ⟨⟨0, LSN_INVALID, 0, 0⟩, OffsetMap.empty, none⟩

/-- `TailRecord::hasPayload`. -/
def hasPayload (t : TailRecord) : Bool :=
  t.header.flags &&& TailRecordHeader.HAS_PAYLOAD != 0

/-- `TailRecord::isValid`: the log is not `LOGID_INVALID`. -/
def isValid (t : TailRecord) : Bool :=
  t.header.log_id != 0

/-- `TailRecord(header, offset_map, record)`: the record is kept where the header says there is a
payload. -/
def make (header : TailRecordHeader) (offset_map : OffsetMap)
    (record : Option EpochRecordCacheEntry) : TailRecord :=
  let t : TailRecord := ⟨header, offset_map, none⟩
  { t with zero_copied_record_ := if t.hasPayload then record else none }

end TailRecord

/-- `AtomicOffsetMap::atomicFetchMax`: each counter of `om` raised to at least its value there. -/
def OffsetMap.atomicFetchMax (m om : OffsetMap) : OffsetMap :=
  m.max om

/-! ### The cache -/

namespace EpochRecordCache

/-- `EpochRecordCache::StoredBefore`: whether records of the epoch may have been stored before the
cache was made. -/
inductive StoredBefore where
  | MAYBE
  | NEVER
  deriving DecidableEq, Repr

/-- `EpochRecordCache::TailOptimized`: whether the tail record keeps its payload. -/
inductive TailOptimized where
  | NO
  | YES
  deriving DecidableEq, Repr

/-- A call `onRecordsReleased(*this, begin, end, entries)` of the dependencies. -/
structure Released where
  begin_lsn : Lsn
  end_lsn : Lsn
  entries : List EpochRecordCacheEntry

end EpochRecordCache

open EpochRecordCache in
/-- `EpochRecordCache`, without the lock, the shard and the dependencies. -/
structure EpochRecordCache where
  log_id_ : UInt64
  epoch_ : Epoch
  tail_optimized_ : TailOptimized
  stored_ : StoredBefore
  head_ : Esn
  first_seen_lng_ : Esn
  max_seen_esn_ : Esn
  max_seen_timestamp_ : UInt64
  tail_record_ : TailRecord
  buffer_ : CircularBuffer (Option EpochRecordCacheEntry)
  buffer_entries_ : ℕ
  buffer_payload_bytes_ : ℕ
  offsets_within_epoch_ : OffsetMap
  disabled_ : Bool

namespace EpochRecordCache

open LocalLogStoreRecordFormat

/-- `EpochRecordCache(log_id, shard, epoch, deps, capacity, tail_optimized, stored)`; the source
checks `capacity > 0`. -/
def init (log_id : UInt64) (epoch : Epoch) (capacity : ℕ) (hcapacity : 0 < capacity)
    (tail_optimized : TailOptimized) (stored : StoredBefore) : EpochRecordCache where
  log_id_ := log_id
  epoch_ := epoch
  tail_optimized_ := tail_optimized
  stored_ := stored
  head_ := ESN_INVALID
  first_seen_lng_ := ESN_INVALID
  max_seen_esn_ := ESN_INVALID
  max_seen_timestamp_ := 0
  tail_record_ := TailRecord.empty
  buffer_ := CircularBuffer.init capacity hcapacity
  buffer_entries_ := 0
  buffer_payload_bytes_ := 0
  offsets_within_epoch_ := OffsetMap.empty
  disabled_ := false

variable (c : EpochRecordCache)

/-- `capacity()`: the size of the buffer. -/
def capacity : ℕ := c.buffer_.size_

/-- `getLNG(head)`: `head - 1`, `ESN_INVALID` for the invalid head. -/
def getLNG (head : Esn) : Esn :=
  if head > ESN_INVALID then head - 1 else ESN_INVALID

/-- `next_esn`: saturates at `ESN_MAX`. -/
def next_esn (esn : Esn) : Esn :=
  if esn = ESN_MAX then ESN_MAX else esn + 1

/-- `prev_esn`: saturates at `ESN_INVALID`. -/
def prev_esn (esn : Esn) : Esn :=
  if esn = ESN_INVALID then ESN_INVALID else esn - 1

/-- `maxESNToAccept()`: the esn of the last element, `ESN_MAX` where that is past it. -/
def maxESNToAccept : Esn :=
  let head := c.head_
  if head.toUInt64 < ESN_MAX.toUInt64 - c.capacity.toUInt64 + 1 then
    (head.toUInt64 + c.capacity.toUInt64 - 1).toUInt32
  else ESN_MAX

/-- `getIndex(esn)`: the element of `esn`, computed in 32 bits. -/
def getIndex (esn : Esn) : ℕ :=
  (esn - c.head_).toNat

/-- `isConsistent()`: a cache that may have missed records stored before it was made becomes
consistent once its `lng` reaches `capacity()` past the first it saw. -/
def isConsistent : Bool :=
  if c.disabled_ then false
  else if c.stored_ = .NEVER then true
  else
    let first_lng := c.first_seen_lng_
    let lng_target : Esn :=
      if first_lng.toUInt64 < ESN_MAX.toUInt64 - c.capacity.toUInt64 then
        (first_lng.toUInt64 + c.capacity.toUInt64).toUInt32
      else ESN_MAX
    getLNG c.head_ ≥ lng_target

/-- `empty()`: nothing stored yet, or everything seen evicted. -/
def empty : Bool :=
  c.head_ = ESN_INVALID ∨ c.head_ > c.max_seen_esn_

/-- `noteEntryAdded(entry)`. -/
def noteEntryAdded (entry : EpochRecordCacheEntry) : EpochRecordCache :=
  { c with
    buffer_entries_ := c.buffer_entries_ + 1
    buffer_payload_bytes_ := c.buffer_payload_bytes_ + entry.payload.length }

/-- `noteEntryRemoved(entry)`; the source checks that the counters do not go below zero. -/
def noteEntryRemoved (entry : EpochRecordCacheEntry) : EpochRecordCache :=
  { c with
    buffer_entries_ := c.buffer_entries_ - 1
    buffer_payload_bytes_ := c.buffer_payload_bytes_ - entry.payload.length }

/-- `setOffsetsWithinEpoch(offsets_within_epoch)`. -/
def setOffsetsWithinEpoch (offsets_within_epoch : OffsetMap) : EpochRecordCache :=
  if offsets_within_epoch.isValid then
    { c with offsets_within_epoch_ := c.offsets_within_epoch_.atomicFetchMax offsets_within_epoch }
  else c

/-- `noteEntryRemoved(*buffer_[i])` followed by moving the entry out of element `i`. -/
def removeEntry (i : ℕ) (entry : EpochRecordCacheEntry) : EpochRecordCache :=
  { c.noteEntryRemoved entry with buffer_ := c.buffer_.set i none }

/-- `noteEntryAdded(*entry)` followed by `buffer_[i] = std::move(entry)`. -/
def addEntry (i : ℕ) (entry : EpochRecordCacheEntry) : EpochRecordCache :=
  { c.noteEntryAdded entry with buffer_ := c.buffer_.set i (some entry) }

/-- `updateTailRecord(tail)`: the evicted record becomes the tail record, with its payload for a
tail-optimized log; the source checks that the tail's LSN goes up. -/
def updateTailRecord (tail : EpochRecordCacheEntry) : EpochRecordCache :=
  -- offsets of the previous tail record where the new one has none
  let offsets :=
    if tail.offsets_within_epoch.isValid then tail.offsets_within_epoch
    else c.tail_record_.offsets_map_
  let flags := TailRecordHeader.OFFSET_WITHIN_EPOCH
  let flags :=
    if tail.flags &&& STORE_Header.OFFSET_MAP != 0 then flags ||| TailRecordHeader.OFFSET_MAP
    else flags
  let flags :=
    if c.tail_optimized_ = .YES then
      flags ||| TailRecordHeader.HAS_PAYLOAD |||
        (tail.flags &&&
          (STORE_Header.CHECKSUM ||| STORE_Header.CHECKSUM_64BIT ||| STORE_Header.CHECKSUM_PARITY))
    else flags ||| TailRecordHeader.CHECKSUM_PARITY
  { c with
    tail_record_ :=
      TailRecord.make ⟨c.log_id_, tail.lsn, tail.timestamp, flags⟩ offsets
        (if c.tail_optimized_ = .YES then some tail else none) }

/-- One turn of the eviction loop of `advanceLNGImpl`: the entry of element `i`, if any, counted out,
moved to the end of `disposal`, and `evicted` set. -/
def evictAt (s : EpochRecordCache × List EpochRecordCacheEntry × Bool) (i : ℕ) :
    EpochRecordCache × List EpochRecordCacheEntry × Bool :=
  match s.1.buffer_.get i with
  | some entry => (s.1.removeEntry i entry, s.2.1 ++ [entry], true)
  | none => s

/-- The end of `advanceLNGImpl` after the eviction loop: `buffer_.rotate(new_head - current_head)`
and `head_.store(new_head)`, then the last evicted record made the tail record. -/
def moveHead (current_head new_head : Esn) (disposal : List EpochRecordCacheEntry)
    (evicted : Bool) : EpochRecordCache :=
  let c := { c with
    buffer_ := c.buffer_.rotate (new_head - current_head).toNat
    head_ := new_head }
  if evicted then
    match disposal.getLast? with
    | some tail => c.updateTailRecord tail
    | none => c
  else c

/-- `advanceLNGImpl(current_head, lng, disposal)`: the cache, `disposal`, and the call of
`onRecordsReleased` made, if any. At the invalid head it only sets the head past `lng`. -/
def advanceLNGImpl (current_head lng : Esn) (disposal : List EpochRecordCacheEntry) :
    EpochRecordCache × List EpochRecordCacheEntry × List Released :=
  if current_head ≠ ESN_INVALID then
    if lng ≥ current_head then
      let was_consistent := c.isConsistent
      let new_head := next_esn lng
      let discard_until := min c.maxESNToAccept lng
      let until_offset := c.getIndex discard_until
      -- discard the records in esn range `[current_head, discard_until]`: the cache, `disposal` and
      -- `evicted` after the loop
      let s := (List.range (until_offset + 1)).foldl evictAt (c, disposal, false)
      (s.1.moveHead current_head new_head s.2.1 s.2.2, s.2.1,
        if was_consistent then
          [⟨compose_lsn c.epoch_ current_head, compose_lsn c.epoch_ lng, s.2.1⟩]
        else [])
    else (c, disposal, [])
  else
    -- the cache is empty: the first `lng` seen
    ({ c with head_ := next_esn lng, first_seen_lng_ := lng }, disposal, [])

/-- `advanceLNG(new_lng)`: the cache and the calls of `onRecordsReleased` made. -/
def advanceLNG (new_lng : Esn) : EpochRecordCache × List Released :=
  let head := c.head_
  if new_lng = ESN_INVALID ∨ c.disabled_ ∨ new_lng < head then (c, [])
  else
    -- recheck with the lock held
    let head := c.head_
    if c.disabled_ ∨ new_lng < head then (c, [])
    else
      let r := c.advanceLNGImpl head new_lng []
      (r.1, r.2.2)

/-- `amendExistingEntry(existing_entry, amend_entry)`: `WRITTEN_BY_RECOVERY` added where the amend
has it, `BRIDGE` set as the amend has it, and the wave and copyset of the amend; the payload and the
rest stay. -/
def amendExistingEntry (existing_entry amend_entry : EpochRecordCacheEntry) :
    EpochRecordCacheEntry :=
  let flags :=
    if amend_entry.flags &&& STORE_Header.WRITTEN_BY_RECOVERY != 0 then
      existing_entry.flags ||| STORE_Header.WRITTEN_BY_RECOVERY
    else existing_entry.flags
  let flags :=
    if amend_entry.flags &&& STORE_Header.BRIDGE != 0 then flags ||| STORE_Header.BRIDGE
    else flags &&& ~~~STORE_Header.BRIDGE
  { existing_entry with
    flags
    wave_or_recovery_epoch := amend_entry.wave_or_recovery_epoch
    copyset := amend_entry.copyset }

/-- The `getRecordMetadata` of `putRecord`: the flags under `FLAG_MASK` and the wave. -/
def getRecordMetadata (e : EpochRecordCacheEntry) : Recovery.RecordMetadata :=
  ⟨e.flags &&& FLAG_MASK, e.wave_or_recovery_epoch⟩

/-- One turn of the loop of `disableCache`: the entry of element `i`, if any, counted out and
reset. -/
def clearAt (c : EpochRecordCache) (i : ℕ) : EpochRecordCache :=
  match c.buffer_.get i with
  | some entry => c.removeEntry i entry
  | none => c

/-- `disableCache()`: disabled for good; the first time, the tail record reset and every element
emptied. -/
def disableCache : EpochRecordCache :=
  let prev_disabled := c.disabled_
  let c := { c with disabled_ := true }
  let c := if !prev_disabled then { c with tail_record_ := TailRecord.empty } else c
  if !prev_disabled then (List.range c.capacity).foldl clearAt c else c

/-- The maxima `putRecord` updates for a record it keeps: `max_seen_esn_`, `max_seen_timestamp_`
and `offsets_within_epoch_`. -/
def noteSeen (rid : RecordID) (timestamp : UInt64) (offsets_within_epoch : OffsetMap) :
    EpochRecordCache :=
  ({ c with
    max_seen_esn_ := max c.max_seen_esn_ rid.esn
    max_seen_timestamp_ := max c.max_seen_timestamp_ timestamp }).setOffsetsWithinEpoch
    offsets_within_epoch

/-- The part of `putRecord` under the lock after the head has moved: the maxima seen updated, then
the record put in its element unless the entry there has higher precedence, or amended into it. -/
def insertEntry (rid : RecordID) (timestamp : UInt64) (offsets_within_epoch : OffsetMap)
    (entry : EpochRecordCacheEntry) : EpochRecordCache :=
  let c := c.noteSeen rid timestamp offsets_within_epoch
  let i := c.getIndex rid.esn
  match c.buffer_.get i with
  | some old_entry =>
    if getRecordMetadata entry < getRecordMetadata old_entry then
      -- the existing entry has higher precedence
      c
    else if entry.flags &&& STORE_Header.AMEND != 0 then
      { c with buffer_ := c.buffer_.set i (some (amendExistingEntry old_entry entry)) }
    else (c.removeEntry i old_entry).addEntry i entry
  | none => c.addEntry i entry

/-- `putRecord(rid, timestamp, lng, wave_or_recovery_epoch, copyset, flags, keys, payload,
offsets_within_epoch)`: 0 where the record was put (or had lower precedence than the entry there),
-1 where it was not; with the cache and the calls of `onRecordsReleased` made. -/
def putRecord (rid : RecordID) (timestamp : UInt64) (lng : Esn) (wave_or_recovery_epoch : UInt32)
    (copyset : List ShardID) (flags : STORE_flags_t) (keys : OptionalKeys) (payload : List UInt8)
    (offsets_within_epoch : OffsetMap) : Int × EpochRecordCache × List Released :=
  let head := c.head_
  if c.disabled_ ∨ (head ≠ ESN_INVALID ∧ rid.esn < head) then (-1, c, [])
  else if rid.esn < lng then (-1, c, [])
  else if (rid.esn - lng).toNat > c.capacity then
    -- the sliding window of the sequencer is larger than the cache
    (-1, c.disableCache, [])
  else
    let entry : EpochRecordCacheEntry :=
      ⟨compose_lsn rid.epoch rid.esn, flags, timestamp, lng, wave_or_recovery_epoch, copyset,
        offsets_within_epoch, keys, payload⟩
    -- recheck with the lock held
    let head := c.head_
    if c.disabled_ ∨ (head ≠ ESN_INVALID ∧ rid.esn < head) then (-1, c, [])
    else
      let r := c.advanceLNGImpl head lng []
      -- only where `rid.esn == lng`
      if rid.esn < r.1.head_ then (-1, r.1, r.2.2)
      else (0, r.1.insertEntry rid timestamp offsets_within_epoch entry, r.2.2)

/-- `getEntry(esn)`: whether the cache holds a record for `esn`, and that record. -/
def getEntry (esn : Esn) : Bool × Option EpochRecordCacheEntry :=
  if esn < c.head_ then (false, none)
  else if esn < c.head_ ∨ esn > c.maxESNToAccept then (false, none)
  else
    match c.buffer_.get (c.getIndex esn) with
    | none => (false, none)
    | some e => (true, some e)

/-! ### Calls -/

/-- The calls that change an `EpochRecordCache`. -/
inductive Call where
  | putRecord (rid : RecordID) (timestamp : UInt64) (lng : Esn) (wave_or_recovery_epoch : UInt32)
      (copyset : List ShardID) (flags : STORE_flags_t) (keys : OptionalKeys)
      (payload : List UInt8) (offsets_within_epoch : OffsetMap)
  | advanceLNG (new_lng : Esn)
  | disableCache

/-- The cache after a call, and the calls of `onRecordsReleased` it made. -/
def call (c : EpochRecordCache) : Call → EpochRecordCache × List Released
  | .putRecord rid timestamp lng wave copyset flags keys payload offsets =>
    (c.putRecord rid timestamp lng wave copyset flags keys payload offsets).2
  | .advanceLNG new_lng => c.advanceLNG new_lng
  | .disableCache => (c.disableCache, [])

/-- The cache after calls, one after another. -/
def run (c : EpochRecordCache) (calls : List Call) : EpochRecordCache :=
  calls.foldl (fun c a => (c.call a).1) c

end EpochRecordCache

end LogDevice
