import LogDevice.Lib.Wire
import LogDevice.RecordCache.Entry

/-!
# The STORE message on the wire

Model of `STORE_Message::serialize` and `STORE_Message::deserialize`
(`common/protocol/STORE_Message.{h,cpp}`). The message is the packed `STORE_Header`, then sections
that its flags and wave switch on: the recovery id and epoch (`RECOVERY`), the rebuilding version,
wave and id (`REBUILDING`), the offsets within the epoch (`OFFSET_WITHIN_EPOCH`: the whole
`OffsetMap` with `OFFSET_MAP`, the `BYTE_OFFSET` counter otherwise), the first amendable offset
(a wave above 1), the copyset of `copyset_size` chain links, the block starting LSN
(`STICKY_COPYSET`), the optional keys (`CUSTOM_KEY`: their number in a byte, then each key's type,
length in two bytes and bytes), and last the payload, written unless it is empty or the flags have
`AMEND`, and read back as whatever bytes are left.

`ProtocolWriter::write` and `ProtocolReader::read` of a fixed-size value are a `FixedCodec`; a
read that runs out of bytes fails with `BADMSG`, and the reader stops at the first failure, since
`deserialize` returns the first error the reader recorded. A writer older than
`STREAM_WRITER_SUPPORT` clears `WRITE_STREAM` in the header it writes.
-/

namespace LogDevice

open Lib LocalLogStoreRecordFormat
open Lib.FixedCodec (uint8 uint16 uint32 uint64 nat)

/-- `Compatibility::ProtocolVersion::STREAM_WRITER_SUPPORT`. -/
def STREAM_WRITER_SUPPORT : ℕ := 98

namespace STORE_Header

def RECOVERY : STORE_flags_t := 32
def REBUILDING : STORE_flags_t := 256
def AMEND : STORE_flags_t := 512
def STICKY_COPYSET : STORE_flags_t := 2048
def OFFSET_WITHIN_EPOCH : STORE_flags_t := 4096
def CUSTOM_KEY : STORE_flags_t := 16384
def WRITE_STREAM : STORE_flags_t := 4194304

end STORE_Header

/-- `RecordID`: the ESN, the epoch and the log. -/
structure RecordID where
  esn : Esn
  epoch : UInt32
  logid : UInt64
  deriving DecidableEq, Repr

/-- `STORE_Header`, a packed struct; `sequencer_node_id` is the four bytes of a `NodeID`, and
`copyset_offset` the bits of an `int8_t`. -/
structure STORE_Header where
  rid : RecordID
  timestamp : UInt64
  last_known_good : Esn
  wave : UInt32
  flags : STORE_flags_t
  nsync : UInt8
  copyset_offset : UInt8
  copyset_size : UInt8
  timeout_ms : UInt32
  sequencer_node_id : UInt32
  deriving DecidableEq, Repr

/-- `StoreChainLink`: the destination shard, node then shard index (`int16_t` each), and the
`ClientID` of the sender's connection on it. -/
structure StoreChainLink where
  destination : ShardID
  origin : UInt32
  deriving DecidableEq, Repr

/-- `STORE_Extra`, with its defaults. -/
structure STORE_Extra where
  recovery_id : UInt64 := 0
  recovery_epoch : UInt32 := 0
  rebuilding_version : Lsn := LSN_INVALID
  rebuilding_wave : UInt32 := 0
  rebuilding_id : UInt64 := 0
  offsets_within_epoch : OffsetMap := OffsetMap.empty
  first_amendable_offset : UInt8 := UInt8.ofNat COPYSET_SIZE_MAX

/-- The parts of a `STORE_Message` that go on the wire. -/
structure STORE_Message where
  header : STORE_Header
  extra : STORE_Extra
  copyset : List StoreChainLink
  block_starting_lsn : Lsn
  optional_keys : OptionalKeys
  payload : List UInt8

namespace STORE_Message

/-! ### Codecs of the fixed-size values -/

/-- `RecordID`, 16 bytes. -/
def recordIDCodec : FixedCodec RecordID :=
  (uint32.prod (uint32.prod uint64)).map (fun p => ⟨p.1, p.2.1, p.2.2⟩)
    (fun r => (r.esn, r.epoch, r.logid)) fun _ => rfl

/-- `STORE_Header`, its fields in order. -/
def headerCodec : FixedCodec STORE_Header :=
  (recordIDCodec.prod (uint64.prod (uint32.prod (uint32.prod (uint32.prod (uint8.prod
    (uint8.prod (uint8.prod (uint32.prod uint32))))))))).map
    (fun p => ⟨p.1, p.2.1, p.2.2.1, p.2.2.2.1, p.2.2.2.2.1, p.2.2.2.2.2.1, p.2.2.2.2.2.2.1,
      p.2.2.2.2.2.2.2.1, p.2.2.2.2.2.2.2.2.1, p.2.2.2.2.2.2.2.2.2⟩)
    (fun h => (h.rid, h.timestamp, h.last_known_good, h.wave, h.flags, h.nsync, h.copyset_offset,
      h.copyset_size, h.timeout_ms, h.sequencer_node_id)) fun _ => rfl

/-- `StoreChainLink`, 8 bytes. -/
def linkCodec : FixedCodec StoreChainLink :=
  ((nat 2).prod ((nat 2).prod uint32)).map (fun p => ⟨⟨p.1, p.2.1⟩, p.2.2⟩)
    (fun l => (l.destination.node, l.destination.shard, l.origin)) fun _ => rfl

/-! ### Writing -/

/-- The header `serialize` writes: an older writer clears `WRITE_STREAM`. -/
def protoSupportedHeader (proto : ℕ) (header : STORE_Header) : STORE_Header :=
  if proto < STREAM_WRITER_SUPPORT then
    { header with flags := header.flags &&& ~~~STORE_Header.WRITE_STREAM }
  else header

/-- One optional key: its type, its length in two bytes, its bytes. -/
def keyEntry (key : KeyType × List UInt8) : List UInt8 :=
  key.1 :: (uint16.encode (UInt16.ofNat key.2.length) ++ key.2)

/-- `STORE_Message::serialize` for a writer of protocol `proto`. -/
def serialize (proto : ℕ) (m : STORE_Message) : List UInt8 :=
  let flags := m.header.flags
  headerCodec.encode (protoSupportedHeader proto m.header) ++
    (if flags &&& STORE_Header.RECOVERY ≠ 0 then
      uint64.encode m.extra.recovery_id ++ uint32.encode m.extra.recovery_epoch
    else []) ++
    (if flags &&& STORE_Header.REBUILDING ≠ 0 then
      uint64.encode m.extra.rebuilding_version ++ uint32.encode m.extra.rebuilding_wave ++
        uint64.encode m.extra.rebuilding_id
    else []) ++
    (if flags &&& STORE_Header.OFFSET_WITHIN_EPOCH ≠ 0 then
      if flags &&& STORE_Header.OFFSET_MAP ≠ 0 then m.extra.offsets_within_epoch.serialize
      else uint64.encode (m.extra.offsets_within_epoch.getCounter BYTE_OFFSET)
    else []) ++
    (if m.header.wave > 1 then uint8.encode m.extra.first_amendable_offset else []) ++
    m.copyset.flatMap linkCodec.encode ++
    (if flags &&& STORE_Header.STICKY_COPYSET ≠ 0 then uint64.encode m.block_starting_lsn
    else []) ++
    (if flags &&& STORE_Header.CUSTOM_KEY ≠ 0 then
      -- `uint8_t optional_keys_length = optional_keys_.size()`
      uint8.encode (UInt8.ofNat m.optional_keys.entries.length) ++
        m.optional_keys.entries.flatMap keyEntry
    else []) ++
    (if m.payload ≠ [] ∧ flags &&& STORE_Header.AMEND = 0 then m.payload else [])

/-! ### Reading -/

/-- `ProtocolReader::read` of a fixed-size value. -/
def read {α : Type} (c : FixedCodec α) (rest : List UInt8) : Except E (α × List UInt8) :=
  c.read .BADMSG rest

/-- `ProtocolReader::readVector(&str, n)` into a string. -/
def readBytes (n : ℕ) (rest : List UInt8) : Except E (List UInt8 × List UInt8) :=
  if n ≤ rest.length then .ok (rest.take n, rest.drop n) else .error .BADMSG

/-- The recovery section: the recovery id and epoch. -/
def readRecovery (extra : STORE_Extra) (rest : List UInt8) :
    Except E (STORE_Extra × List UInt8) := do
  let (recovery_id, rest) ← read uint64 rest
  let (recovery_epoch, rest) ← read uint32 rest
  pure ({ extra with recovery_id, recovery_epoch }, rest)

/-- The rebuilding section: the rebuilding version, wave and id. -/
def readRebuilding (extra : STORE_Extra) (rest : List UInt8) :
    Except E (STORE_Extra × List UInt8) := do
  let (rebuilding_version, rest) ← read uint64 rest
  let (rebuilding_wave, rest) ← read uint32 rest
  let (rebuilding_id, rest) ← read uint64 rest
  pure ({ extra with rebuilding_version, rebuilding_wave, rebuilding_id }, rest)

/-- The offsets section, read into `extra.offsets_within_epoch`: the whole map with `OFFSET_MAP`
(`OffsetMap::deserialize`, which fails with `BADMSG`), the `BYTE_OFFSET` counter otherwise. -/
def readOffsets (flags : STORE_flags_t) (extra : STORE_Extra) (rest : List UInt8) :
    Except E (STORE_Extra × List UInt8) :=
  if flags &&& STORE_Header.OFFSET_MAP ≠ 0 then
    match extra.offsets_within_epoch.deserialize rest with
    | (offsets_within_epoch, some rest) => .ok ({ extra with offsets_within_epoch }, rest)
    | (_, none) => .error .BADMSG
  else do
    let (offset_within_epoch, rest) ← read uint64 rest
    pure ({ extra with
      offsets_within_epoch := extra.offsets_within_epoch.setCounter BYTE_OFFSET offset_within_epoch },
      rest)

/-- The first amendable offset, a byte. -/
def readFirstAmendableOffset (extra : STORE_Extra) (rest : List UInt8) :
    Except E (STORE_Extra × List UInt8) := do
  let (first_amendable_offset, rest) ← read uint8 rest
  pure ({ extra with first_amendable_offset }, rest)

/-- The loop of `deserialize` over `n` more optional keys, each inserted into the map. -/
def readOptionalKeysFrom : ℕ → List UInt8 → OptionalKeys → Except E (OptionalKeys × List UInt8)
  | 0, rest, keys => .ok (keys, rest)
  | n + 1, rest, keys => do
    let (type, rest) ← read uint8 rest
    let (length, rest) ← read uint16 rest
    let (str, rest) ← readBytes length.toNat rest
    readOptionalKeysFrom n rest (keys.insert type str)

/-- The optional keys section: their number in a byte, then the keys. -/
def readOptionalKeys (optional_keys : OptionalKeys) (rest : List UInt8) :
    Except E (OptionalKeys × List UInt8) := do
  let (optional_keys_length, rest) ← read uint8 rest
  readOptionalKeysFrom optional_keys_length.toNat rest optional_keys

/-- `STORE_Message::deserialize`: the message, or the reader's first error. -/
def deserialize (bytes : List UInt8) : Except E STORE_Message := do
  let (hdr, rest) ← read headerCodec bytes
  let extra : STORE_Extra := {}
  let (extra, rest) ← readIf (hdr.flags &&& STORE_Header.RECOVERY ≠ 0) (readRecovery extra) extra rest
  let (extra, rest) ←
    readIf (hdr.flags &&& STORE_Header.REBUILDING ≠ 0) (readRebuilding extra) extra rest
  let (extra, rest) ←
    readIf (hdr.flags &&& STORE_Header.OFFSET_WITHIN_EPOCH ≠ 0) (readOffsets hdr.flags extra) extra
      rest
  let (extra, rest) ← readIf (hdr.wave > 1) (readFirstAmendableOffset extra) extra rest
  if hdr.copyset_size.toNat = 0 ∨ hdr.copyset_size.toNat > COPYSET_SIZE_MAX then .error .BADMSG
  else do
    let (copyset, rest) ← linkCodec.readVector .BADMSG hdr.copyset_size.toNat rest
    let (block_starting_lsn, rest) ←
      readIf (hdr.flags &&& STORE_Header.STICKY_COPYSET ≠ 0) (read uint64) LSN_INVALID rest
    let (optional_keys, rest) ←
      readIf (hdr.flags &&& STORE_Header.CUSTOM_KEY ≠ 0) (readOptionalKeys OptionalKeys.empty)
        OptionalKeys.empty rest
    -- the payload is every byte left
    return { header := hdr, extra, copyset, block_starting_lsn, optional_keys, payload := rest }

/-! ### Reading back what `serialize` writes -/

lemma protoSupportedHeader_flags_and (proto : ℕ) (header : STORE_Header) {F : STORE_flags_t}
    (hF : ~~~STORE_Header.WRITE_STREAM &&& F = F) :
    (protoSupportedHeader proto header).flags &&& F = header.flags &&& F := by
  unfold protoSupportedHeader
  split_ifs
  · exact (UInt32.and_assoc _ _ _).trans (congrArg _ hF)
  · rfl

@[simp] lemma protoSupportedHeader_wave (proto : ℕ) (header : STORE_Header) :
    (protoSupportedHeader proto header).wave = header.wave := by
  unfold protoSupportedHeader
  split_ifs <;> rfl

@[simp] lemma protoSupportedHeader_copyset_size (proto : ℕ) (header : STORE_Header) :
    (protoSupportedHeader proto header).copyset_size = header.copyset_size := by
  unfold protoSupportedHeader
  split_ifs <;> rfl

lemma readOffsets_protoSupportedHeader (proto : ℕ) (header : STORE_Header) :
    readOffsets (protoSupportedHeader proto header).flags = readOffsets header.flags := by
  funext extra rest
  rw [readOffsets, readOffsets, protoSupportedHeader_flags_and proto header (by decide)]

lemma headerCodec_canonical (header : STORE_Header) : headerCodec.Canonical header := by
  simp [headerCodec, recordIDCodec]

lemma linkCodec_canonical (l : StoreChainLink)
    (h : l.destination.node < 2 ^ 16 ∧ l.destination.shard < 2 ^ 16) : linkCodec.Canonical l := by
  simpa [linkCodec] using h

lemma read_encode_append {α : Type} (c : FixedCodec α) {a : α} (h : c.Canonical a)
    (rest : List UInt8) : read c (c.encode a ++ rest) = .ok (a, rest) :=
  c.read_append E.BADMSG h rest

lemma readBytes_append (bytes rest : List UInt8) :
    readBytes bytes.length (bytes ++ rest) = .ok (bytes, rest) := by
  rw [readBytes, if_pos (by simp), List.take_left, List.drop_left]

lemma readRecovery_append (extra : STORE_Extra) (recovery_id : UInt64) (recovery_epoch : UInt32)
    (rest : List UInt8) :
    readRecovery extra ((uint64.encode recovery_id ++ uint32.encode recovery_epoch) ++ rest) =
      .ok ({ extra with recovery_id, recovery_epoch }, rest) := by
  rw [readRecovery, List.append_assoc, read_encode_append uint64 trivial, Except.bind_ok']
  dsimp only
  rw [read_encode_append uint32 trivial, Except.bind_ok']
  rfl

lemma readRebuilding_append (extra : STORE_Extra) (rebuilding_version : Lsn)
    (rebuilding_wave : UInt32) (rebuilding_id : UInt64) (rest : List UInt8) :
    readRebuilding extra ((uint64.encode rebuilding_version ++ (uint32.encode rebuilding_wave ++
        uint64.encode rebuilding_id)) ++ rest) =
      .ok ({ extra with rebuilding_version, rebuilding_wave, rebuilding_id }, rest) := by
  simp only [readRebuilding, List.append_assoc, read_encode_append uint64 trivial,
    read_encode_append uint32 trivial, Except.bind_ok']
  rfl

/-- The offsets read into an empty map: the map written with `OFFSET_MAP`, its `BYTE_OFFSET`
counter without. -/
lemma readOffsets_append (flags : STORE_flags_t) (extra : STORE_Extra)
    (hempty : extra.offsets_within_epoch = OffsetMap.empty) (offsets : OffsetMap)
    (hcount : offsets.counterTypeMap_.length < 256) (rest : List UInt8) :
    readOffsets flags extra ((if flags &&& STORE_Header.OFFSET_MAP ≠ 0 then offsets.serialize
        else uint64.encode (offsets.getCounter BYTE_OFFSET)) ++ rest) =
      .ok ({ extra with
        offsets_within_epoch := if flags &&& STORE_Header.OFFSET_MAP ≠ 0 then offsets
          else OffsetMap.fromLegacy (offsets.getCounter BYTE_OFFSET) }, rest) := by
  unfold readOffsets
  split_ifs with hmap
  · rw [hempty, OffsetMap.deserialize_serialize offsets hcount rest]
  · rw [read_encode_append uint64 trivial, Except.bind_ok', hempty]
    rfl

lemma readFirstAmendableOffset_append (extra : STORE_Extra) (first_amendable_offset : UInt8)
    (rest : List UInt8) :
    readFirstAmendableOffset extra (uint8.encode first_amendable_offset ++ rest) =
      .ok ({ extra with first_amendable_offset }, rest) := by
  rw [readFirstAmendableOffset, read_encode_append uint8 trivial, Except.bind_ok']
  rfl

/-- Keys past every key read so far are appended as they are read. -/
lemma readOptionalKeysFrom_flatMap (rest : List UInt8) :
    ∀ (es : List (KeyType × List UInt8)) (keys : OptionalKeys),
      es.Pairwise (fun a b => a.1 < b.1) → (∀ e ∈ keys.entries, ∀ f ∈ es, e.1 < f.1) →
      (∀ f ∈ es, f.2.length < 2 ^ 16) →
      ∃ keys' : OptionalKeys, keys'.entries = keys.entries ++ es ∧
        readOptionalKeysFrom es.length (es.flatMap keyEntry ++ rest) keys = .ok (keys', rest)
  | [], keys, _, _, _ => ⟨keys, by simp, rfl⟩
  | f :: es, keys, hsorted, hlt, hlen => by
    obtain ⟨hf, hes⟩ := List.pairwise_cons.mp hsorted
    obtain ⟨happend, hlt'⟩ := keys.insert_of_lt hlt hf
    obtain ⟨keys', hkeys', e⟩ := readOptionalKeysFrom_flatMap rest es (keys.insert f.1 f.2) hes
      hlt' fun g hg => hlen g (List.mem_cons_of_mem f hg)
    refine ⟨keys', by rw [hkeys', happend, List.append_assoc, List.singleton_append], ?_⟩
    -- the key's length reads back from its two bytes
    have hlength : (UInt16.ofNat f.2.length).toNat = f.2.length :=
      UInt16.toNat_ofNat_of_lt' (hlen f List.mem_cons_self)
    have hbytes : (f :: es).flatMap keyEntry ++ rest = uint8.encode f.1 ++
        (uint16.encode (UInt16.ofNat f.2.length) ++ (f.2 ++ (es.flatMap keyEntry ++ rest))) := by
      simp [keyEntry, uint8]
    rw [List.length_cons, hbytes, readOptionalKeysFrom, read_encode_append uint8 trivial,
      Except.bind_ok']
    dsimp only
    rw [read_encode_append uint16 trivial, Except.bind_ok']
    dsimp only
    rw [hlength, readBytes_append, Except.bind_ok']
    exact e

/-- At most 255 keys of at most 65535 bytes each read back into an empty map. -/
lemma readOptionalKeys_append (keys : OptionalKeys) (hcount : keys.entries.length ≤ 255)
    (hlength : ∀ kv ∈ keys.entries, kv.2.length ≤ 65535) (rest : List UInt8) :
    readOptionalKeys OptionalKeys.empty ((uint8.encode (UInt8.ofNat keys.entries.length) ++
      keys.entries.flatMap keyEntry) ++ rest) = .ok (keys, rest) := by
  obtain ⟨keys', hentries, hread⟩ := readOptionalKeysFrom_flatMap rest keys.entries
    OptionalKeys.empty keys.sorted (fun _ he => absurd he List.not_mem_nil)
    fun f hf => Nat.lt_of_le_of_lt (hlength f hf) (by decide)
  have hkeys : keys' = keys := OptionalKeys.ext_entries hentries
  have hsize : (UInt8.ofNat keys.entries.length).toNat = keys.entries.length :=
    UInt8.toNat_ofNat_of_lt' (Nat.lt_of_le_of_lt hcount (by decide))
  rw [readOptionalKeys, List.append_assoc, read_encode_append uint8 trivial, Except.bind_ok']
  dsimp only
  rw [hsize, hread, hkeys]

/-! ### The round trip -/

/-- What the wire carries of a message: a copyset of 1 to `COPYSET_SIZE_MAX` links, as many as the
header says, whose shard ids fit their two-byte fields; at most 255 optional keys of at most 65535
bytes each; fewer than 256 counters in the offsets; and no payload on an amend, which does not
write one. -/
structure Representable (m : STORE_Message) : Prop where
  copyset_size : m.copyset.length = m.header.copyset_size.toNat
  copyset_length : 1 ≤ m.copyset.length ∧ m.copyset.length ≤ COPYSET_SIZE_MAX
  links_fit : ∀ l ∈ m.copyset, l.destination.node < 2 ^ 16 ∧ l.destination.shard < 2 ^ 16
  keys_count : m.optional_keys.entries.length ≤ 255
  keys_length : ∀ kv ∈ m.optional_keys.entries, kv.2.length ≤ 65535
  counters : m.extra.offsets_within_epoch.counterTypeMap_.length < 256
  amend_payload : m.header.flags &&& STORE_Header.AMEND ≠ 0 → m.payload = []

/-- The message a reader gets from what `serialize proto m` writes: the header as written, each
section where the flags (or the wave) say it was written and the defaults of `STORE_Extra`
otherwise, the offsets cut down to their `BYTE_OFFSET` counter without `OFFSET_MAP`, the copyset,
and the payload. -/
def transmitted (proto : ℕ) (m : STORE_Message) : STORE_Message :=
  let flags := m.header.flags
  { header := protoSupportedHeader proto m.header
    extra := {
      recovery_id := if flags &&& STORE_Header.RECOVERY ≠ 0 then m.extra.recovery_id else 0
      recovery_epoch := if flags &&& STORE_Header.RECOVERY ≠ 0 then m.extra.recovery_epoch else 0
      rebuilding_version :=
        if flags &&& STORE_Header.REBUILDING ≠ 0 then m.extra.rebuilding_version else LSN_INVALID
      rebuilding_wave :=
        if flags &&& STORE_Header.REBUILDING ≠ 0 then m.extra.rebuilding_wave else 0
      rebuilding_id := if flags &&& STORE_Header.REBUILDING ≠ 0 then m.extra.rebuilding_id else 0
      offsets_within_epoch :=
        if flags &&& STORE_Header.OFFSET_WITHIN_EPOCH ≠ 0 then
          if flags &&& STORE_Header.OFFSET_MAP ≠ 0 then m.extra.offsets_within_epoch
          else OffsetMap.fromLegacy (m.extra.offsets_within_epoch.getCounter BYTE_OFFSET)
        else OffsetMap.empty
      first_amendable_offset :=
        if m.header.wave > 1 then m.extra.first_amendable_offset else UInt8.ofNat COPYSET_SIZE_MAX }
    copyset := m.copyset
    block_starting_lsn :=
      if flags &&& STORE_Header.STICKY_COPYSET ≠ 0 then m.block_starting_lsn else LSN_INVALID
    optional_keys :=
      if flags &&& STORE_Header.CUSTOM_KEY ≠ 0 then m.optional_keys else OptionalKeys.empty
    payload := m.payload }

/-- `serialize` leaves the payload out only where it is empty, once an amend carries none. -/
lemma payload_written {m : STORE_Message}
    (h : m.header.flags &&& STORE_Header.AMEND ≠ 0 → m.payload = []) :
    (if m.payload ≠ [] ∧ m.header.flags &&& STORE_Header.AMEND = 0 then m.payload else []) =
      m.payload := by
  split_ifs with hwritten
  · rfl
  · by_cases hempty : m.payload = []
    · exact hempty.symm
    · exact absurd (h fun hamend => hwritten ⟨hempty, hamend⟩) hempty

/-- Whatever the protocol of the writer, a message the wire can carry reads back as `transmitted`:
its header as written and every section the writer wrote. -/
theorem deserialize_serialize_transmitted (proto : ℕ) (m : STORE_Message) (h : m.Representable) :
    deserialize (serialize proto m) = .ok (transmitted proto m) := by
  -- the reader tests the flags of the header as written, which agree on every section's flag
  have hflag : ∀ F, ~~~STORE_Header.WRITE_STREAM &&& F = F →
      (protoSupportedHeader proto m.header).flags &&& F = m.header.flags &&& F :=
    fun _ hF => protoSupportedHeader_flags_and proto m.header hF
  simp only [serialize, List.append_assoc, payload_written h.amend_payload]
  rw [deserialize, read_encode_append headerCodec (headerCodec_canonical _), Except.bind_ok']
  dsimp only
  rw [hflag _ (by decide), readIf_append _ (readRecovery {}) _ _ _ {} fun _ => readRecovery_append {} _ _ _,
    Except.bind_ok']
  dsimp only
  rw [hflag _ (by decide), readIf_append _ (readRebuilding _) _ _ _ _
    fun _ => readRebuilding_append _ _ _ _ _, Except.bind_ok']
  dsimp only
  -- the offsets go into the map of a fresh `STORE_Extra`, which the sections before leave empty
  rw [hflag _ (by decide), readOffsets_protoSupportedHeader, readIf_append _ (readOffsets _ _) _ _ _ _
    fun _ => readOffsets_append _ _ (by split_ifs <;> rfl) _ h.counters _, Except.bind_ok']
  dsimp only
  rw [protoSupportedHeader_wave, readIf_append _ (readFirstAmendableOffset _) _ _ _ _
    fun _ => readFirstAmendableOffset_append _ _ _, Except.bind_ok']
  dsimp only
  -- the copyset, of as many links as the header says
  have hrange := h.copyset_length
  rw [protoSupportedHeader_copyset_size, ← h.copyset_size, if_neg (by omega),
    linkCodec.readVector_flatMap E.BADMSG _ m.copyset fun l hl => linkCodec_canonical l (h.links_fit l hl),
    Except.bind_ok']
  dsimp only
  -- the block starting LSN and the optional keys
  rw [hflag _ (by decide), readIf_append _ (read uint64) _ _ _ _
    fun _ => read_encode_append uint64 trivial _, Except.bind_ok']
  dsimp only
  rw [hflag _ (by decide), readIf_append _ (readOptionalKeys OptionalKeys.empty) _ _ _ _
    fun _ => readOptionalKeys_append _ h.keys_count h.keys_length _, Except.bind_ok']
  -- each field of `STORE_Extra` comes from the one section that reads it, or is its default
  simp only [Except.pure_eq_ok, transmitted, Except.ok.injEq, STORE_Message.mk.injEq, true_and,
    and_true]
  split_ifs <;> rfl

/-- A store with every section and `WRITE_STREAM`, from a writer of wave 2 older than
`STREAM_WRITER_SUPPORT`. -/
def everySectionMessage : STORE_Message where
  header := {
    rid := ⟨5, 3, 1⟩
    timestamp := 1000
    last_known_good := 4
    wave := 2
    flags := STORE_Header.RECOVERY ||| STORE_Header.REBUILDING |||
      STORE_Header.OFFSET_WITHIN_EPOCH ||| STORE_Header.OFFSET_MAP ||| STORE_Header.STICKY_COPYSET |||
      STORE_Header.CUSTOM_KEY ||| STORE_Header.WRITE_STREAM
    nsync := 0
    copyset_offset := 0
    copyset_size := 2
    timeout_ms := 0
    sequencer_node_id := 1 }
  extra := {
    recovery_id := 7
    recovery_epoch := 3
    rebuilding_version := 9
    rebuilding_wave := 1
    rebuilding_id := 2
    offsets_within_epoch := OffsetMap.fromLegacy 42
    first_amendable_offset := 1 }
  copyset := [⟨⟨1, 0⟩, 0⟩, ⟨⟨2, 0⟩, 0⟩]
  block_starting_lsn := 11
  optional_keys := OptionalKeys.empty.insert FINDKEY [1, 2]
  payload := [9, 9]

theorem deserialize_serialize_transmitted_every_section :
    everySectionMessage.Representable ∧
      deserialize (serialize 97 everySectionMessage) =
        .ok (transmitted 97 everySectionMessage) :=
  have h : everySectionMessage.Representable :=
    ⟨by decide, by decide, by decide, by decide, by decide, by decide, by decide⟩
  ⟨h, deserialize_serialize_transmitted 97 everySectionMessage h⟩

end STORE_Message

end LogDevice
