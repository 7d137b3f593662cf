import LogDevice.RecordFormat.RoundTrip

/-!
# The copyset index entry

Model of the single entry of the copyset index (`common/LocalLogStoreRecordFormat.cpp`):
`formCopySetIndexEntry` writes the wave (4 bytes), the CSI flags (1), the copyset size (1) and the
copyset, each entry a `ShardID` (node then shard, 2 bytes each) with `CSI_FLAG_SHARD_ID` and a node
index (2) without it. `parseCopySetIndexSingleEntry` reads it back with a cursor `offset`, checking
before each read (`READ_FROM_SLICE`) that the slice holds the bytes; it skips, unchecked, what the
caller does not ask for, and checks at the end that the cursor is still within the slice.

The CSI flags are a byte whose bits sit elsewhere than the record's: `formCopySetIndexFlags` and
`copySetIndexFlagsToRecordFlags` translate five flags each way, one `CONV` per flag.

An entry written for a copyset of at most `COPYSET_SIZE_MAX` shards reads back with its wave, flags
and copyset, the copyset with the reader's shard where the flags do not have `CSI_FLAG_SHARD_ID`;
and a record's flags translated to CSI flags and back are those of the five flags it had
(`copySetIndex_roundtrip`).
-/

namespace LogDevice

open Lib

namespace LocalLogStoreRecordFormat

/-- `FLAG_HOLE`, `1u << 6`. -/
def FLAG_HOLE : Flags := 64

/-- `FLAG_WRITTEN_BY_REBUILDING`, `1u << 17`. -/
def FLAG_WRITTEN_BY_REBUILDING : Flags := 131072

/-- `FLAG_DRAINED`, `1u << 19`. -/
def FLAG_DRAINED : Flags := 524288

/-- `csi_flags_t`. -/
abbrev csi_flags_t := UInt8

def CSI_FLAG_WRITTEN_BY_REBUILDING : csi_flags_t := 1
def CSI_FLAG_DRAINED : csi_flags_t := 2
def CSI_FLAG_SHARD_ID : csi_flags_t := 4
def CSI_FLAG_WRITTEN_BY_RECOVERY : csi_flags_t := 8
def CSI_FLAG_HOLE : csi_flags_t := 64

/-- `copyset_size_t`. -/
abbrev copyset_size_t := UInt8

/-! ### The flags -/

/-- `CONV(x)` of the flag translations: `value` where `flags` has a bit of `mask`, nothing
otherwise. -/
def conv {α β : Type} [AndOp α] [OfNat α 0] [BEq α] [OfNat β 0] (flags mask : α) (value : β) : β :=
  if flags &&& mask != 0 then value else 0

/-- `formCopySetIndexFlags(flags_t)`. -/
def formCopySetIndexFlags (flags : Flags) : csi_flags_t :=
  conv flags FLAG_HOLE CSI_FLAG_HOLE ||| conv flags FLAG_DRAINED CSI_FLAG_DRAINED |||
    conv flags FLAG_SHARD_ID CSI_FLAG_SHARD_ID |||
    conv flags FLAG_WRITTEN_BY_REBUILDING CSI_FLAG_WRITTEN_BY_REBUILDING |||
    conv flags FLAG_WRITTEN_BY_RECOVERY CSI_FLAG_WRITTEN_BY_RECOVERY

/-- `copySetIndexFlagsToRecordFlags`. -/
def copySetIndexFlagsToRecordFlags (flags : csi_flags_t) : Flags :=
  conv flags CSI_FLAG_HOLE FLAG_HOLE ||| conv flags CSI_FLAG_DRAINED FLAG_DRAINED |||
    conv flags CSI_FLAG_SHARD_ID FLAG_SHARD_ID |||
    conv flags CSI_FLAG_WRITTEN_BY_REBUILDING FLAG_WRITTEN_BY_REBUILDING |||
    conv flags CSI_FLAG_WRITTEN_BY_RECOVERY FLAG_WRITTEN_BY_RECOVERY

/-! ### The entry -/

/-- `formCopySetIndexEntry(wave, copyset, copyset_size, block_starting_lsn, flags)`: no entry
without a block starting LSN; otherwise the single entry, of the first `copyset_size` shards. -/
def formCopySetIndexEntry (wave : UInt32) (copyset : List ShardID) (copyset_size : copyset_size_t)
    (block_starting_lsn : Option Lsn) (flags : csi_flags_t) : List UInt8 :=
  match block_starting_lsn with
  | none => []
  | some _ =>
    leBytes 4 wave.toNat ++ [flags] ++ [copyset_size] ++
      (copyset.take copyset_size.toNat).flatMap (copysetEntry (flags &&& CSI_FLAG_SHARD_ID != 0))

/-- `READ_FROM_SLICE` of `n` bytes at `offset`: the bytes and the offset after them, or
`MALFORMED_RECORD` where the slice ends before. An error `none` is a failed `dd_assert`, which
returns false and leaves `err` as it was. -/
def readFromSlice (cs_dir_slice : List UInt8) (offset n : ℕ) :
    Except (Option E) (List UInt8 × ℕ) :=
  if offset + n ≤ cs_dir_slice.length then .ok ((cs_dir_slice.drop offset).take n, offset + n)
  else .error (some .MALFORMED_RECORD)

/-- The wave, read where the caller asks for it and skipped unread otherwise. -/
def readWave (cs_dir_slice : List UInt8) (wave : Bool) : Except (Option E) (UInt32 × ℕ) :=
  if wave then
    match readFromSlice cs_dir_slice 0 4 with
    | .ok (bytes, offset) => .ok ((ofLeBytes bytes).toUInt32, offset)
    | .error e => .error e
  else .ok (0, 4)

/-- One entry of the copyset: a `ShardID` with `CSI_FLAG_SHARD_ID`, otherwise a node index, on the
reader's shard. -/
def readCopysetEntry (cs_dir_slice : List UInt8) (shard_id : Bool) (this_shard : ShardIndex)
    (offset : ℕ) : Except (Option E) (ShardID × ℕ) :=
  if shard_id then
    match readFromSlice cs_dir_slice offset 4 with
    | .ok (bytes, offset) => .ok (⟨ofLeBytes (bytes.take 2), ofLeBytes (bytes.drop 2)⟩, offset)
    | .error e => .error e
  else
    match readFromSlice cs_dir_slice offset 2 with
    | .ok (bytes, offset) => .ok (⟨ofLeBytes bytes, this_shard⟩, offset)
    | .error e => .error e

/-- The loop over the copyset: `n` more entries from `offset`. -/
def readCopysetEntries (cs_dir_slice : List UInt8) (shard_id : Bool) (this_shard : ShardIndex) :
    ℕ → ℕ → Except (Option E) (List ShardID × ℕ)
  | 0, offset => .ok ([], offset)
  | n + 1, offset => do
    let (shard, offset) ← readCopysetEntry cs_dir_slice shard_id this_shard offset
    let (shards, offset) ← readCopysetEntries cs_dir_slice shard_id this_shard n offset
    pure (shard :: shards, offset)

/-- The copyset, read where the caller asks for it; otherwise the cursor moves past it unchecked. -/
def readCopyset (cs_dir_slice : List UInt8) (copyset shard_id : Bool) (this_shard : ShardIndex)
    (copyset_size offset : ℕ) : Except (Option E) (List ShardID × ℕ) :=
  if copyset then readCopysetEntries cs_dir_slice shard_id this_shard copyset_size offset
  else .ok ([], offset + (if shard_id then 4 else 2) * copyset_size)

/-- What `parseCopySetIndexSingleEntry` leaves in the outputs it is given. -/
structure CopySetIndexEntry where
  copyset : List ShardID
  wave : UInt32
  flags : csi_flags_t

/-- `parseCopySetIndexSingleEntry(cs_dir_slice, copyset, wave, flags, this_shard)`, where
`copyset` and `wave` say whether those outputs are given (not null). -/
def parseCopySetIndexSingleEntry (cs_dir_slice : List UInt8) (copyset wave : Bool)
    (this_shard : ShardIndex) : Except (Option E) CopySetIndexEntry :=
  -- `dd_assert(cs_dir_slice.size != 0)`
  if cs_dir_slice.length = 0 then .error none
  else do
    let (wave_value, offset) ← readWave cs_dir_slice wave
    let (flags_bytes, offset) ← readFromSlice cs_dir_slice offset 1
    let flags := flags_bytes.headD 0
    let (size_bytes, offset) ← readFromSlice cs_dir_slice offset 1
    let copyset_size := size_bytes.headD 0
    let (shards, offset) ← readCopyset cs_dir_slice copyset (flags &&& CSI_FLAG_SHARD_ID != 0)
      this_shard copyset_size.toNat offset
    -- `dd_assert(offset <= cs_dir_slice.size)`
    if offset ≤ cs_dir_slice.length then pure ⟨shards, wave_value, flags⟩ else .error none

/-! ### Reading back what the writer wrote -/

/-- A read at the end of what precedes a field gives the field. -/
lemma readFromSlice_eq {cs_dir_slice : List UInt8} (pre bytes post : List UInt8) {offset n : ℕ}
    (hs : cs_dir_slice = pre ++ (bytes ++ post)) (hpre : pre.length = offset)
    (hn : bytes.length = n) : readFromSlice cs_dir_slice offset n = .ok (bytes, offset + n) := by
  subst hs hpre hn
  rw [readFromSlice, if_pos (by simp), List.drop_left, List.take_left]

/-- One entry of the copyset reads back, with the reader's shard where it was written without
one. -/
lemma readCopysetEntry_eq {cs_dir_slice : List UInt8} (shard_id : Bool) (this_shard : ShardIndex)
    (s : ShardID) (hs : s.node < 2 ^ 16 ∧ s.shard < 2 ^ 16) (pre post : List UInt8)
    (hslice : cs_dir_slice = pre ++ (copysetEntry shard_id s ++ post)) :
    readCopysetEntry cs_dir_slice shard_id this_shard pre.length =
      .ok (if shard_id then s else ⟨s.node, this_shard⟩,
        pre.length + (copysetEntry shard_id s).length) := by
  unfold readCopysetEntry
  cases shard_id with
  | true =>
    -- the node, then the shard, two bytes each
    have hlen : (copysetEntry true s).length = 4 := by simp [copysetEntry]
    rw [if_pos rfl, readFromSlice_eq pre _ post hslice rfl hlen, hlen]
    dsimp only
    rw [copysetEntry, if_pos rfl, List.take_left' (length_leBytes 2 _),
      List.drop_left' (length_leBytes 2 _), ofLeBytes_leBytes, ofLeBytes_leBytes, two_bytes,
      Nat.mod_eq_of_lt hs.1, Nat.mod_eq_of_lt hs.2]
    rfl
  | false =>
    have hlen : (copysetEntry false s).length = 2 := by simp [copysetEntry]
    rw [if_neg Bool.false_ne_true, readFromSlice_eq pre _ post hslice rfl hlen, hlen]
    dsimp only
    rw [copysetEntry, if_neg Bool.false_ne_true, ofLeBytes_leBytes, two_bytes,
      Nat.mod_eq_of_lt hs.1]
    rfl

/-- The copyset reads back entry by entry, the cursor past the last. -/
lemma readCopysetEntries_eq {cs_dir_slice : List UInt8} (shard_id : Bool) (this_shard : ShardIndex)
    (post : List UInt8) : ∀ (copyset : List ShardID) (pre : List UInt8), FitsInCopyset copyset →
      cs_dir_slice = pre ++ (copyset.flatMap (copysetEntry shard_id) ++ post) →
      readCopysetEntries cs_dir_slice shard_id this_shard copyset.length pre.length =
        .ok (copyset.map (fun s => if shard_id then s else ⟨s.node, this_shard⟩),
          pre.length + (copyset.flatMap (copysetEntry shard_id)).length)
  | [], pre, _, _ => by simp [readCopysetEntries]
  | s :: copyset, pre, hfits, hslice => by
    have hs := hfits s List.mem_cons_self
    have hrest : FitsInCopyset copyset := fun t ht => hfits t (List.mem_cons_of_mem s ht)
    -- the first entry, then the others after what precedes it and the first entry
    have hfirst : cs_dir_slice = pre ++ (copysetEntry shard_id s ++
        (copyset.flatMap (copysetEntry shard_id) ++ post)) := by
      rw [hslice, List.flatMap_cons, List.append_assoc]
    have hothers : cs_dir_slice = (pre ++ copysetEntry shard_id s) ++
        (copyset.flatMap (copysetEntry shard_id) ++ post) := by
      rw [hfirst, List.append_assoc]
    have hoffset : pre.length + (copysetEntry shard_id s).length =
        (pre ++ copysetEntry shard_id s).length := (List.length_append).symm
    rw [List.length_cons, readCopysetEntries, readCopysetEntry_eq shard_id this_shard s hs pre _ hfirst,
      Except.bind_ok']
    dsimp only
    rw [hoffset, readCopysetEntries_eq shard_id this_shard post copyset _ hrest hothers,
      Except.bind_ok']
    simp [List.length_append, Nat.add_assoc]

lemma map_ite_shard (shard_id : Bool) (this_shard : ShardIndex) (copyset : List ShardID) :
    copyset.map (fun s => if shard_id then s else ⟨s.node, this_shard⟩) =
      if shard_id then copyset else copyset.map fun s => ⟨s.node, this_shard⟩ := by
  cases shard_id <;> simp

/-- An entry written for a copyset of at most `COPYSET_SIZE_MAX` shards reads back with its wave,
flags and copyset. -/
lemma parse_formCopySetIndexEntry (wave : UInt32) (copyset : List ShardID) (flags : csi_flags_t)
    (this_shard : ShardIndex) (hsize : copyset.length ≤ COPYSET_SIZE_MAX)
    (hfits : FitsInCopyset copyset) :
    parseCopySetIndexSingleEntry
        (formCopySetIndexEntry wave copyset (UInt8.ofNat copyset.length) (some LSN_INVALID) flags)
        true true this_shard =
      .ok ⟨if flags &&& CSI_FLAG_SHARD_ID != 0 then copyset
          else copyset.map fun s => ⟨s.node, this_shard⟩, wave, flags⟩ := by
  have hcount : (UInt8.ofNat copyset.length).toNat = copyset.length :=
    UInt8.toNat_ofNat_of_lt' (Nat.lt_of_le_of_lt hsize (by decide))
  -- the wave, the flags, the size and the entries
  set entries := copyset.flatMap (copysetEntry (flags &&& CSI_FLAG_SHARD_ID != 0)) with hentries
  generalize hslice : formCopySetIndexEntry wave copyset (UInt8.ofNat copyset.length)
    (some LSN_INVALID) flags = cs_dir_slice
  have hbytes : cs_dir_slice =
      leBytes 4 wave.toNat ++ (flags :: UInt8.ofNat copyset.length :: entries) := by
    rw [← hslice, formCopySetIndexEntry, hcount, List.take_length]
    simp [hentries]
  have hlength : cs_dir_slice.length = 6 + entries.length := by
    rw [hbytes]
    simp only [List.length_append, length_leBytes, List.length_cons]
    omega
  unfold parseCopySetIndexSingleEntry
  rw [if_neg (by omega), readWave, if_pos rfl,
    readFromSlice_eq [] _ _ hbytes List.length_nil (length_leBytes 4 _), Except.bind_ok',
    toUInt32_ofLeBytes]
  dsimp only
  rw [readFromSlice_eq (leBytes 4 wave.toNat) [flags] _ hbytes
    (show (leBytes 4 wave.toNat).length = 0 + 4 by simp) List.length_singleton, Except.bind_ok']
  dsimp only
  rw [readFromSlice_eq (leBytes 4 wave.toNat ++ [flags]) [UInt8.ofNat copyset.length] entries
    (by simp [hbytes]) (show (leBytes 4 wave.toNat ++ [flags]).length = 0 + 4 + 1 by simp)
    List.length_singleton,
    Except.bind_ok']
  dsimp only
  -- the entries, after the four bytes of the wave and the bytes of the flags and the size
  have hpre : 0 + 4 + 1 + 1 =
      (leBytes 4 wave.toNat ++ [flags] ++ [UInt8.ofNat copyset.length]).length := by
    simp
  rw [List.headD_cons, List.headD_cons, hcount, readCopyset, if_pos rfl, hpre,
    readCopysetEntries_eq _ this_shard [] copyset _ hfits (by simp [hbytes, hentries]),
    Except.bind_ok']
  dsimp only
  -- the cursor ends at the end of the entry
  rw [if_pos (by simp [hlength, ← hentries]), map_ite_shard]
  rfl

/-! ### The flag translations -/

/-- `CONV` of a one-bit flag onto itself keeps that bit of the flags. -/
lemma conv_self (flags mask : Flags) {k : ℕ} (hmask : mask.toNat = 2 ^ k) :
    conv flags mask mask = flags &&& mask := by
  have hbit : (flags &&& mask).toNat = (flags.toNat.testBit k).toNat * 2 ^ k := by
    rw [UInt32.toNat_and, hmask, Nat.and_two_pow]
  unfold conv
  cases hb : flags.toNat.testBit k with
  | false =>
    -- the bit is clear: the mask leaves nothing
    have hzero : flags &&& mask = 0 := UInt32.toNat_inj.mp (by rw [hbit, hb]; simp)
    rw [hzero]
    rfl
  | true =>
    have hself : flags &&& mask = mask := UInt32.toNat_inj.mp (by rw [hbit, hb, hmask]; simp)
    have hne : mask ≠ 0 := fun h0 => by
      have h := congrArg UInt32.toNat h0
      rw [hmask, UInt32.toNat_zero] at h
      exact absurd h (Nat.two_pow_pos k).ne'
    rw [hself, if_pos (bne_iff_ne.mpr hne)]

/-- CSI flags set where five booleans say translate back to the record flags they say. -/
lemma copySetIndexFlagsToRecordFlags_ite (hole drained shard_id rebuilding recovery : Bool) :
    copySetIndexFlagsToRecordFlags ((if hole then CSI_FLAG_HOLE else 0) |||
        (if drained then CSI_FLAG_DRAINED else 0) ||| (if shard_id then CSI_FLAG_SHARD_ID else 0) |||
        (if rebuilding then CSI_FLAG_WRITTEN_BY_REBUILDING else 0) |||
        (if recovery then CSI_FLAG_WRITTEN_BY_RECOVERY else 0)) =
      (if hole then FLAG_HOLE else 0) ||| (if drained then FLAG_DRAINED else 0) |||
        (if shard_id then FLAG_SHARD_ID else 0) |||
        (if rebuilding then FLAG_WRITTEN_BY_REBUILDING else 0) |||
        (if recovery then FLAG_WRITTEN_BY_RECOVERY else 0) := by
  revert hole drained shard_id rebuilding recovery
  decide

/-- The record flags that come back from the CSI flags of `flags`: each of the five where `flags`
has it. -/
lemma copySetIndexFlagsToRecordFlags_formCopySetIndexFlags (flags : Flags) :
    copySetIndexFlagsToRecordFlags (formCopySetIndexFlags flags) =
      conv flags FLAG_HOLE FLAG_HOLE ||| conv flags FLAG_DRAINED FLAG_DRAINED |||
        conv flags FLAG_SHARD_ID FLAG_SHARD_ID |||
        conv flags FLAG_WRITTEN_BY_REBUILDING FLAG_WRITTEN_BY_REBUILDING |||
        conv flags FLAG_WRITTEN_BY_RECOVERY FLAG_WRITTEN_BY_RECOVERY :=
  -- only which of the five flags are set matters
  copySetIndexFlagsToRecordFlags_ite _ _ _ _ _

/-- An entry written for a copyset of at most `COPYSET_SIZE_MAX` shards reads back with its wave,
flags and copyset, the copyset on the reader's shard without `CSI_FLAG_SHARD_ID`; and record flags
translated to CSI flags and back keep exactly the five flags the copyset index carries. -/
theorem copySetIndex_roundtrip (wave : UInt32) (copyset : List ShardID) (flags : csi_flags_t)
    (this_shard : ShardIndex) (record_flags : Flags) (hsize : copyset.length ≤ COPYSET_SIZE_MAX)
    (hfits : FitsInCopyset copyset) :
    parseCopySetIndexSingleEntry
        (formCopySetIndexEntry wave copyset (UInt8.ofNat copyset.length) (some LSN_INVALID) flags)
        true true this_shard =
      .ok ⟨if flags &&& CSI_FLAG_SHARD_ID != 0 then copyset
          else copyset.map fun s => ⟨s.node, this_shard⟩, wave, flags⟩ ∧
    copySetIndexFlagsToRecordFlags (formCopySetIndexFlags record_flags) =
      record_flags &&& (FLAG_HOLE ||| FLAG_DRAINED ||| FLAG_SHARD_ID ||| FLAG_WRITTEN_BY_REBUILDING |||
        FLAG_WRITTEN_BY_RECOVERY) := by
  refine ⟨parse_formCopySetIndexEntry wave copyset flags this_shard hsize hfits, ?_⟩
  -- each flag is one bit, which its `CONV` keeps; the mask then distributes over the five
  rw [copySetIndexFlagsToRecordFlags_formCopySetIndexFlags,
    conv_self record_flags FLAG_HOLE (show FLAG_HOLE.toNat = 2 ^ 6 from rfl),
    conv_self record_flags FLAG_DRAINED (show FLAG_DRAINED.toNat = 2 ^ 19 from rfl),
    conv_self record_flags FLAG_SHARD_ID (show FLAG_SHARD_ID.toNat = 2 ^ 20 from rfl),
    conv_self record_flags FLAG_WRITTEN_BY_REBUILDING
      (show FLAG_WRITTEN_BY_REBUILDING.toNat = 2 ^ 17 from rfl),
    conv_self record_flags FLAG_WRITTEN_BY_RECOVERY
      (show FLAG_WRITTEN_BY_RECOVERY.toNat = 2 ^ 13 from rfl)]
  apply UInt32.toNat_inj.mp
  simp only [UInt32.toNat_or, UInt32.toNat_and, Nat.and_or_distrib_left]

theorem copySetIndex_roundtrip_two_shards :
    [(⟨1, 0⟩ : ShardID), ⟨5, 2⟩].length ≤ COPYSET_SIZE_MAX ∧
      FitsInCopyset [(⟨1, 0⟩ : ShardID), ⟨5, 2⟩] ∧
      (parseCopySetIndexSingleEntry
          (formCopySetIndexEntry 3 [⟨1, 0⟩, ⟨5, 2⟩] 2 (some LSN_INVALID) CSI_FLAG_HOLE) true true 7 =
        .ok ⟨if CSI_FLAG_HOLE &&& CSI_FLAG_SHARD_ID != 0 then [⟨1, 0⟩, ⟨5, 2⟩]
          else [(⟨1, 0⟩ : ShardID), ⟨5, 2⟩].map fun s => ⟨s.node, 7⟩, 3, CSI_FLAG_HOLE⟩ ∧
      copySetIndexFlagsToRecordFlags (formCopySetIndexFlags (FLAG_HOLE ||| FLAG_OFFSET_MAP)) =
        (FLAG_HOLE ||| FLAG_OFFSET_MAP) &&& (FLAG_HOLE ||| FLAG_DRAINED ||| FLAG_SHARD_ID |||
          FLAG_WRITTEN_BY_REBUILDING ||| FLAG_WRITTEN_BY_RECOVERY)) := by
  have hfits : FitsInCopyset [(⟨1, 0⟩ : ShardID), ⟨5, 2⟩] := by
    unfold FitsInCopyset
    decide
  exact ⟨by decide, hfits,
    copySetIndex_roundtrip 3 [⟨1, 0⟩, ⟨5, 2⟩] CSI_FLAG_HOLE 7 (FLAG_HOLE ||| FLAG_OFFSET_MAP)
      (by decide) hfits⟩

end LocalLogStoreRecordFormat

end LogDevice
