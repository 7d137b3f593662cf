import LogDevice.Lib.Bytes

/-!
# Counters of an epoch

Model of `OffsetMap` (`common/OffsetMap.h`, `OffsetMap.cpp`): a `std::map` from counter types
(`counter_type_t`, a byte) to 64-bit counter values, kept as its entries in key order, with the
order as a field (`sorted`). `assign` is `counterTypeMap_[type] = value`; `setCounter` erases the
counter instead where the value is `BYTE_OFFSET_INVALID`; `max` takes the larger value counter by
counter, a missing counter counting as 0.

The wire format (`serialize`, `deserialize`) is the number of counters in one byte, then each
counter's type and its value in eight bytes in host order (little-endian, `ProtocolWriter`). A map
of fewer than 256 counters reads back as it was written (`deserialize_serialize`); a map with all
256 counter types writes a count of 0.
-/

namespace LogDevice

open Lib

/-- `counter_type_t`. -/
abbrev CounterType := UInt8

/-- `BYTE_OFFSET`. -/
def BYTE_OFFSET : CounterType := 246

/-- `BYTE_OFFSET_INVALID`. -/
def BYTE_OFFSET_INVALID : UInt64 := 18446744073709551615

namespace OffsetMap

/-- `counterTypeMap_[counter_type] = counter_val` on the entries of a `std::map`, in key order. -/
def assignEntry (counter_type : CounterType) (counter_val : UInt64) :
    List (CounterType × UInt64) → List (CounterType × UInt64)
  | [] => [(counter_type, counter_val)]
  | e :: rest =>
    if counter_type < e.1 then (counter_type, counter_val) :: e :: rest
    else if counter_type = e.1 then (counter_type, counter_val) :: rest
    else e :: assignEntry counter_type counter_val rest

section AssignEntry

variable (k : CounterType) (v : UInt64)

lemma fst_mem_assignEntry {x : CounterType} :
    ∀ {l : List (CounterType × UInt64)},
      (∃ e ∈ assignEntry k v l, e.1 = x) → x = k ∨ ∃ e ∈ l, e.1 = x
  | [], ⟨e, he, hx⟩ => .inl (by simp_all [assignEntry])
  | f :: rest, ⟨e, he, hx⟩ => by
    simp only [assignEntry] at he
    split_ifs at he with hlt heq
    · rcases List.mem_cons.mp he with rfl | he
      · exact .inl hx.symm
      · exact .inr ⟨e, he, hx⟩
    · rcases List.mem_cons.mp he with rfl | he
      · exact .inl hx.symm
      · exact .inr ⟨e, List.mem_cons_of_mem f he, hx⟩
    · rcases List.mem_cons.mp he with rfl | he
      · exact .inr ⟨e, List.mem_cons_self, hx⟩
      · rcases fst_mem_assignEntry ⟨e, he, hx⟩ with h | ⟨e', he', hx'⟩
        · exact .inl h
        · exact .inr ⟨e', List.mem_cons_of_mem f he', hx'⟩

/-- Assigning keeps the entries in key order. -/
lemma sorted_assignEntry : ∀ {l : List (CounterType × UInt64)},
    l.Pairwise (fun a b => a.1 < b.1) → (assignEntry k v l).Pairwise fun a b => a.1 < b.1
  | [], _ => List.pairwise_singleton _ _
  | f :: rest, h => by
    obtain ⟨hf, hrest⟩ := List.pairwise_cons.mp h
    simp only [assignEntry]
    split_ifs with hlt heq
    · exact List.pairwise_cons.mpr ⟨fun e he => by
        rcases List.mem_cons.mp he with rfl | he
        · exact hlt
        · exact UInt8.lt_trans hlt (hf e he), h⟩
    · exact List.pairwise_cons.mpr ⟨fun e he => heq ▸ hf e he, hrest⟩
    · -- the new counter goes after `f`
      refine List.pairwise_cons.mpr ⟨fun e he => ?_, sorted_assignEntry hrest⟩
      rcases fst_mem_assignEntry k v ⟨e, he, rfl⟩ with hk | ⟨e', he', hx⟩
      · rw [hk]
        exact UInt8.lt_of_le_of_ne (UInt8.not_lt.mp hlt) (Ne.symm heq)
      · exact hx ▸ hf e' he'

lemma lookup_cons_of_ne {k' : CounterType} {l : List (CounterType × UInt64)} (h : k' ≠ k) :
    ((k, v) :: l).lookup k' = l.lookup k' := by
  rw [List.lookup_cons, beq_eq_false_iff_ne.mpr h]

/-- A lookup after an assignment sees the value assigned at its counter, the old one elsewhere. -/
lemma lookup_assignEntry (k' : CounterType) : ∀ {l : List (CounterType × UInt64)},
    (assignEntry k v l).lookup k' = if k' = k then some v else l.lookup k'
  | [] => by
    by_cases h : k' = k
    · subst h
      simp [assignEntry]
    · simp [assignEntry, lookup_cons_of_ne k v h, h]
  | f :: rest => by
    by_cases h : k' = k
    · rw [h, if_pos rfl]
      obtain ⟨fk, fv⟩ := f
      simp only [assignEntry]
      split_ifs with hlt heq
      · exact List.lookup_cons_self
      · exact List.lookup_cons_self
      · rw [lookup_cons_of_ne fk fv heq, lookup_assignEntry k, if_pos rfl]
    · obtain ⟨fk, fv⟩ := f
      simp only [if_neg h, assignEntry]
      split_ifs with hlt heq
      · rw [lookup_cons_of_ne k v h]
      · subst heq
        rw [lookup_cons_of_ne _ v h, lookup_cons_of_ne _ fv h]
      · by_cases hf : k' = fk
        · subst hf
          simp
        · rw [lookup_cons_of_ne _ fv hf, lookup_cons_of_ne _ fv hf, lookup_assignEntry k',
            if_neg h]

/-- A counter past every counter of the map goes at the end. -/
lemma assignEntry_of_lt : ∀ {l : List (CounterType × UInt64)}, (∀ e ∈ l, e.1 < k) →
    assignEntry k v l = l ++ [(k, v)]
  | [], _ => rfl
  | f :: rest, h => by
    have hf := h f List.mem_cons_self
    have hnlt : ¬k < f.1 := fun hk => UInt8.lt_irrefl _ (UInt8.lt_trans hk hf)
    have hne : k ≠ f.1 := fun hk => UInt8.lt_irrefl _ (hk ▸ hf)
    simp only [assignEntry, if_neg hnlt, if_neg hne, List.cons_append]
    rw [assignEntry_of_lt fun e he => h e (List.mem_cons_of_mem f he)]

end AssignEntry

end OffsetMap

/-- `OffsetMap`: the counters of `counterTypeMap_`, in key order. -/
structure OffsetMap where
  counterTypeMap_ : List (CounterType × UInt64)
  sorted : counterTypeMap_.Pairwise fun a b => a.1 < b.1

namespace OffsetMap

/-- An `OffsetMap` with no counter. -/
def empty : OffsetMap := ⟨[], List.Pairwise.nil⟩

/-- `OffsetMap::getCounter`. -/
def getCounter (m : OffsetMap) (counter_type : CounterType) : UInt64 :=
  (m.counterTypeMap_.lookup counter_type).getD BYTE_OFFSET_INVALID

/-- `counterTypeMap_[counter_type] = counter_val`. -/
def assign (m : OffsetMap) (counter_type : CounterType) (counter_val : UInt64) : OffsetMap :=
  ⟨assignEntry counter_type counter_val m.counterTypeMap_, sorted_assignEntry _ _ m.sorted⟩

/-- `OffsetMap::unsetCounter`. -/
def unsetCounter (m : OffsetMap) (counter_type : CounterType) : OffsetMap :=
  ⟨m.counterTypeMap_.filter (·.1 != counter_type), m.sorted.filter _⟩

/-- `OffsetMap::setCounter`. -/
def setCounter (m : OffsetMap) (counter_type : CounterType) (counter_val : UInt64) : OffsetMap :=
  if counter_val = BYTE_OFFSET_INVALID then m.unsetCounter counter_type
  else m.assign counter_type counter_val

/-- `OffsetMap::isValid`: some counter is set. -/
def isValid (m : OffsetMap) : Bool := !m.counterTypeMap_.isEmpty

/-- `OffsetMap::max`: for every counter of `om`, the larger of its value and this map's (0 where
this map has none). -/
def max (m om : OffsetMap) : OffsetMap :=
  om.counterTypeMap_.foldl
    (fun m e => m.assign e.1 (Max.max e.2 ((m.counterTypeMap_.lookup e.1).getD 0))) m

/-- `OffsetMap::fromLegacy`. -/
def fromLegacy (offset : UInt64) : OffsetMap := empty.setCounter BYTE_OFFSET offset

/-- `OffsetMap::serialize`. -/
def serialize (m : OffsetMap) : List UInt8 :=
  UInt8.ofNat m.counterTypeMap_.length ::
    m.counterTypeMap_.flatMap fun e => e.1 :: leBytes 8 e.2.toNat

/-- The loop of `OffsetMap::deserialize`: `n` more counters read from `bytes` into `m`. The bytes
left over, or `none` where a read runs past the end (the reader's error, which keeps the counters
read before it). -/
def deserializeFrom : ℕ → List UInt8 → OffsetMap → OffsetMap × Option (List UInt8)
  | 0, bytes, m => (m, some bytes)
  | _ + 1, [], m => (m, none)
  | n + 1, counter_type :: rest, m =>
    if 8 ≤ rest.length then
      deserializeFrom n (rest.drop 8) (m.assign counter_type (ofLeBytes (rest.take 8)).toUInt64)
    else (m, none)

/-- `OffsetMap::deserialize` into the map `m`: the count, then the counters. -/
def deserialize (m : OffsetMap) : List UInt8 → OffsetMap × Option (List UInt8)
  | [] => (m, none)
  | counter_map_size :: rest => deserializeFrom counter_map_size.toNat rest m

/-! ### Counters after `max` -/

/-- A counter below every counter of a list is not in it. -/
lemma lookup_eq_none_of_lt {k : CounterType} :
    ∀ {l : List (CounterType × UInt64)}, (∀ e ∈ l, k < e.1) → l.lookup k = none
  | [], _ => rfl
  | f :: rest, h => by
    have hne : k ≠ f.1 := fun hk => UInt8.lt_irrefl _ (hk ▸ h f List.mem_cons_self)
    rw [show f = (f.1, f.2) from rfl, lookup_cons_of_ne _ _ hne]
    exact lookup_eq_none_of_lt fun e he => h e (List.mem_cons_of_mem f he)

/-- The loop of `max` over counters of distinct types: each counter of the list takes the larger
value, the others keep theirs. -/
lemma lookup_foldl_max (k : CounterType) : ∀ (es : List (CounterType × UInt64)) (m : OffsetMap),
    es.Pairwise (fun a b => a.1 < b.1) →
    (es.foldl (fun m e => m.assign e.1 (Max.max e.2 ((m.counterTypeMap_.lookup e.1).getD 0))) m
      ).counterTypeMap_.lookup k =
      match es.lookup k with
      | some v => some (Max.max v ((m.counterTypeMap_.lookup k).getD 0))
      | none => m.counterTypeMap_.lookup k
  | [], _, _ => rfl
  | f :: rest, m, hsorted => by
    obtain ⟨hf, hrest⟩ := List.pairwise_cons.mp hsorted
    rw [List.foldl_cons, lookup_foldl_max k rest _ hrest]
    simp only [assign, lookup_assignEntry]
    by_cases hk : k = f.1
    · -- the counter of `f` is not among the later ones
      subst hk
      rw [lookup_eq_none_of_lt hf, if_pos rfl, show f = (f.1, f.2) from rfl, List.lookup_cons_self]
    · rw [if_neg hk, show f = (f.1, f.2) from rfl, lookup_cons_of_ne _ _ hk]

/-- After `max`, a counter of `om` holds the larger value, a counter only in `m` its own. -/
lemma lookup_max (m om : OffsetMap) (k : CounterType) :
    (m.max om).counterTypeMap_.lookup k =
      match om.counterTypeMap_.lookup k with
      | some v => some (Max.max v ((m.counterTypeMap_.lookup k).getD 0))
      | none => m.counterTypeMap_.lookup k :=
  lookup_foldl_max k om.counterTypeMap_ m om.sorted

/-! ### Reading back what `serialize` writes -/

/-- Counters past every counter read so far are appended as they are read. -/
lemma deserializeFrom_flatMap (rest : List UInt8) :
    ∀ (es : List (CounterType × UInt64)) (m : OffsetMap),
      es.Pairwise (fun a b => a.1 < b.1) → (∀ e ∈ m.counterTypeMap_, ∀ f ∈ es, e.1 < f.1) →
      ∃ m' : OffsetMap, m'.counterTypeMap_ = m.counterTypeMap_ ++ es ∧
        deserializeFrom es.length ((es.flatMap fun e => e.1 :: leBytes 8 e.2.toNat) ++ rest) m =
          (m', some rest)
  | [], m, _, _ => ⟨m, by simp, by simp [deserializeFrom]⟩
  | f :: es, m, hsorted, hlt => by
    obtain ⟨hf, hes⟩ := List.pairwise_cons.mp hsorted
    -- the value of `f` reads back from its eight bytes
    have hval : (ofLeBytes (leBytes 8 f.2.toNat)).toUInt64 = f.2 := by
      rw [ofLeBytes_leBytes, ← ofBeBytes_beBytes 8 f.2.toNat]
      exact ofBeBytes_beBytes_toNat f.2
    have hbytes : (leBytes 8 f.2.toNat ++ ((es.flatMap fun e => e.1 :: leBytes 8 e.2.toNat) ++ rest)).length
        ≥ 8 := by simp
    have happend : (m.assign f.1 f.2).counterTypeMap_ = m.counterTypeMap_ ++ [f] :=
      assignEntry_of_lt _ _ fun e he => hlt e he f List.mem_cons_self
    obtain ⟨m', hm', e⟩ := deserializeFrom_flatMap rest es (m.assign f.1 f.2) hes (by
      intro e he g hg
      rw [happend] at he
      rcases List.mem_append.mp he with he | he
      · exact hlt e he g (List.mem_cons_of_mem f hg)
      · rw [List.mem_singleton.mp he]
        exact hf g hg)
    refine ⟨m', by rw [hm', happend, List.append_assoc, List.singleton_append], ?_⟩
    simp only [List.flatMap_cons, List.length_cons, List.cons_append, List.append_assoc,
      deserializeFrom, if_pos hbytes, List.drop_left' (length_leBytes 8 _),
      List.take_left' (length_leBytes 8 _), hval]
    exact e

/-- What the reader leaves is the end of what it read from. -/
lemma deserializeFrom_suffix : ∀ {n : ℕ} {bytes rest : List UInt8} {m m' : OffsetMap},
    deserializeFrom n bytes m = (m', some rest) → rest <:+ bytes
  | 0, bytes, rest, m, m', h => by
    simp only [deserializeFrom, Prod.mk.injEq, Option.some.injEq] at h
    rw [← h.2]
  | _ + 1, [], _, _, _, h => by simp [deserializeFrom] at h
  | n + 1, counter_type :: bytes, rest, m, m', h => by
    simp only [deserializeFrom] at h
    split_ifs at h with hlen
    · -- past one counter: the type, then its eight bytes
      have hsuf : bytes.drop 8 <:+ counter_type :: bytes :=
        (List.drop_suffix 8 bytes).trans (List.suffix_cons counter_type bytes)
      exact (deserializeFrom_suffix h).trans hsuf
    · simp at h

lemma deserialize_suffix {m m' : OffsetMap} {bytes rest : List UInt8}
    (h : m.deserialize bytes = (m', some rest)) : rest <:+ bytes := by
  cases bytes with
  | nil => simp [deserialize] at h
  | cons counter_map_size bytes =>
    exact (deserializeFrom_suffix h).trans (List.suffix_cons counter_map_size bytes)

/-- A map of fewer than 256 counters reads back into an empty map as it was written. -/
lemma deserialize_serialize (m : OffsetMap) (h : m.counterTypeMap_.length < 256) (rest : List UInt8) :
    empty.deserialize (m.serialize ++ rest) = (m, some rest) := by
  obtain ⟨m', hm', e⟩ := deserializeFrom_flatMap rest m.counterTypeMap_ empty m.sorted
    (fun _ he => absurd he List.not_mem_nil)
  have hsize : (UInt8.ofNat m.counterTypeMap_.length).toNat = m.counterTypeMap_.length :=
    UInt8.toNat_ofNat_of_lt' h
  have hm : m' = m := by
    cases m'
    cases m
    simp only [empty, List.nil_append] at hm'
    simp [hm']
  simp only [serialize, List.cons_append, deserialize, hsize]
  rw [e, hm]

end OffsetMap

end LogDevice
