import LogDevice.RecordCache.EpochRecordCache
import LogDevice.Lib.Loop

/-!
# What every run of an epoch record cache keeps

The invariant of `EpochRecordCache` (`Invariant`): the record of esn `head_ + j` sits in element
`j`, below the largest esn seen; `buffer_entries_` and `buffer_payload_bytes_` count what the
buffer holds (`Counted`); a disabled cache holds nothing; the head has passed the first `lng` seen.
It holds of a new cache and every call keeps it, for capacities up to `2 ^ 31`, where every index
fits the `int` of `CircularBuffer::operator[]`.

The calls are taken apart into their pieces, each with its own lemma: the loops over the elements
(`foldl_evictAt`, and `disableCache`'s through it), the rotation (`CircularBuffer.slot_rotate`), and
the insertion of a record (`insertEntry`). The other fields of the cache are carried by
`BufferFrame`: a piece that changes only the buffer and its counters.
-/

namespace LogDevice.EpochRecordCache

open LocalLogStoreRecordFormat Lib

/-! ### Sequence numbers -/

lemma toNat_next_esn (esn : Esn) : (next_esn esn).toNat = min (esn.toNat + 1) ESN_MAX.toNat := by
  have hlt := esn.toNat_lt
  unfold next_esn
  split_ifs with h
  · subst h
    rfl
  · have hne : esn.toNat ≠ ESN_MAX.toNat := fun h' => h (UInt32.toNat_inj.mp h')
    rw [UInt32.toNat_add, ESN_MAX_toNat] at *
    simp only [UInt32.toNat_one]
    omega

variable (c : EpochRecordCache)

lemma capacity_pos : 0 < c.capacity :=
  Nat.lt_of_le_of_lt (Nat.zero_le _) c.buffer_.front_lt

/-- `maxESNToAccept()` is the esn of the last element, or `ESN_MAX` where that is past it, for
capacities that fit in 32 bits. -/
lemma toNat_maxESNToAccept (h : c.capacity ≤ 2 ^ 32) :
    c.maxESNToAccept.toNat = min (c.head_.toNat + c.capacity - 1) ESN_MAX.toNat := by
  have hhead := c.head_.toNat_lt
  have hpos := c.capacity_pos
  unfold maxESNToAccept
  simp only [UInt64.lt_iff_toNat_lt, UInt32.toNat_toUInt64, UInt64.toNat_add, UInt64.toNat_sub,
    Nat.toUInt64, UInt64.toNat_ofNat', UInt64.toNat_one, ESN_MAX_toNat]
  split_ifs with hlt
  · simp only [UInt64.toNat_toUInt32, UInt64.toNat_sub, UInt64.toNat_add, UInt32.toNat_toUInt64,
      UInt64.toNat_ofNat', UInt64.toNat_one]
    omega
  · simp only [ESN_MAX_toNat]
    omega

lemma getIndex_eq {esn : Esn} (h : c.head_ ≤ esn) : c.getIndex esn = esn.toNat - c.head_.toNat :=
  UInt32.toNat_sub_of_le _ _ h

/-! ### Pieces that change the buffer only -/

/-- `c'` is `c` with only the buffer, of the same size, and its counters changed. -/
def BufferFrame (c c' : EpochRecordCache) : Prop :=
  ∃ buffer entries payload_bytes, buffer.size_ = c.buffer_.size_ ∧ c' =
    { c with buffer_ := buffer, buffer_entries_ := entries, buffer_payload_bytes_ := payload_bytes }

namespace BufferFrame

variable {c} {c' c'' : EpochRecordCache}

lemma refl : BufferFrame c c := ⟨c.buffer_, c.buffer_entries_, c.buffer_payload_bytes_, rfl, rfl⟩

lemma trans (h₁ : BufferFrame c c') (h₂ : BufferFrame c' c'') : BufferFrame c c'' := by
  obtain ⟨b, n, m, hb, rfl⟩ := h₁
  obtain ⟨b', n', m', hb', rfl⟩ := h₂
  exact ⟨b', n', m', hb'.trans hb, rfl⟩

lemma removeEntry (i : ℕ) (e : EpochRecordCacheEntry) : BufferFrame c (c.removeEntry i e) :=
  ⟨_, _, _, CircularBuffer.size_set _ _ _, rfl⟩

lemma addEntry (i : ℕ) (e : EpochRecordCacheEntry) : BufferFrame c (c.addEntry i e) :=
  ⟨_, _, _, CircularBuffer.size_set _ _ _, rfl⟩

lemma capacity (h : BufferFrame c c') : c'.capacity = c.capacity := by
  obtain ⟨_, _, _, hb, rfl⟩ := h
  exact hb

lemma head (h : BufferFrame c c') : c'.head_ = c.head_ := by
  obtain ⟨_, _, _, _, rfl⟩ := h
  rfl

lemma disabled (h : BufferFrame c c') : c'.disabled_ = c.disabled_ := by
  obtain ⟨_, _, _, _, rfl⟩ := h
  rfl

lemma epoch (h : BufferFrame c c') : c'.epoch_ = c.epoch_ := by
  obtain ⟨_, _, _, _, rfl⟩ := h
  rfl

lemma max_seen (h : BufferFrame c c') : c'.max_seen_esn_ = c.max_seen_esn_ := by
  obtain ⟨_, _, _, _, rfl⟩ := h
  rfl

lemma first_seen (h : BufferFrame c c') : c'.first_seen_lng_ = c.first_seen_lng_ := by
  obtain ⟨_, _, _, _, rfl⟩ := h
  rfl

lemma tail_record (h : BufferFrame c c') : c'.tail_record_ = c.tail_record_ := by
  obtain ⟨_, _, _, _, rfl⟩ := h
  rfl

lemma isConsistent (h : BufferFrame c c') : c'.isConsistent = c.isConsistent := by
  obtain ⟨_, _, _, hb, rfl⟩ := h
  unfold EpochRecordCache.isConsistent EpochRecordCache.capacity
  dsimp only
  rw [hb]

end BufferFrame

/-- `buffer_entries_` and `buffer_payload_bytes_` count the entries the buffer holds and their
payload bytes. -/
structure Counted (c : EpochRecordCache) : Prop where
  entries : c.buffer_entries_ = c.buffer_.weight fun _ => 1
  payload_bytes : c.buffer_payload_bytes_ = c.buffer_.weight fun e => e.payload.length

namespace Counted

variable {c}

/-- Overwriting an element with a value of the same weights. -/
lemma set (h : Counted c) {i : ℕ} (hi : i < c.capacity) (hi' : i < 2 ^ 31)
    (v : Option EpochRecordCacheEntry) (hsame : (c.buffer_.slot i).isSome = v.isSome)
    (hbytes : (c.buffer_.slot i).map (·.payload.length) = v.map (·.payload.length)) :
    Counted { c with buffer_ := c.buffer_.set i v } := by
  have h₁ := c.buffer_.weight_set (fun _ => 1) hi hi' v
  have h₂ := c.buffer_.weight_set (fun e => e.payload.length) hi hi' v
  rw [hbytes] at h₂
  -- the same weights go out as come in
  have hone : ((c.buffer_.slot i).map fun _ => 1).getD 0 = (v.map fun _ => 1).getD 0 := by
    cases hs : c.buffer_.slot i <;> cases v <;> simp_all
  rw [hone] at h₁
  refine ⟨?_, ?_⟩
  · dsimp only
    rw [h.entries]
    omega
  · dsimp only
    rw [h.payload_bytes]
    omega

lemma removeEntry (h : Counted c) {i : ℕ} (hi : i < c.capacity) (hi' : i < 2 ^ 31)
    {e : EpochRecordCacheEntry} (he : c.buffer_.slot i = some e) :
    Counted (c.removeEntry i e) := by
  have h₁ := c.buffer_.weight_set (fun _ => 1) hi hi' none
  have h₂ := c.buffer_.weight_set (fun e => e.payload.length) hi hi' none
  rw [he] at h₁ h₂
  simp only [Option.map_some, Option.getD_some, Option.map_none, Option.getD_none] at h₁ h₂
  exact ⟨by simp only [EpochRecordCache.removeEntry, noteEntryRemoved]; rw [h.entries]; omega,
    by simp only [EpochRecordCache.removeEntry, noteEntryRemoved]; rw [h.payload_bytes]; omega⟩

lemma addEntry (h : Counted c) {i : ℕ} (hi : i < c.capacity) (hi' : i < 2 ^ 31)
    (e : EpochRecordCacheEntry) (hnone : c.buffer_.slot i = none) :
    Counted (c.addEntry i e) := by
  have h₁ := c.buffer_.weight_set (fun _ => 1) hi hi' (some e)
  have h₂ := c.buffer_.weight_set (fun e => e.payload.length) hi hi' (some e)
  rw [hnone] at h₁ h₂
  simp only [Option.map_some, Option.getD_some, Option.map_none, Option.getD_none] at h₁ h₂
  exact ⟨by simp only [EpochRecordCache.addEntry, noteEntryAdded]; rw [h.entries]; omega,
    by simp only [EpochRecordCache.addEntry, noteEntryAdded]; rw [h.payload_bytes]; omega⟩

end Counted

/-! ### The loops over the elements -/

/-- The state of the eviction loop of `advanceLNGImpl` after the elements below `k`: those emptied
and the others as they were, what they held appended to `disposal` in order, and the counters
kept. -/
structure EvictedBelow (c : EpochRecordCache) (disposal : List EpochRecordCacheEntry)
    (evicted : Bool) (k : ℕ) (s : EpochRecordCache × List EpochRecordCacheEntry × Bool) : Prop where
  frame : BufferFrame c s.1
  slot : ∀ j < c.capacity, s.1.buffer_.slot j = if j < k then none else c.buffer_.slot j
  disposal : s.2.1 = disposal ++ (List.range k).filterMap c.buffer_.slot
  evicted : s.2.2 = (evicted || !((List.range k).filterMap c.buffer_.slot).isEmpty)
  counted : Counted c → Counted s.1

/-- One turn of the eviction loop, on the element `k`. -/
lemma EvictedBelow.evictAt {disposal : List EpochRecordCacheEntry} {evicted : Bool} {k : ℕ}
    {s : EpochRecordCache × List EpochRecordCacheEntry × Bool} (hcap : c.capacity ≤ 2 ^ 31)
    (hk : k < c.capacity) (h : EvictedBelow c disposal evicted k s) :
    EvictedBelow c disposal evicted (k + 1) (evictAt s k) := by
  have hk' : k < s.1.capacity := h.frame.capacity ▸ hk
  have hget : s.1.buffer_.get k = c.buffer_.slot k := by
    rw [CircularBuffer.get_eq_slot _ hk' (by omega), h.slot k hk, if_neg (Nat.lt_irrefl k)]
  have hrange : List.range (k + 1) = List.range k ++ [k] := List.range_succ
  unfold EpochRecordCache.evictAt
  rw [hget]
  cases hslot : c.buffer_.slot k with
  | none =>
    -- nothing in element `k`: the state stays
    refine ⟨h.frame, fun j hj => ?_, ?_, ?_, h.counted⟩
    · rw [h.slot j hj]
      by_cases hjk : j = k
      · subst hjk
        simp [hslot]
      · simp only [show j < k + 1 ↔ j < k by omega]
    · rw [h.disposal, hrange, List.filterMap_append]
      simp [hslot]
    · rw [h.evicted, hrange, List.filterMap_append]
      simp [hslot]
  | some e =>
    -- the entry of element `k` counted out and moved to the end of `disposal`
    have hs : s.1.buffer_.slot k = some e := by rw [h.slot k hk, if_neg (Nat.lt_irrefl k), hslot]
    refine ⟨h.frame.trans (BufferFrame.removeEntry k e), fun j hj => ?_, ?_, ?_,
      fun hc => (h.counted hc).removeEntry hk' (by omega) hs⟩
    · simp only [EpochRecordCache.removeEntry]
      rw [CircularBuffer.slot_set _ hk' (by omega) (h.frame.capacity.symm ▸ hj : j < s.1.capacity),
        h.slot j hj]
      by_cases hjk : j = k
      · simp [hjk]
      · simp only [hjk, if_false, show j < k + 1 ↔ j < k by omega]
    · rw [h.disposal, hrange, List.filterMap_append]
      simp [hslot]
    · simp [hrange, List.filterMap_append, hslot]

/-- The eviction loop over the elements `0, …, n - 1`. -/
lemma foldl_evictAt (hcap : c.capacity ≤ 2 ^ 31) {n : ℕ} (hn : n ≤ c.capacity)
    (disposal : List EpochRecordCacheEntry) (evicted : Bool) :
    EvictedBelow c disposal evicted n ((List.range n).foldl evictAt (c, disposal, evicted)) := by
  refine foldl_range_invariant (EvictedBelow c disposal evicted) evictAt n
    (fun i hi s h => h.evictAt c hcap (by omega)) _ ?_
  exact ⟨BufferFrame.refl, fun j _ => by simp, by simp, by simp, id⟩

/-- The loop of `disableCache` is the eviction loop without its `disposal`. -/
lemma foldl_clearAt (l : List ℕ) (disposal : List EpochRecordCacheEntry) (evicted : Bool) :
    l.foldl clearAt c = (l.foldl evictAt (c, disposal, evicted)).1 := by
  refine foldl_lockstep (fun c s => c = s.1) clearAt evictAt ?_ l c (c, disposal, evicted) rfl
  rintro c' s k rfl
  unfold clearAt EpochRecordCache.evictAt
  cases s.1.buffer_.get k <;> rfl

/-! ### The invariant -/

/-- What every reachable cache keeps: the record of esn `head_ + j` in element `j`, no further than
the largest esn seen, which is itself below the end of the buffer; the counters; nothing held once
disabled; and the head past the first `lng` seen (`CacheHeader::isValid`), or equal to it at
`ESN_INVALID` (nothing seen) and at `ESN_MAX`. -/
structure Invariant (c : EpochRecordCache) : Prop where
  capacity_le : c.capacity ≤ 2 ^ 31
  slot_esn : ∀ j < c.capacity, ∀ e, c.buffer_.slot j = some e →
    (lsn_to_esn e.lsn).toNat = c.head_.toNat + j
  slot_max_seen : ∀ j < c.capacity, c.buffer_.slot j ≠ none →
    c.head_.toNat + j ≤ c.max_seen_esn_.toNat
  head_of_slot : ∀ j < c.capacity, c.buffer_.slot j ≠ none → c.head_ ≠ ESN_INVALID
  max_seen_lt : c.max_seen_esn_.toNat < c.head_.toNat + c.capacity
  head_of_max_seen : c.max_seen_esn_ ≠ ESN_INVALID → c.head_ ≠ ESN_INVALID
  first_seen : c.first_seen_lng_.toNat < c.head_.toNat ∨
    c.first_seen_lng_ = c.head_ ∧ (c.head_ = ESN_INVALID ∨ c.head_ = ESN_MAX)
  counted : Counted c
  disabled_empty : c.disabled_ = true → ∀ j < c.capacity, c.buffer_.slot j = none
  disabled_tail : c.disabled_ = true → c.tail_record_ = TailRecord.empty

section Init

variable (log_id : UInt64) (epoch : Epoch) {capacity : ℕ} (hcapacity : 0 < capacity)
  (tail_optimized : TailOptimized) (stored : StoredBefore)

lemma slot_init (j : ℕ) :
    (init log_id epoch capacity hcapacity tail_optimized stored).buffer_.slot j = none := rfl

lemma weight_init (w : EpochRecordCacheEntry → ℕ) :
    (init log_id epoch capacity hcapacity tail_optimized stored).buffer_.weight w = 0 :=
  Finset.sum_eq_zero fun _ _ => rfl

lemma invariant_init (hcapacity' : capacity ≤ 2 ^ 31) :
    Invariant (init log_id epoch capacity hcapacity tail_optimized stored) where
  capacity_le := hcapacity'
  slot_esn := fun j _ _ h => by rw [slot_init] at h; cases h
  slot_max_seen := fun j _ h => absurd (slot_init _ _ _ _ _ j) h
  head_of_slot := fun j _ h => absurd (slot_init _ _ _ _ _ j) h
  max_seen_lt := by
    change (0 : UInt32).toNat < (0 : UInt32).toNat + capacity
    simpa using hcapacity
  head_of_max_seen := fun h => absurd rfl h
  first_seen := .inr ⟨rfl, .inl rfl⟩
  counted := ⟨(weight_init _ _ _ _ _ _).symm, (weight_init _ _ _ _ _ _).symm⟩
  disabled_empty := fun h => absurd h Bool.false_ne_true
  disabled_tail := fun h => absurd h Bool.false_ne_true

end Init

namespace Invariant

variable {c}

/-- A held record's esn is at most `maxESNToAccept()`. -/
lemma slot_le_maxESNToAccept (h : Invariant c) {j : ℕ} (hj : j < c.capacity) {e}
    (he : c.buffer_.slot j = some e) : c.head_.toNat + j ≤ c.maxESNToAccept.toNat := by
  have hesn := h.slot_esn j hj e he
  have hlt := (lsn_to_esn e.lsn).toNat_lt
  rw [c.toNat_maxESNToAccept (by have := h.capacity_le; omega), ESN_MAX_toNat]
  omega

end Invariant

/-! ### Advancing the head -/

/-- The records `advanceLNGImpl` evicts for `lng`: those of the elements up to
`getIndex(min(maxESNToAccept(), lng))`, in order. -/
def evictedUpTo (lng : Esn) : List EpochRecordCacheEntry :=
  (List.range (c.getIndex (min c.maxESNToAccept lng) + 1)).filterMap c.buffer_.slot

/-- The records the cache holds, by element. -/
def cached : List EpochRecordCacheEntry :=
  (List.range c.capacity).filterMap c.buffer_.slot

/-- What `advanceLNGImpl` leaves from a valid head at or below `lng`: the head past `lng`, the
elements up to `lng` emptied and the buffer rotated by the head's move, the last evicted record the
tail record, and the rest of the cache as it was. -/
structure Advanced (c : EpochRecordCache) (lng : Esn) (c' : EpochRecordCache) : Prop where
  capacity : c'.capacity = c.capacity
  head : c'.head_ = next_esn lng
  slot : ∀ j < c.capacity,
    c'.buffer_.slot j =
      let k := (j + (next_esn lng - c.head_).toNat) % c.capacity
      if k < c.getIndex (min c.maxESNToAccept lng) + 1 then none else c.buffer_.slot k
  counted : Counted c → Counted c'
  epoch : c'.epoch_ = c.epoch_
  max_seen : c'.max_seen_esn_ = c.max_seen_esn_
  first_seen : c'.first_seen_lng_ = c.first_seen_lng_
  disabled : c'.disabled_ = c.disabled_
  tail_none : c.evictedUpTo lng = [] → c'.tail_record_ = c.tail_record_
  tail_some : ∀ t, (c.evictedUpTo lng).getLast? = some t →
    c'.tail_record_ = (c.updateTailRecord t).tail_record_

lemma BufferFrame.updateTailRecord {c' : EpochRecordCache} (h : BufferFrame c c')
    (t : EpochRecordCacheEntry) :
    (c'.updateTailRecord t).tail_record_ = (c.updateTailRecord t).tail_record_ := by
  obtain ⟨_, _, _, _, rfl⟩ := h
  rfl

/-- `c'` is `c` with only the tail record changed. -/
def TailFrame (c c' : EpochRecordCache) : Prop :=
  ∃ tail_record, c' = { c with tail_record_ := tail_record }

lemma TailFrame.refl : TailFrame c c := ⟨c.tail_record_, rfl⟩

lemma TailFrame.updateTailRecord (t : EpochRecordCacheEntry) : TailFrame c (c.updateTailRecord t) :=
  ⟨_, rfl⟩

/-- The elements up to `getIndex(min(maxESNToAccept(), lng))` are all in the buffer. -/
lemma getIndex_min_lt (h : Invariant c) {lng : Esn} (hlng : c.head_ ≤ lng) :
    c.getIndex (min c.maxESNToAccept lng) < c.capacity := by
  have hmax := c.toNat_maxESNToAccept (by have := h.capacity_le; omega)
  have hpos := c.capacity_pos
  have hhead := c.head_.toNat_lt
  have hle : c.head_ ≤ min c.maxESNToAccept lng := by
    rw [UInt32.le_iff_toNat_le, UInt32.toNat_min, hmax]
    rw [UInt32.le_iff_toNat_le] at hlng
    simp only [ESN_MAX_toNat]
    omega
  rw [c.getIndex_eq hle, UInt32.toNat_min, hmax]
  omega

/-- The eviction loop followed by the rotation and the new head, then a change of the tail record
only: what `Advanced` says of the cache, given what happens to the tail record. -/
lemma advanced_of_evicted {lng : Esn} {c₁ c' : EpochRecordCache} {ev : Bool}
    (hr : EvictedBelow c [] false (c.getIndex (min c.maxESNToAccept lng) + 1)
      (c₁, c.evictedUpTo lng, ev))
    (hc' : TailFrame
      { c₁ with buffer_ := c₁.buffer_.rotate (next_esn lng - c.head_).toNat, head_ := next_esn lng }
      c')
    (htail_none : c.evictedUpTo lng = [] → c'.tail_record_ = c.tail_record_)
    (htail_some : ∀ t, (c.evictedUpTo lng).getLast? = some t →
      c'.tail_record_ = (c.updateTailRecord t).tail_record_) :
    Advanced c lng c' := by
  obtain ⟨_, rfl⟩ := hc'
  have hcap₁ := hr.frame.capacity
  refine ⟨hcap₁, rfl, fun j hj => ?_, fun hc => ?_, hr.frame.epoch, hr.frame.max_seen,
    hr.frame.first_seen, hr.frame.disabled, htail_none, htail_some⟩
  · -- element `j` of the rotated buffer is element `(j + d) % capacity` of the evicted one
    dsimp only
    rw [CircularBuffer.slot_rotate, show c₁.buffer_.size_ = c.capacity from hcap₁]
    exact hr.slot _ (Nat.mod_lt _ c.capacity_pos)
  · exact ⟨(hr.counted hc).entries, (hr.counted hc).payload_bytes⟩

/-- The end of `advanceLNGImpl`, after the eviction loop. -/
lemma moveHead_advanced {lng : Esn} {c₁ : EpochRecordCache} {ev : Bool}
    (hr : EvictedBelow c [] false (c.getIndex (min c.maxESNToAccept lng) + 1)
      (c₁, c.evictedUpTo lng, ev)) :
    Advanced c lng (c₁.moveHead c.head_ (next_esn lng) (c.evictedUpTo lng) ev) := by
  have hev : ev = !(c.evictedUpTo lng).isEmpty := hr.evicted.trans (Bool.false_or _)
  -- whether a record was evicted decides the tail record
  by_cases hne : c.evictedUpTo lng = []
  · have hev' : ev = false := by rw [hev, hne]; rfl
    simp only [moveHead, hev', Bool.false_eq_true, ↓reduceIte]
    exact c.advanced_of_evicted hr (TailFrame.refl _) (fun _ => hr.frame.tail_record)
      (fun t ht => by simp [hne] at ht)
  · have hev' : ev = true := by rw [hev, List.isEmpty_eq_false_iff.mpr hne]; rfl
    obtain ⟨t, hlast⟩ := Option.ne_none_iff_exists'.mp (mt List.getLast?_eq_none_iff.mp hne)
    simp only [moveHead, hev', hlast, ↓reduceIte]
    refine c.advanced_of_evicted hr (TailFrame.updateTailRecord _ t) (fun hnil => absurd hnil hne)
      fun t' ht' => ?_
    rw [hlast, Option.some.injEq] at ht'
    subst ht'
    exact BufferFrame.updateTailRecord c hr.frame t

/-- The eviction loop of `advanceLNGImpl` from a valid head at or below `lng` hands back the records
of `evictedUpTo`. -/
lemma evictAt_loop (h : Invariant c) {lng : Esn} (hlng : c.head_ ≤ lng) :
    ∃ c₁ ev, (List.range (c.getIndex (min c.maxESNToAccept lng) + 1)).foldl evictAt (c, [], false) =
        (c₁, c.evictedUpTo lng, ev) ∧
      EvictedBelow c [] false (c.getIndex (min c.maxESNToAccept lng) + 1) (c₁, c.evictedUpTo lng, ev) := by
  have hr := c.foldl_evictAt h.capacity_le
    (show c.getIndex (min c.maxESNToAccept lng) + 1 ≤ c.capacity from c.getIndex_min_lt h hlng) [] false
  generalize (List.range (c.getIndex (min c.maxESNToAccept lng) + 1)).foldl evictAt
    (c, [], false) = r at hr ⊢
  obtain ⟨c₁, D, ev⟩ := r
  have hD : D = c.evictedUpTo lng := hr.disposal.trans (List.nil_append _)
  rw [hD] at hr
  exact ⟨c₁, ev, by rw [hD], hr⟩

/-- `advanceLNGImpl` from a valid head at or below `lng`, with the outcome `r` of its eviction loop
named. -/
lemma advanceLNGImpl_of_le {lng : Esn} (hhead : c.head_ ≠ ESN_INVALID) (hlng : c.head_ ≤ lng)
    {r : EpochRecordCache × List EpochRecordCacheEntry × Bool}
    (hr : (List.range (c.getIndex (min c.maxESNToAccept lng) + 1)).foldl evictAt (c, [], false) = r) :
    c.advanceLNGImpl c.head_ lng [] =
      (r.1.moveHead c.head_ (next_esn lng) r.2.1 r.2.2, r.2.1,
        if c.isConsistent then [⟨compose_lsn c.epoch_ c.head_, compose_lsn c.epoch_ lng, r.2.1⟩]
        else []) := by
  subst hr
  rw [advanceLNGImpl, if_pos hhead, if_pos hlng]

lemma head_le_next_esn {head lng : Esn} (hlng : head ≤ lng) : head.toNat ≤ (next_esn lng).toNat := by
  have hlt := lng.toNat_lt
  rw [toNat_next_esn, ESN_MAX_toNat]
  rw [UInt32.le_iff_toNat_le] at hlng
  omega

lemma next_esn_ne_invalid (lng : Esn) : next_esn lng ≠ ESN_INVALID := by
  intro h
  have h' := congrArg UInt32.toNat h
  rw [toNat_next_esn, ESN_MAX_toNat] at h'
  simp [ESN_INVALID] at h'

namespace Advanced

variable {c} {lng : Esn} {c' : EpochRecordCache}

/-- A record held after the advance was held before, in the element of the same esn, which is
past `lng`. -/
lemma slot_eq_some (h : Invariant c) (ha : Advanced c lng c')
    (hlng : c.head_ ≤ lng) {j : ℕ} (hj : j < c.capacity) {e : EpochRecordCacheEntry}
    (he : c'.buffer_.slot j = some e) :
    ∃ k < c.capacity, c.buffer_.slot k = some e ∧ c.head_.toNat + k = c'.head_.toNat + j ∧
      lng.toNat < c.head_.toNat + k := by
  have hpos := c.capacity_pos
  rw [ha.slot j hj] at he
  generalize hk : (j + (next_esn lng - c.head_).toNat) % c.capacity = k at he
  have hk_lt : k < c.capacity := hk ▸ Nat.mod_lt _ hpos
  dsimp only at he
  split_ifs at he with hku
  -- the element held `e` and was past the evicted ones
  have hesn := h.slot_esn k hk_lt e he
  have hmax := h.slot_le_maxESNToAccept hk_lt he
  have hmaxdef := c.toNat_maxESNToAccept (by have := h.capacity_le; omega)
  have hle : c.head_ ≤ min c.maxESNToAccept lng := by
    rw [UInt32.le_iff_toNat_le, UInt32.toNat_min, hmaxdef]
    rw [UInt32.le_iff_toNat_le] at hlng
    have := c.head_.toNat_lt
    simp only [ESN_MAX_toNat]
    omega
  rw [c.getIndex_eq hle, UInt32.toNat_min] at hku
  have hnext := toNat_next_esn lng
  have hd : (next_esn lng - c.head_).toNat = (next_esn lng).toNat - c.head_.toNat :=
    UInt32.toNat_sub_of_le _ _ (UInt32.le_iff_toNat_le.mpr (head_le_next_esn hlng))
  rw [hd] at hk
  rw [UInt32.le_iff_toNat_le] at hlng
  -- `omega` must not see `maxESNToAccept`, which it would try to evaluate
  rw [hmaxdef] at hmax hku
  simp only [ESN_MAX_toNat] at hmax hku hnext
  clear hmaxdef hle
  -- so the head moved by no more than `k`, and element `j` did not wrap round
  have hdk : (next_esn lng).toNat - c.head_.toNat ≤ k := by clear hk; omega
  have hkj := Lib.eq_add_of_add_mod_eq hj hk_lt hdk hk
  clear hk
  refine ⟨k, hk_lt, he, ?_, by omega⟩
  rw [ha.head]
  omega

/-- A record held past `lng` is still held after the advance, in the element of its esn. -/
lemma slot_of_lt (h : Invariant c) (ha : Advanced c lng c') (hlng : c.head_ ≤ lng) {k : ℕ}
    (hk : k < c.capacity) {e : EpochRecordCacheEntry} (he : c.buffer_.slot k = some e)
    (hlt : lng.toNat < c.head_.toNat + k) :
    c'.head_.toNat ≤ c.head_.toNat + k ∧
      c'.buffer_.slot (c.head_.toNat + k - c'.head_.toNat) = some e := by
  have hmax := h.slot_le_maxESNToAccept hk he
  have hmaxdef := c.toNat_maxESNToAccept (by have := h.capacity_le; omega)
  have hnext := toNat_next_esn lng
  have hle : c.head_ ≤ min c.maxESNToAccept lng := by
    rw [UInt32.le_iff_toNat_le, UInt32.toNat_min, hmaxdef]
    rw [UInt32.le_iff_toNat_le] at hlng
    have := c.head_.toNat_lt
    simp only [ESN_MAX_toNat]
    omega
  have hidx := c.getIndex_eq hle
  have hd : (next_esn lng - c.head_).toNat = (next_esn lng).toNat - c.head_.toNat :=
    UInt32.toNat_sub_of_le _ _ (UInt32.le_iff_toNat_le.mpr (head_le_next_esn hlng))
  rw [UInt32.toNat_min] at hidx
  rw [UInt32.le_iff_toNat_le] at hlng
  rw [hmaxdef] at hmax hidx
  simp only [ESN_MAX_toNat] at hmax hidx hnext
  clear hmaxdef hle
  -- `lng` is below `ESN_MAX`, so the head is now just past it
  have hhead' : c'.head_.toNat = lng.toNat + 1 := by rw [ha.head]; omega
  refine ⟨by omega, ?_⟩
  have hj : c.head_.toNat + k - c'.head_.toNat < c.capacity := by omega
  rw [ha.slot _ hj, hd, hidx]
  dsimp only
  rw [← ha.head, hhead', show c.head_.toNat + k - (lng.toNat + 1) + (lng.toNat + 1 - c.head_.toNat) = k
    by omega, Nat.mod_eq_of_lt hk, if_neg (by omega)]
  exact he

end Advanced

/-- An advance from a valid head at or below `lng` of a cache that is not disabled keeps the
invariant. -/
lemma Invariant.advanced {c : EpochRecordCache} (h : Invariant c) {lng : Esn} {c' : EpochRecordCache}
    (hhead : c.head_ ≠ ESN_INVALID) (hlng : c.head_ ≤ lng) (hdis : c.disabled_ = false)
    (ha : Advanced c lng c') : Invariant c' := by
  have hmove := head_le_next_esn hlng
  have hne := next_esn_ne_invalid lng
  have hcap := ha.capacity
  rw [← ha.head] at hmove hne
  have hdis' : c'.disabled_ ≠ true := by rw [ha.disabled, hdis]; exact Bool.false_ne_true
  refine ⟨hcap ▸ h.capacity_le, fun j hj e he => ?_, fun j hj hs => ?_, fun _ _ _ => hne, ?_,
    fun _ => hne, ?_, ha.counted h.counted, fun hd => absurd hd hdis', fun hd => absurd hd hdis'⟩
  · rw [hcap] at hj
    obtain ⟨k, hk, hke, hkj, -⟩ := ha.slot_eq_some h hlng hj he
    rw [h.slot_esn k hk e hke, hkj]
  · rw [hcap] at hj
    obtain ⟨e, he⟩ := Option.ne_none_iff_exists'.mp hs
    obtain ⟨k, hk, hke, hkj, -⟩ := ha.slot_eq_some h hlng hj he
    have := h.slot_max_seen k hk (by rw [hke]; exact Option.some_ne_none e)
    rw [ha.max_seen]
    omega
  · have := h.max_seen_lt
    rw [ha.max_seen, hcap]
    omega
  · -- the first `lng` seen stays behind the head, or both stay at `ESN_MAX`
    rw [ha.first_seen]
    rcases h.first_seen with hlt | ⟨heq, hinv | hmax⟩
    · exact .inl (by omega)
    · exact absurd hinv hhead
    · right
      have hlng' : lng = ESN_MAX := by
        have := lng.toNat_lt
        rw [UInt32.le_iff_toNat_le, hmax, ESN_MAX_toNat] at hlng
        exact UInt32.toNat_inj.mp (by rw [ESN_MAX_toNat]; omega)
      rw [ha.head, hlng', heq, hmax]
      exact ⟨by simp [next_esn], .inr (by simp [next_esn])⟩

namespace Invariant

variable {c}

/-- A cache with the invalid head holds nothing. -/
lemma slot_of_head_invalid (h : Invariant c) (hhead : c.head_ = ESN_INVALID) {j : ℕ}
    (hj : j < c.capacity) : c.buffer_.slot j = none :=
  Classical.byContradiction fun hs => h.head_of_slot j hj hs hhead

/-- The first `lng` seen by a cache with the invalid head sets the head past it. -/
lemma first_lng (h : Invariant c) (hhead : c.head_ = ESN_INVALID) (lng : Esn) :
    Invariant { c with head_ := next_esn lng, first_seen_lng_ := lng } := by
  have hmax : c.max_seen_esn_ = ESN_INVALID :=
    Classical.byContradiction fun hm => h.head_of_max_seen hm hhead
  have hnext := toNat_next_esn lng
  have hlt := lng.toNat_lt
  have hpos := c.capacity_pos
  refine ⟨h.capacity_le, fun j hj e he => ?_, fun j hj hs => absurd (h.slot_of_head_invalid hhead hj) hs,
    fun _ _ _ => next_esn_ne_invalid lng, ?_, fun _ => next_esn_ne_invalid lng, ?_,
    ⟨h.counted.entries, h.counted.payload_bytes⟩, h.disabled_empty, h.disabled_tail⟩
  · have hnone : c.buffer_.slot j = none := h.slot_of_head_invalid hhead hj
    simp [hnone] at he
  · show c.max_seen_esn_.toNat < (next_esn lng).toNat + c.capacity
    rw [hmax]
    simp only [ESN_INVALID, UInt32.toNat_zero]
    omega
  · -- `lng` is behind the new head, unless both are `ESN_MAX`
    dsimp only
    by_cases hlng : lng = ESN_MAX
    · exact .inr ⟨by simp [hlng, next_esn], .inr (by simp [hlng, next_esn])⟩
    · have hne : lng.toNat ≠ ESN_MAX.toNat := fun h' => hlng (UInt32.toNat_inj.mp h')
      simp only [ESN_MAX_toNat] at hne hnext
      exact .inl (by omega)

end Invariant

/-- What `advanceLNGImpl` from the current head can do: set the head past the first `lng` seen,
advance the head past `lng` and hand back what it evicted, or nothing where `lng` is behind the
head. -/
inductive AdvanceCase (c : EpochRecordCache) (lng : Esn) :
    EpochRecordCache × List EpochRecordCacheEntry × List Released → Prop
  | first : c.head_ = ESN_INVALID →
    AdvanceCase c lng ({ c with head_ := next_esn lng, first_seen_lng_ := lng }, [], [])
  | advanced {c' : EpochRecordCache} : c.head_ ≠ ESN_INVALID → c.head_ ≤ lng → Advanced c lng c' →
    AdvanceCase c lng (c', c.evictedUpTo lng,
      if c.isConsistent then
        [⟨compose_lsn c.epoch_ c.head_, compose_lsn c.epoch_ lng, c.evictedUpTo lng⟩]
      else [])
  | behind : c.head_ ≠ ESN_INVALID → lng < c.head_ → AdvanceCase c lng (c, [], [])

lemma advanceLNGImpl_case (h : Invariant c) (lng : Esn) :
    AdvanceCase c lng (c.advanceLNGImpl c.head_ lng []) := by
  by_cases hhead : c.head_ = ESN_INVALID
  · have hr : c.advanceLNGImpl c.head_ lng [] =
        ({ c with head_ := next_esn lng, first_seen_lng_ := lng }, [], []) := by
      rw [advanceLNGImpl, if_neg (not_not.mpr hhead)]
    rw [hr]
    exact .first hhead
  · by_cases hlng : c.head_ ≤ lng
    · obtain ⟨c₁, ev, hfold, hr⟩ := c.evictAt_loop h hlng
      rw [c.advanceLNGImpl_of_le hhead hlng hfold]
      dsimp only
      exact .advanced hhead hlng (c.moveHead_advanced hr)
    · have hr : c.advanceLNGImpl c.head_ lng [] = (c, [], []) := by
        rw [advanceLNGImpl, if_pos hhead, if_neg hlng]
      rw [hr]
      exact .behind hhead (UInt32.not_le.mp hlng)

/-- What `advanceLNGImpl` from the current head of a cache that is not disabled leaves, whichever
branch it takes: the invariant, a valid head past `lng` or at `ESN_MAX` and never behind the old
one, and the cache still enabled, of the same epoch. -/
structure LNGAdvanced (c : EpochRecordCache) (lng : Esn) (c' : EpochRecordCache) : Prop where
  invariant : Invariant c'
  capacity : c'.capacity = c.capacity
  head_valid : c'.head_ ≠ ESN_INVALID
  past_lng : lng.toNat < c'.head_.toNat ∨ c'.head_ = ESN_MAX
  head_le : c.head_.toNat ≤ c'.head_.toNat
  disabled : c'.disabled_ = false
  epoch : c'.epoch_ = c.epoch_

/-- The head past `lng`, as `next_esn` leaves it. -/
lemma past_next_esn (lng : Esn) : lng.toNat < (next_esn lng).toNat ∨ next_esn lng = ESN_MAX := by
  by_cases hlng : lng = ESN_MAX
  · exact .inr (by simp [hlng, next_esn])
  · have hne : lng.toNat ≠ ESN_MAX.toNat := fun h' => hlng (UInt32.toNat_inj.mp h')
    have hnext := toNat_next_esn lng
    have hlt := lng.toNat_lt
    simp only [ESN_MAX_toNat] at hne hnext
    exact .inl (by omega)

lemma advanceLNGImpl_invariant (h : Invariant c) (hdis : c.disabled_ = false) (lng : Esn) :
    LNGAdvanced c lng (c.advanceLNGImpl c.head_ lng []).1 := by
  have hcase := c.advanceLNGImpl_case h lng
  generalize c.advanceLNGImpl c.head_ lng [] = r at hcase ⊢
  cases hcase with
  | first hhead =>
    -- the first `lng` seen
    exact ⟨h.first_lng hhead lng, rfl, next_esn_ne_invalid lng, past_next_esn lng,
      by rw [hhead]; exact Nat.zero_le _, hdis, rfl⟩
  | advanced hhead hlng ha =>
    refine ⟨h.advanced hhead hlng hdis ha, ha.capacity, ha.head ▸ next_esn_ne_invalid lng,
      ha.head ▸ past_next_esn lng, ha.head ▸ head_le_next_esn hlng, ha.disabled.trans hdis, ha.epoch⟩
  | behind hhead hlng =>
    -- `lng` is behind the head: nothing moves
    rw [UInt32.lt_iff_toNat_lt] at hlng
    exact ⟨h, rfl, hhead, .inl hlng, le_rfl, hdis, rfl⟩

/-! ### Inserting a record -/

/-- What `insertEntry` leaves in the element of a record that held `old`: the entry there where it
has higher precedence, that entry amended for an `AMEND`, and the record otherwise. -/
def putSlot (old : Option EpochRecordCacheEntry) (entry : EpochRecordCacheEntry) :
    Option EpochRecordCacheEntry :=
  match old with
  | some old_entry =>
    if getRecordMetadata entry < getRecordMetadata old_entry then some old_entry
    else if entry.flags &&& STORE_Header.AMEND != 0 then some (amendExistingEntry old_entry entry)
    else some entry
  | none => some entry

lemma putSlot_ne_none (old : Option EpochRecordCacheEntry) (entry : EpochRecordCacheEntry) :
    putSlot old entry ≠ none := by
  cases old with
  | none => exact Option.some_ne_none _
  | some o =>
    simp only [putSlot]
    split_ifs <;> exact Option.some_ne_none _

/-- The record an element keeps is the one put, or the one there with its LSN. -/
lemma lsn_of_putSlot {old : Option EpochRecordCacheEntry} {entry e : EpochRecordCacheEntry}
    (h : putSlot old entry = some e) : e.lsn = entry.lsn ∨ ∃ o, old = some o ∧ e.lsn = o.lsn := by
  cases old with
  | none =>
    simp only [putSlot, Option.some.injEq] at h
    exact .inl (h ▸ rfl)
  | some o =>
    simp only [putSlot] at h
    split_ifs at h <;> cases h
    · exact .inr ⟨_, rfl, rfl⟩
    · exact .inr ⟨_, rfl, rfl⟩
    · exact .inl rfl

/-- `noteSeen` raises the maxima seen and changes the offsets, and nothing else. -/
lemma noteSeen_eq (rid : RecordID) (timestamp : UInt64) (offsets : OffsetMap) :
    ∃ o, c.noteSeen rid timestamp offsets =
      { c with
        max_seen_esn_ := max c.max_seen_esn_ rid.esn
        max_seen_timestamp_ := max c.max_seen_timestamp_ timestamp
        offsets_within_epoch_ := o } := by
  unfold noteSeen setOffsetsWithinEpoch
  split_ifs
  · exact ⟨_, rfl⟩
  · exact ⟨c.offsets_within_epoch_, rfl⟩

/-- What `insertEntry` does after `noteSeen`, to the element `i` of the record: the element becomes
`putSlot` of what it held, with the counters following, and the rest of the cache stays. -/
structure Inserted (c : EpochRecordCache) (i : ℕ) (entry : EpochRecordCacheEntry)
    (c' : EpochRecordCache) : Prop where
  frame : BufferFrame c c'
  slot : ∀ j < c.capacity,
    c'.buffer_.slot j = if j = i then putSlot (c.buffer_.slot i) entry else c.buffer_.slot j
  counted : Counted c → Counted c'

/-- The three ways the element of the record changes, from what it held. -/
lemma inserted_of_slot {c₀ : EpochRecordCache} {i : ℕ} (hi : i < c₀.capacity) (hi' : i < 2 ^ 31)
    (entry : EpochRecordCacheEntry) :
    Inserted c₀ i entry
      (match c₀.buffer_.get i with
        | some old_entry =>
          if getRecordMetadata entry < getRecordMetadata old_entry then c₀
          else if entry.flags &&& STORE_Header.AMEND != 0 then
            { c₀ with buffer_ := c₀.buffer_.set i (some (amendExistingEntry old_entry entry)) }
          else (c₀.removeEntry i old_entry).addEntry i entry
        | none => c₀.addEntry i entry) := by
  have hslot_set := fun (v : Option EpochRecordCacheEntry) (j : ℕ) (hj : j < c₀.capacity) =>
    c₀.buffer_.slot_set hi hi' hj v
  rw [CircularBuffer.get_eq_slot _ hi hi']
  cases hs : c₀.buffer_.slot i with
  | none =>
    -- an empty element takes the record
    refine ⟨BufferFrame.addEntry i entry, fun j hj => ?_, fun hc => hc.addEntry hi hi' entry hs⟩
    rw [EpochRecordCache.addEntry, hslot_set _ j hj, hs]
    rfl
  | some old =>
    simp only
    split_ifs with hlt hamend
    · -- the entry there has higher precedence and stays
      refine ⟨BufferFrame.refl, fun j _ => ?_, id⟩
      split_ifs with hji
      · rw [hji, hs]
        simp [putSlot, hlt]
      · rfl
    · -- the entry there amended in place: its payload, and so the counters, stay
      refine ⟨⟨_, _, _, CircularBuffer.size_set _ _ _, rfl⟩, fun j hj => ?_,
        fun hc => hc.set hi hi' _ (by rw [hs]; rfl) (by rw [hs]; rfl)⟩
      rw [hslot_set _ j hj, hs]
      simp [putSlot, hlt, hamend]
    · -- the entry there replaced: counted out, then the record counted in
      have hrem : (c₀.removeEntry i old).buffer_.slot i = none := by
        rw [EpochRecordCache.removeEntry, hslot_set none i hi, if_pos rfl]
      refine ⟨(BufferFrame.removeEntry i old).trans (BufferFrame.addEntry i entry), fun j hj => ?_,
        fun hc => (hc.removeEntry hi hi' hs).addEntry hi hi' entry hrem⟩
      have hj' : j < (c₀.removeEntry i old).capacity := hj
      have hi₁ : i < (c₀.removeEntry i old).buffer_.size_ := hi
      rw [EpochRecordCache.addEntry, CircularBuffer.slot_set _ hi₁ hi' hj', EpochRecordCache.removeEntry,
        hslot_set none j hj]
      split_ifs with hji
      · simp [putSlot, hs, hlt, hamend]
      · rfl

lemma inserted_insertEntry (rid : RecordID) (timestamp : UInt64) (offsets : OffsetMap)
    (entry : EpochRecordCacheEntry) (hi : c.getIndex rid.esn < c.capacity)
    (hi' : c.getIndex rid.esn < 2 ^ 31) :
    Inserted (c.noteSeen rid timestamp offsets) (c.getIndex rid.esn) entry
      (c.insertEntry rid timestamp offsets entry) := by
  obtain ⟨o, ho⟩ := c.noteSeen_eq rid timestamp offsets
  unfold insertEntry
  rw [ho]
  -- the element is found from the new maxima, at the same head
  refine inserted_of_slot ?_ hi' entry
  exact hi


/-- Inserting a record whose esn is in the window of a valid head keeps the invariant. -/
lemma Invariant.insertEntry {c : EpochRecordCache} (h : Invariant c) (hdis : c.disabled_ = false)
    (hhead : c.head_ ≠ ESN_INVALID) {rid : RecordID} (hle : c.head_ ≤ rid.esn)
    (hlt : rid.esn.toNat < c.head_.toNat + c.capacity) (timestamp : UInt64) (offsets : OffsetMap)
    {entry : EpochRecordCacheEntry} (hlsn : lsn_to_esn entry.lsn = rid.esn) :
    Invariant (c.insertEntry rid timestamp offsets entry) := by
  have hidx := c.getIndex_eq hle
  rw [UInt32.le_iff_toNat_le] at hle
  have hi : c.getIndex rid.esn < c.capacity := by omega
  have hi' : c.getIndex rid.esn < 2 ^ 31 := by have := h.capacity_le; omega
  have hins := c.inserted_insertEntry rid timestamp offsets entry hi hi'
  obtain ⟨o, ho⟩ := c.noteSeen_eq rid timestamp offsets
  rw [ho] at hins
  generalize c.insertEntry rid timestamp offsets entry = c' at hins ⊢
  -- what the insertion leaves of `c`
  have hcap : c'.capacity = c.capacity := hins.frame.capacity
  have hhead' : c'.head_ = c.head_ := hins.frame.head
  have hmax : c'.max_seen_esn_.toNat = max c.max_seen_esn_.toNat rid.esn.toNat :=
    (congrArg UInt32.toNat hins.frame.max_seen).trans (UInt32.toNat_max _ _)
  have hdis' : c'.disabled_ ≠ true := by
    rw [hins.frame.disabled]
    exact hdis ▸ Bool.false_ne_true
  refine ⟨hcap ▸ h.capacity_le, fun j hj e he => ?_, fun j hj hs => ?_, fun _ _ _ => hhead' ▸ hhead,
    ?_, fun _ => hhead' ▸ hhead, ?_, hins.counted ⟨h.counted.entries, h.counted.payload_bytes⟩,
    fun hd => absurd hd hdis',
    fun hd => absurd hd hdis'⟩
  · -- the record put carries its esn, and a record kept its element
    rw [hcap] at hj
    rw [hins.slot j hj] at he
    rw [hhead']
    split_ifs at he with hji
    · rcases lsn_of_putSlot he with hlsn' | ⟨o, ho, hlsn'⟩
      · rw [hlsn', hlsn, hji]
        omega
      · rw [hlsn', hji]
        exact h.slot_esn _ hi o ho
    · exact h.slot_esn j hj e he
  · rw [hcap] at hj
    rw [hmax, hhead']
    rw [hins.slot j hj] at hs
    split_ifs at hs with hji
    · omega
    · have := h.slot_max_seen j hj hs
      omega
  · have := h.max_seen_lt
    rw [hmax, hhead', hcap]
    omega
  · rw [hins.frame.first_seen, hhead']
    exact h.first_seen

/-- `disableCache` keeps the invariant: the first time, it empties every element. -/
lemma Invariant.disableCache {c : EpochRecordCache} (h : Invariant c) :
    Invariant c.disableCache := by
  cases hd : c.disabled_ with
  | true =>
    -- already disabled: nothing changes
    have hc : ({ c with disabled_ := true } : EpochRecordCache) = c := by
      rw [← hd]
    simp only [EpochRecordCache.disableCache, hd, Bool.not_true, Bool.false_eq_true, ↓reduceIte, hc]
    exact h
  | false =>
    simp only [EpochRecordCache.disableCache, hd, Bool.not_false, ↓reduceIte]
    generalize hc₁ : ({ c with disabled_ := true, tail_record_ := TailRecord.empty } :
      EpochRecordCache) = c₁
    have hcap₁ : c₁.capacity = c.capacity := by rw [← hc₁]; rfl
    rw [foldl_clearAt c₁ _ [] false]
    have hr := c₁.foldl_evictAt (hcap₁ ▸ h.capacity_le) le_rfl [] false
    generalize (List.range c₁.capacity).foldl evictAt (c₁, [], false) = s at hr
    -- every element is emptied, and the rest is `c₁`
    have hnone : ∀ j < s.1.capacity, s.1.buffer_.slot j = none := fun j hj => by
      rw [hr.slot j (hr.frame.capacity ▸ hj), if_pos (hr.frame.capacity ▸ hj)]
    have hf := hr.frame
    subst hc₁
    refine ⟨hf.capacity.trans hcap₁ ▸ h.capacity_le, fun j hj e he => ?_, fun j hj hs => ?_,
      fun j hj hs => ?_, ?_, ?_, ?_, hr.counted ⟨h.counted.entries, h.counted.payload_bytes⟩,
      fun _ => hnone, fun _ => hf.tail_record⟩
    · rw [hnone j hj] at he
      cases he
    · exact absurd (hnone j hj) hs
    · exact absurd (hnone j hj) hs
    · rw [hf.max_seen, hf.head, hf.capacity]
      exact h.max_seen_lt
    · rw [hf.max_seen, hf.head]
      exact h.head_of_max_seen
    · rw [hf.first_seen, hf.head]
      exact h.first_seen

end LogDevice.EpochRecordCache
