import LogDevice.RecordCache.Invariant

/-!
# The calls of an epoch record cache, and its runs

`putRecord` and `advanceLNG` are each taken apart once into the cases their branches make
(`PutRecordCase`, `advanceLNG_cases`); what a call keeps is proved from those cases, and what a run
keeps from the calls (`Reachable`, by induction on the run).
-/

namespace LogDevice.EpochRecordCache

open LocalLogStoreRecordFormat Lib

variable (c : EpochRecordCache)

/-! ### `putRecord` -/

/-- What `putRecord` can do: refuse the record (a disabled cache, a record behind the head or
behind `lng`), disable the cache for a record too far past `lng`, or move the head for `lng`, then
refuse a record left behind the new head or insert it. -/
inductive PutRecordCase (c : EpochRecordCache) (rid : RecordID) (lng : Esn) (timestamp : UInt64)
    (offsets : OffsetMap) (entry : EpochRecordCacheEntry) :
    Int × EpochRecordCache × List Released → Prop
  | refused : PutRecordCase c rid lng timestamp offsets entry (-1, c, [])
  | outOfCapacity : c.disabled_ = false → lng ≤ rid.esn → c.capacity < (rid.esn - lng).toNat →
    PutRecordCase c rid lng timestamp offsets entry (-1, c.disableCache, [])
  | behindHead : c.disabled_ = false → (c.head_ = ESN_INVALID ∨ c.head_ ≤ rid.esn) →
    lng ≤ rid.esn → (rid.esn - lng).toNat ≤ c.capacity →
    rid.esn < (c.advanceLNGImpl c.head_ lng []).1.head_ →
    PutRecordCase c rid lng timestamp offsets entry
      (-1, (c.advanceLNGImpl c.head_ lng []).1, (c.advanceLNGImpl c.head_ lng []).2.2)
  | inserted : c.disabled_ = false → (c.head_ = ESN_INVALID ∨ c.head_ ≤ rid.esn) →
    lng ≤ rid.esn → (rid.esn - lng).toNat ≤ c.capacity →
    (c.advanceLNGImpl c.head_ lng []).1.head_ ≤ rid.esn →
    PutRecordCase c rid lng timestamp offsets entry
      (0, (c.advanceLNGImpl c.head_ lng []).1.insertEntry rid timestamp offsets entry,
        (c.advanceLNGImpl c.head_ lng []).2.2)

/-- The guard of `putRecord`, read as what it lets through. -/
lemma putRecord_guard {rid : RecordID}
    (h : ¬(c.disabled_ = true ∨ c.head_ ≠ ESN_INVALID ∧ rid.esn < c.head_)) :
    c.disabled_ = false ∧ (c.head_ = ESN_INVALID ∨ c.head_ ≤ rid.esn) := by
  rw [not_or, not_and, Bool.not_eq_true] at h
  refine ⟨h.1, ?_⟩
  by_cases hhead : c.head_ = ESN_INVALID
  · exact .inl hhead
  · exact .inr (UInt32.not_lt.mp (h.2 hhead))

lemma putRecord_case (rid : RecordID) (timestamp : UInt64) (lng : Esn)
    (wave_or_recovery_epoch : UInt32) (copyset : List ShardID) (flags : STORE_flags_t)
    (keys : OptionalKeys) (payload : List UInt8) (offsets : OffsetMap) :
    PutRecordCase c rid lng timestamp offsets
      ⟨compose_lsn rid.epoch rid.esn, flags, timestamp, lng, wave_or_recovery_epoch, copyset,
        offsets, keys, payload⟩
      (c.putRecord rid timestamp lng wave_or_recovery_epoch copyset flags keys payload offsets) := by
  unfold putRecord
  dsimp only
  -- the recheck under the lock is the first guard again, and goes the same way
  split_ifs with h₁ h₂ h₃ h₄
  · exact .refused
  · exact .refused
  · exact .outOfCapacity (c.putRecord_guard h₁).1 (UInt32.not_lt.mp h₂) h₃
  · obtain ⟨hdis, hhead⟩ := c.putRecord_guard h₁
    exact .behindHead hdis hhead (UInt32.not_lt.mp h₂) (Nat.not_lt.mp h₃) h₄
  · obtain ⟨hdis, hhead⟩ := c.putRecord_guard h₁
    exact .inserted hdis hhead (UInt32.not_lt.mp h₂) (Nat.not_lt.mp h₃) (UInt32.not_lt.mp h₄)

/-! ### `advanceLNG` -/

/-- `advanceLNG` either changes nothing or is `advanceLNGImpl` from the current head of an enabled
cache, for a valid `lng` at or past it. -/
lemma advanceLNG_cases (new_lng : Esn) :
    c.advanceLNG new_lng = (c, []) ∨
      (c.disabled_ = false ∧ new_lng ≠ ESN_INVALID ∧ c.head_ ≤ new_lng ∧
        c.advanceLNG new_lng =
          ((c.advanceLNGImpl c.head_ new_lng []).1, (c.advanceLNGImpl c.head_ new_lng []).2.2)) := by
  unfold advanceLNG
  dsimp only
  split_ifs with h₁ h₂
  · exact .inl rfl
  · exact .inl rfl
  · rw [not_or, not_or, Bool.not_eq_true] at h₁
    exact .inr ⟨h₁.2.1, h₁.1, UInt32.not_lt.mp h₁.2.2, rfl⟩


/-! ### Fields the pieces keep -/

/-- `insertEntry` changes the buffer and its counters after `noteSeen`, and nothing else. -/
lemma bufferFrame_insertEntry (rid : RecordID) (timestamp : UInt64) (offsets : OffsetMap)
    (entry : EpochRecordCacheEntry) :
    BufferFrame (c.noteSeen rid timestamp offsets) (c.insertEntry rid timestamp offsets entry) := by
  unfold insertEntry
  dsimp only
  split
  · split_ifs
    · exact BufferFrame.refl
    · exact ⟨_, _, _, CircularBuffer.size_set _ _ _, rfl⟩
    · exact (BufferFrame.removeEntry _ _).trans (BufferFrame.addEntry _ _)
  · exact BufferFrame.addEntry _ _

section insertEntry

variable (rid : RecordID) (timestamp : UInt64) (offsets : OffsetMap) (entry : EpochRecordCacheEntry)

@[simp] lemma insertEntry_head : (c.insertEntry rid timestamp offsets entry).head_ = c.head_ := by
  obtain ⟨o, ho⟩ := c.noteSeen_eq rid timestamp offsets
  rw [(c.bufferFrame_insertEntry rid timestamp offsets entry).head, ho]

@[simp] lemma insertEntry_disabled :
    (c.insertEntry rid timestamp offsets entry).disabled_ = c.disabled_ := by
  obtain ⟨o, ho⟩ := c.noteSeen_eq rid timestamp offsets
  rw [(c.bufferFrame_insertEntry rid timestamp offsets entry).disabled, ho]

@[simp] lemma insertEntry_epoch : (c.insertEntry rid timestamp offsets entry).epoch_ = c.epoch_ := by
  obtain ⟨o, ho⟩ := c.noteSeen_eq rid timestamp offsets
  rw [(c.bufferFrame_insertEntry rid timestamp offsets entry).epoch, ho]

@[simp] lemma insertEntry_tail :
    (c.insertEntry rid timestamp offsets entry).tail_record_ = c.tail_record_ := by
  obtain ⟨o, ho⟩ := c.noteSeen_eq rid timestamp offsets
  rw [(c.bufferFrame_insertEntry rid timestamp offsets entry).tail_record, ho]

end insertEntry

/-- The loop of `disableCache` changes the buffer and its counters only. -/
lemma bufferFrame_foldl_clearAt (l : List ℕ) : BufferFrame c (l.foldl clearAt c) := by
  refine foldl_rel BufferFrame (fun _ => BufferFrame.refl) (fun _ _ _ => BufferFrame.trans) clearAt
    (fun c' k => ?_) l c
  unfold clearAt
  split
  · exact BufferFrame.removeEntry k _
  · exact BufferFrame.refl

/-- `disableCache` leaves the cache disabled, and its head where it was. -/
lemma disableCache_disabled_head :
    c.disableCache.disabled_ = true ∧ c.disableCache.head_ = c.head_ := by
  unfold disableCache
  cases c.disabled_ with
  | true => exact ⟨rfl, rfl⟩
  | false =>
    dsimp only
    have hf := bufferFrame_foldl_clearAt
      { c with disabled_ := true, tail_record_ := TailRecord.empty } (List.range c.capacity)
    exact ⟨hf.disabled, hf.head⟩

@[simp] lemma disableCache_epoch : c.disableCache.epoch_ = c.epoch_ := by
  unfold disableCache
  cases c.disabled_ with
  | true => rfl
  | false =>
    exact (bufferFrame_foldl_clearAt { c with disabled_ := true, tail_record_ := TailRecord.empty }
      (List.range c.capacity)).epoch

/-! ### One call -/

/-- The esn of a record that `putRecord` inserts is in the window of the head it moved for `lng`. -/
lemma esn_lt_window {c' : EpochRecordCache} {rid : RecordID} {lng : Esn}
    (ha : LNGAdvanced c lng c') (hlng : lng ≤ rid.esn) (hcap : (rid.esn - lng).toNat ≤ c.capacity)
    (hle : c'.head_ ≤ rid.esn) : rid.esn.toNat < c'.head_.toNat + c'.capacity := by
  have hsub := UInt32.toNat_sub_of_le _ _ hlng
  have hpos := c'.capacity_pos
  have hlt := rid.esn.toNat_lt
  rw [UInt32.le_iff_toNat_le] at hlng hle
  rw [ha.capacity]
  rcases ha.past_lng with hpast | hmax
  · omega
  · -- at `ESN_MAX` the record is the last esn there is
    rw [hmax, ESN_MAX_toNat] at hle ⊢
    have := c.capacity_pos
    omega

lemma Invariant.putRecord {c : EpochRecordCache} (h : Invariant c) (rid : RecordID)
    (timestamp : UInt64) (lng : Esn) (wave_or_recovery_epoch : UInt32) (copyset : List ShardID)
    (flags : STORE_flags_t) (keys : OptionalKeys) (payload : List UInt8) (offsets : OffsetMap) :
    Invariant
      (c.putRecord rid timestamp lng wave_or_recovery_epoch copyset flags keys payload offsets).2.1 := by
  have hcase := c.putRecord_case rid timestamp lng wave_or_recovery_epoch copyset flags keys payload
    offsets
  generalize c.putRecord rid timestamp lng wave_or_recovery_epoch copyset flags keys payload offsets
    = r at hcase ⊢
  cases hcase with
  | refused => exact h
  | outOfCapacity => exact h.disableCache
  | behindHead hdis => exact (c.advanceLNGImpl_invariant h hdis lng).invariant
  | inserted hdis _ hlng hcap hle =>
    have ha := c.advanceLNGImpl_invariant h hdis lng
    exact ha.invariant.insertEntry ha.disabled ha.head_valid hle (c.esn_lt_window ha hlng hcap hle)
      timestamp offsets (lsn_to_esn_compose_lsn _ _)

lemma Invariant.advanceLNG {c : EpochRecordCache} (h : Invariant c) (new_lng : Esn) :
    Invariant (c.advanceLNG new_lng).1 := by
  rcases c.advanceLNG_cases new_lng with hr | ⟨hdis, -, -, hr⟩
  · rw [hr]
    exact h
  · rw [hr]
    exact (c.advanceLNGImpl_invariant h hdis new_lng).invariant

/-- Every call keeps the invariant. -/
lemma Invariant.call {c : EpochRecordCache} (h : Invariant c) : ∀ a : Call, Invariant (c.call a).1
  | .putRecord rid timestamp lng wave copyset flags keys payload offsets =>
    h.putRecord rid timestamp lng wave copyset flags keys payload offsets
  | .advanceLNG new_lng => h.advanceLNG new_lng
  | .disableCache => h.disableCache

/-- No call moves the head back. -/
lemma head_le_call {c : EpochRecordCache} (h : Invariant c) :
    ∀ a : Call, c.head_.toNat ≤ (c.call a).1.head_.toNat
  | .putRecord rid timestamp lng wave copyset flags keys payload offsets => by
    have hcase := c.putRecord_case rid timestamp lng wave copyset flags keys payload offsets
    show c.head_.toNat ≤ (c.putRecord rid timestamp lng wave copyset flags keys payload offsets).2.1.head_.toNat
    generalize c.putRecord rid timestamp lng wave copyset flags keys payload offsets = r at hcase ⊢
    cases hcase with
    | refused => exact le_rfl
    | outOfCapacity => exact (congrArg UInt32.toNat c.disableCache_disabled_head.2).ge
    | behindHead hdis => exact (c.advanceLNGImpl_invariant h hdis lng).head_le
    | inserted hdis =>
      exact (insertEntry_head _ _ _ _ _).symm ▸ (c.advanceLNGImpl_invariant h hdis lng).head_le
  | .advanceLNG new_lng => by
    show c.head_.toNat ≤ (c.advanceLNG new_lng).1.head_.toNat
    rcases c.advanceLNG_cases new_lng with hr | ⟨hdis, -, -, hr⟩
    · rw [hr]
    · rw [hr]
      exact (c.advanceLNGImpl_invariant h hdis new_lng).head_le
  | .disableCache => (congrArg UInt32.toNat c.disableCache_disabled_head.2).ge

/-- A disabled cache stays disabled, and refuses every record. -/
lemma call_of_disabled {c : EpochRecordCache} (hd : c.disabled_ = true) :
    ∀ a : Call, (c.call a).1.disabled_ = true
  | .putRecord rid timestamp lng wave copyset flags keys payload offsets => by
    have hcase := c.putRecord_case rid timestamp lng wave copyset flags keys payload offsets
    show (c.putRecord rid timestamp lng wave copyset flags keys payload offsets).2.1.disabled_ = true
    generalize c.putRecord rid timestamp lng wave copyset flags keys payload offsets = r at hcase ⊢
    cases hcase with
    | refused => exact hd
    | outOfCapacity hdis | behindHead hdis | inserted hdis => exact absurd (hdis.symm.trans hd) Bool.false_ne_true
  | .advanceLNG new_lng => by
    show (c.advanceLNG new_lng).1.disabled_ = true
    rcases c.advanceLNG_cases new_lng with hr | ⟨hdis, -, -, -⟩
    · rw [hr]
      exact hd
    · exact absurd (hdis.symm.trans hd) Bool.false_ne_true
  | .disableCache => c.disableCache_disabled_head.1

lemma putRecord_of_disabled (hd : c.disabled_ = true) (rid : RecordID) (timestamp : UInt64)
    (lng : Esn) (wave_or_recovery_epoch : UInt32) (copyset : List ShardID) (flags : STORE_flags_t)
    (keys : OptionalKeys) (payload : List UInt8) (offsets : OffsetMap) :
    (c.putRecord rid timestamp lng wave_or_recovery_epoch copyset flags keys payload offsets).1 = -1 := by
  have hcase := c.putRecord_case rid timestamp lng wave_or_recovery_epoch copyset flags keys payload
    offsets
  generalize c.putRecord rid timestamp lng wave_or_recovery_epoch copyset flags keys payload offsets
    = r at hcase ⊢
  cases hcase with
  | refused => rfl
  | outOfCapacity hdis | behindHead hdis | inserted hdis => exact absurd (hdis.symm.trans hd) Bool.false_ne_true

/-! ### Runs -/

/-- The caches that calls reach from a new cache whose capacity fits the `int` index of
`CircularBuffer::operator[]`. -/
inductive Reachable : EpochRecordCache → Prop
  | init (log_id : UInt64) (epoch : Epoch) (capacity : ℕ) (hcapacity : 0 < capacity)
    (tail_optimized : TailOptimized) (stored : StoredBefore) : capacity ≤ 2 ^ 31 →
    Reachable (init log_id epoch capacity hcapacity tail_optimized stored)
  | call {c : EpochRecordCache} (a : Call) : Reachable c → Reachable (c.call a).1

lemma Reachable.invariant {c : EpochRecordCache} (h : Reachable c) : Invariant c := by
  induction h with
  | init log_id epoch capacity hcapacity tail_optimized stored hcap =>
    exact invariant_init log_id epoch hcapacity tail_optimized stored hcap
  | call a _ ih => exact ih.call a

lemma Reachable.run {c : EpochRecordCache} (h : Reachable c) (calls : List Call) :
    Reachable (c.run calls) :=
  foldl_invariant Reachable (fun c a => (c.call a).1) calls (fun _ a _ hs => .call a hs) c h

end LogDevice.EpochRecordCache
