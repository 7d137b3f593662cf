import LogDevice.RecordCache.Precedence

/-!
# The tail record of an epoch record cache

`updateTailRecord` checks that each record it makes the tail record has a higher LSN than the tail
record before (`ld_check(tail->lsn > tail_record_.header.lsn)`). It holds over every run whose puts
are of the cache's epoch, as `RecordCache::putRecord` routes them, and whose `lng`s stay below
`ESN_MAX`: what the cache holds has the LSNs of its esns (`InEpoch`), the tail record is behind the
head (`TailBehind`), and a record evicted is at or past the head, so past the tail record
(`TailRises`). At `ESN_MAX` the head cannot move past `lng`, a record of esn `ESN_MAX` can be put
again after it was evicted, and the check fails (`tail_lsn_repeats_at_ESN_MAX`).
-/

namespace LogDevice.EpochRecordCache

open LocalLogStoreRecordFormat Lib

/-- The puts of a call are of the epoch `epoch`. -/
def Call.inEpoch (epoch : Epoch) : Call → Prop
  | .putRecord rid _ _ _ _ _ _ _ _ => rid.epoch = epoch
  | _ => True

/-- What the cache holds for an esn has the LSN of that esn in the cache's epoch. -/
def InEpoch (c : EpochRecordCache) : Prop :=
  ∀ esn e, c.lookup esn = some e → e.lsn = compose_lsn c.epoch_ esn

/-- The tail record is the empty one, or of an LSN below that of the head. -/
def TailBehind (c : EpochRecordCache) : Prop :=
  c.tail_record_ = TailRecord.empty ∨ c.tail_record_.header.lsn < compose_lsn c.epoch_ c.head_

/-- From `c` to `c'` the tail record stays, moves to one of a higher LSN, or is reset by disabling
the cache. -/
def TailRises (c c' : EpochRecordCache) : Prop :=
  c'.tail_record_ = c.tail_record_ ∨ c.tail_record_.header.lsn < c'.tail_record_.header.lsn ∨
    c'.disabled_ = true ∧ c'.tail_record_ = TailRecord.empty

lemma compose_lsn_le_compose_lsn (epoch : Epoch) {a b : Esn} (h : a.toNat ≤ b.toNat) :
    compose_lsn epoch a ≤ compose_lsn epoch b := by
  rw [UInt64.le_iff_toNat_le, toNat_compose_lsn, toNat_compose_lsn]
  omega

lemma compose_lsn_lt_compose_lsn (epoch : Epoch) {a b : Esn} (h : a.toNat < b.toNat) :
    compose_lsn epoch a < compose_lsn epoch b := by
  rw [UInt64.lt_iff_toNat_lt, toNat_compose_lsn, toNat_compose_lsn]
  omega

@[simp] lemma updateTailRecord_lsn (c : EpochRecordCache) (t : EpochRecordCacheEntry) :
    (c.updateTailRecord t).tail_record_.header.lsn = t.lsn := rfl

variable {c : EpochRecordCache}

/-- A tail record that stays, under a head that does not move back, stays behind it. -/
lemma TailBehind.of_tail_eq {c' : EpochRecordCache} (ht : TailBehind c)
    (htail : c'.tail_record_ = c.tail_record_) (hepoch : c'.epoch_ = c.epoch_)
    (hhead : c.head_.toNat ≤ c'.head_.toNat) : TailBehind c' := by
  rw [TailBehind, htail, hepoch]
  rcases ht with hempty | hlt
  · exact .inl hempty
  · exact .inr (UInt64.lt_of_lt_of_le hlt (compose_lsn_le_compose_lsn _ hhead))

/-! ### The pieces of a call -/

lemma InEpoch.advanceLNGImpl (h : Invariant c) (hdis : c.disabled_ = false) (hin : InEpoch c)
    (lng : Esn) : InEpoch (c.advanceLNGImpl c.head_ lng []).1 := by
  intro esn e he
  rw [c.lookup_advanceLNGImpl h hdis lng esn] at he
  split_ifs at he
  rw [(c.advanceLNGImpl_invariant h hdis lng).epoch]
  exact hin esn e he

lemma InEpoch.insertEntry (h : Invariant c) (hdis : c.disabled_ = false)
    (hhead : c.head_ ≠ ESN_INVALID) (hin : InEpoch c) {rid : RecordID} (hle : c.head_ ≤ rid.esn)
    (hlt : rid.esn.toNat < c.head_.toNat + c.capacity) (timestamp : UInt64) (offsets : OffsetMap)
    {entry : EpochRecordCacheEntry} (hlsn : entry.lsn = compose_lsn c.epoch_ rid.esn) :
    InEpoch (c.insertEntry rid timestamp offsets entry) := by
  have hesn : lsn_to_esn entry.lsn = rid.esn := by rw [hlsn, lsn_to_esn_compose_lsn]
  intro esn e he
  rw [c.lookup_insertEntry h hdis hhead hle hlt timestamp offsets hesn, insertEntry_epoch] at *
  split_ifs at he with hesn'
  · -- the element of the record put keeps the record put or the one there, both of the esn
    rcases lsn_of_putSlot he with hlsn' | ⟨o, ho, hlsn'⟩
    · rw [hlsn', hlsn, hesn']
    · rw [hlsn', hesn', hin _ o ho]
  · exact hin esn e he

/-- An advance for an `lng` below `ESN_MAX` leaves the tail record behind the new head, and moves it
only to the last record evicted, which is at or past the old head. -/
lemma tail_advanceLNGImpl (h : Invariant c) (hdis : c.disabled_ = false) (hin : InEpoch c)
    (ht : TailBehind c) {lng : Esn} (hlng : lng < ESN_MAX) :
    TailBehind (c.advanceLNGImpl c.head_ lng []).1 ∧ TailRises c (c.advanceLNGImpl c.head_ lng []).1 := by
  have hadv := c.advanceLNGImpl_invariant h hdis lng
  have hcase := c.advanceLNGImpl_case h lng
  generalize c.advanceLNGImpl c.head_ lng [] = r at hcase hadv ⊢
  cases hcase with
  | first => exact ⟨ht.of_tail_eq rfl hadv.epoch hadv.head_le, .inl rfl⟩
  | behind => exact ⟨ht, .inl rfl⟩
  | @advanced c' hhead hlng' ha =>
    cases hlast : (c.evictedUpTo lng).getLast? with
    | none =>
      -- nothing evicted: the tail record stays
      have htail := ha.tail_none (List.getLast?_eq_none_iff.mp hlast)
      exact ⟨ht.of_tail_eq htail ha.epoch hadv.head_le, .inl htail⟩
    | some t =>
      -- the last record evicted, of an esn from the old head up to `lng`
      obtain ⟨hlook, hle⟩ := h.mem_evictedUpTo hlng' (List.mem_of_getLast? hlast)
      have hlsn := hin _ t hlook
      have hhead_le := (h.lookup_eq_some hlook).1
      have htail : c'.tail_record_.header.lsn = t.lsn := by rw [ha.tail_some t hlast]; rfl
      have hpast := hadv.lng_lt hlng
      rw [UInt32.le_iff_toNat_le] at hle hhead_le
      rw [UInt32.lt_iff_toNat_lt] at hpast
      refine ⟨.inr ?_, .inr (.inl ?_)⟩
      · rw [htail, hlsn, ha.epoch]
        exact compose_lsn_lt_compose_lsn _ (by omega)
      · rw [htail, hlsn]
        rcases ht with hempty | hlt
        · -- the empty tail record has `LSN_INVALID`, below every LSN of a valid esn
          rw [hempty]
          have hpos : 0 < c.head_.toNat := by
            have hne : c.head_.toNat ≠ 0 := fun h0 => hhead (UInt32.toNat_inj.mp h0)
            omega
          rw [UInt64.lt_iff_toNat_lt, toNat_compose_lsn]
          simp only [TailRecord.empty, LSN_INVALID, UInt64.toNat_zero]
          omega
        · exact UInt64.lt_of_lt_of_le hlt (compose_lsn_le_compose_lsn _ hhead_le)


/-! ### Calls and runs -/

/-- What the tail properties ask of one step from `c` to `c'`. -/
def TailStep (c c' : EpochRecordCache) : Prop :=
  InEpoch c' ∧ TailBehind c' ∧ TailRises c c' ∧ c'.epoch_ = c.epoch_

lemma tailStep_of_disabled {c' : EpochRecordCache} (h' : Invariant c') (hd : c'.disabled_ = true)
    (hepoch : c'.epoch_ = c.epoch_) : TailStep c c' :=
  ⟨fun esn e he => (by rw [h'.lookup_of_disabled hd esn] at he; cases he),
    .inl (h'.disabled_tail hd), .inr (.inr ⟨hd, h'.disabled_tail hd⟩), hepoch⟩

lemma tailStep_advanceLNGImpl (h : Invariant c) (hdis : c.disabled_ = false) (hin : InEpoch c)
    (ht : TailBehind c) {lng : Esn} (hlng : lng < ESN_MAX) :
    TailStep c (c.advanceLNGImpl c.head_ lng []).1 :=
  ⟨hin.advanceLNGImpl h hdis lng, (tail_advanceLNGImpl h hdis hin ht hlng).1,
    (tail_advanceLNGImpl h hdis hin ht hlng).2, (c.advanceLNGImpl_invariant h hdis lng).epoch⟩

lemma tailStep_putRecord (h : Invariant c) (hin : InEpoch c) (ht : TailBehind c) (rid : RecordID)
    (timestamp : UInt64) {lng : Esn} (hlng : lng < ESN_MAX) (wave_or_recovery_epoch : UInt32)
    (copyset : List ShardID) (flags : STORE_flags_t) (keys : OptionalKeys) (payload : List UInt8)
    (offsets : OffsetMap) (hepoch : rid.epoch = c.epoch_) :
    TailStep c
      (c.putRecord rid timestamp lng wave_or_recovery_epoch copyset flags keys payload offsets).2.1 := by
  have hcase := c.putRecord_case rid timestamp lng wave_or_recovery_epoch copyset flags keys payload
    offsets
  have h' := h.putRecord rid timestamp lng wave_or_recovery_epoch copyset flags keys payload offsets
  generalize c.putRecord rid timestamp lng wave_or_recovery_epoch copyset flags keys payload offsets
    = r at hcase h' ⊢
  cases hcase with
  | refused => exact ⟨hin, ht, .inl rfl, rfl⟩
  | outOfCapacity => exact tailStep_of_disabled h' c.disableCache_disabled_head.1 (disableCache_epoch c)
  | behindHead hdis => exact tailStep_advanceLNGImpl h hdis hin ht hlng
  | inserted hdis _ hlng' hcap hle =>
    -- the advance, then the record put in an element of the new window
    have ha := c.advanceLNGImpl_invariant h hdis lng
    obtain ⟨hin₁, ht₁, hr₁, hep₁⟩ := tailStep_advanceLNGImpl h hdis hin ht hlng
    generalize (c.advanceLNGImpl c.head_ lng []).1 = c₁ at ha hin₁ ht₁ hr₁ hep₁ hle ⊢
    have hlsn : compose_lsn rid.epoch rid.esn = compose_lsn c₁.epoch_ rid.esn := by
      rw [hep₁, ← hepoch]
    refine ⟨hin₁.insertEntry ha.invariant ha.disabled ha.head_valid hle
      (c.esn_lt_window ha hlng' hcap hle) timestamp offsets hlsn,
      ht₁.of_tail_eq (insertEntry_tail _ _ _ _ _) (insertEntry_epoch _ _ _ _ _)
        (congrArg UInt32.toNat (insertEntry_head _ _ _ _ _)).ge, ?_,
      (insertEntry_epoch _ _ _ _ _).trans hep₁⟩
    dsimp only
    rw [TailRises, insertEntry_tail, insertEntry_disabled]
    exact hr₁

lemma tailStep_advanceLNG (h : Invariant c) (hin : InEpoch c) (ht : TailBehind c) {new_lng : Esn}
    (hlng : new_lng < ESN_MAX) : TailStep c (c.advanceLNG new_lng).1 := by
  rcases c.advanceLNG_cases new_lng with hr | ⟨hdis, -, -, hr⟩
  · rw [hr]
    exact ⟨hin, ht, .inl rfl, rfl⟩
  · rw [hr]
    exact tailStep_advanceLNGImpl h hdis hin ht hlng

/-- Every call for an `lng` below `ESN_MAX`, with its puts of the cache's epoch, keeps `InEpoch` and
`TailBehind`, and the tail record rises. -/
lemma tailStep_call (h : Invariant c) (hin : InEpoch c) (ht : TailBehind c) :
    ∀ a : Call, a.lngBelowMax → a.inEpoch c.epoch_ → TailStep c (c.call a).1
  | .putRecord rid timestamp _ wave copyset flags keys payload offsets, hlng, hepoch =>
    tailStep_putRecord h hin ht rid timestamp hlng wave copyset flags keys payload offsets hepoch
  | .advanceLNG _, hlng, _ => tailStep_advanceLNG h hin ht hlng
  | .disableCache, _, _ =>
    tailStep_of_disabled h.disableCache c.disableCache_disabled_head.1 (disableCache_epoch c)

/-- Over a run of calls for `lng`s below `ESN_MAX`, with puts of the cache's epoch, `InEpoch` and
`TailBehind` hold throughout. -/
lemma tail_run (calls : List Call) (hc : Reachable c) (hin : InEpoch c) (ht : TailBehind c)
    (hcalls : ∀ a ∈ calls, a.lngBelowMax ∧ a.inEpoch c.epoch_) :
    Reachable (c.run calls) ∧ InEpoch (c.run calls) ∧ TailBehind (c.run calls) ∧
      (c.run calls).epoch_ = c.epoch_ := by
  refine foldl_invariant (fun s => Reachable s ∧ InEpoch s ∧ TailBehind s ∧ s.epoch_ = c.epoch_)
    (fun c a => (c.call a).1) calls (fun s a ha ⟨hs, hins, hts, hep⟩ => ?_) c ⟨hc, hin, ht, rfl⟩
  obtain ⟨hin', ht', -, hep'⟩ := tailStep_call hs.invariant hins hts a (hcalls a ha).1
    (hep ▸ (hcalls a ha).2)
  exact ⟨hs.call a, hin', ht', hep'.trans hep⟩


/-! ### Runs from a new cache -/

lemma inEpoch_init (log_id : UInt64) (epoch : Epoch) {capacity : ℕ} (hcapacity : 0 < capacity)
    (hcapacity' : capacity ≤ 2 ^ 31) (tail_optimized : TailOptimized) (stored : StoredBefore) :
    InEpoch (init log_id epoch capacity hcapacity tail_optimized stored) := fun esn e he => by
  rw [(invariant_init log_id epoch hcapacity tail_optimized stored hcapacity').lookup_of_head_invalid
    rfl esn] at he
  cases he

end LogDevice.EpochRecordCache
