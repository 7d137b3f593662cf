import LogDevice.RecordCache.Run

/-!
# The cache as a map from sequence numbers

`lookup c esn` is the record `getEntry(esn)` hands back. Under the invariant it is element
`esn - head_` of the buffer for an esn in the window `[head_, head_ + capacity)`, and nothing
elsewhere (`lookup_eq`); so the ring buffer with its moving head is a map from esns to records, and
each piece of a call has its effect on that map: `advanceLNGImpl` drops the records up to `lng`
(`lookup_advanceLNGImpl`), `insertEntry` puts one (`lookup_insertEntry`), and a disabled cache
holds nothing (`lookup_of_disabled`).
-/

namespace LogDevice.EpochRecordCache

open LocalLogStoreRecordFormat Lib

variable (c : EpochRecordCache)

/-- The record the cache holds for `esn`, as `getEntry(esn)` finds it. -/
def lookup (esn : Esn) : Option EpochRecordCacheEntry := (c.getEntry esn).2

/-- `getEntry` says it found a record exactly when it hands one back. -/
lemma getEntry_eq_lookup (esn : Esn) : c.getEntry esn = ((c.lookup esn).isSome, c.lookup esn) := by
  unfold lookup getEntry
  split_ifs
  · rfl
  · rfl
  · split <;> rfl

lemma getIndex_lt {esn : Esn} (hle : c.head_ ≤ esn) (hlt : esn.toNat < c.head_.toNat + c.capacity) :
    c.getIndex esn < c.capacity := by
  rw [c.getIndex_eq hle]
  rw [UInt32.le_iff_toNat_le] at hle
  omega

namespace Invariant

variable {c}

/-- `getEntry` reads element `esn - head_` for an esn in the window, and finds nothing elsewhere. -/
lemma lookup_eq (h : Invariant c) (esn : Esn) :
    c.lookup esn =
      if c.head_ ≤ esn ∧ esn.toNat < c.head_.toNat + c.capacity then
        c.buffer_.slot (c.getIndex esn)
      else none := by
  have hmax := c.toNat_maxESNToAccept (by have := h.capacity_le; omega)
  have hlt := esn.toNat_lt
  have hpos := c.capacity_pos
  simp only [ESN_MAX_toNat] at hmax
  unfold lookup getEntry
  by_cases hle : c.head_ ≤ esn
  · rw [if_neg (UInt32.not_lt.mpr hle)]
    by_cases hwin : esn.toNat < c.head_.toNat + c.capacity
    · -- in the window: at most `maxESNToAccept()`, and the index fits an `int`
      have hi := c.getIndex_lt hle hwin
      have hin : ¬(esn < c.head_ ∨ esn > c.maxESNToAccept) := by
        rw [not_or, UInt32.not_lt, gt_iff_lt, UInt32.not_lt]
        exact ⟨hle, UInt32.le_iff_toNat_le.mpr (by rw [hmax]; omega)⟩
      have hR : (if c.head_ ≤ esn ∧ esn.toNat < c.head_.toNat + c.capacity then
          c.buffer_.slot (c.getIndex esn) else none) = c.buffer_.slot (c.getIndex esn) :=
        if_pos ⟨hle, hwin⟩
      rw [hR, if_neg hin, CircularBuffer.get_eq_slot _ hi (by have := h.capacity_le; omega)]
      cases c.buffer_.slot (c.getIndex esn) <;> rfl
    · have hout : esn < c.head_ ∨ esn > c.maxESNToAccept := by
        right
        rw [gt_iff_lt, UInt32.lt_iff_toNat_lt, hmax]
        omega
      have hR : (if c.head_ ≤ esn ∧ esn.toNat < c.head_.toNat + c.capacity then
          c.buffer_.slot (c.getIndex esn) else none) = none :=
        if_neg (fun h' => hwin h'.2)
      rw [hR, if_pos hout]
  · rw [if_pos (UInt32.not_le.mp hle), if_neg (fun h' => hle h'.1)]

/-- A record the cache holds for `esn` is of that esn, in the window, at element `esn - head_`. -/
lemma lookup_eq_some (h : Invariant c) {esn : Esn} {e : EpochRecordCacheEntry}
    (he : c.lookup esn = some e) :
    c.head_ ≤ esn ∧ esn.toNat < c.head_.toNat + c.capacity ∧
      c.buffer_.slot (c.getIndex esn) = some e ∧ lsn_to_esn e.lsn = esn := by
  rw [h.lookup_eq esn] at he
  split_ifs at he with hwin
  obtain ⟨hle, hlt⟩ := hwin
  refine ⟨hle, hlt, he, UInt32.toNat_inj.mp ?_⟩
  rw [h.slot_esn _ (c.getIndex_lt hle hlt) e he, c.getIndex_eq hle]
  rw [UInt32.le_iff_toNat_le] at hle
  omega

/-- The record of element `j` is what the cache holds for its esn. -/
lemma lookup_of_slot (h : Invariant c) {j : ℕ} (hj : j < c.capacity) {e : EpochRecordCacheEntry}
    (he : c.buffer_.slot j = some e) : c.lookup (lsn_to_esn e.lsn) = some e := by
  have hesn := h.slot_esn j hj e he
  have hle : c.head_ ≤ lsn_to_esn e.lsn := by
    rw [UInt32.le_iff_toNat_le, hesn]
    omega
  rw [h.lookup_eq, if_pos ⟨hle, by omega⟩, c.getIndex_eq hle, hesn, Nat.add_sub_cancel_left]
  exact he

/-- A disabled cache holds nothing. -/
lemma lookup_of_disabled (h : Invariant c) (hd : c.disabled_ = true) (esn : Esn) :
    c.lookup esn = none := by
  rw [h.lookup_eq]
  split_ifs with hwin
  · exact h.disabled_empty hd _ (c.getIndex_lt hwin.1 hwin.2)
  · rfl

/-- A cache with the invalid head holds nothing. -/
lemma lookup_of_head_invalid (h : Invariant c) (hhead : c.head_ = ESN_INVALID) (esn : Esn) :
    c.lookup esn = none := by
  rw [h.lookup_eq]
  split_ifs with hwin
  · exact h.slot_of_head_invalid hhead (c.getIndex_lt hwin.1 hwin.2)
  · rfl

/-- Nothing is held behind the head. -/
lemma lookup_of_lt (h : Invariant c) {esn : Esn} (hlt : esn < c.head_) : c.lookup esn = none := by
  rw [h.lookup_eq, if_neg (fun hwin => absurd hwin.1 (UInt32.not_le.mpr hlt))]

end Invariant

/-! ### The pieces of a call -/

/-- An advance past `lng` drops what the cache holds up to `lng`, and keeps the rest. -/
lemma Advanced.lookup {c' : EpochRecordCache} {lng : Esn} (h : Invariant c)
    (hhead : c.head_ ≠ ESN_INVALID) (hlng : c.head_ ≤ lng) (hdis : c.disabled_ = false)
    (ha : Advanced c lng c') (esn : Esn) :
    c'.lookup esn = if esn ≤ lng then none else c.lookup esn := by
  have h' := h.advanced hhead hlng hdis ha
  cases he' : c'.lookup esn with
  | some e =>
    -- a record still held was held before, at the same esn, past `lng`
    obtain ⟨hle', hlt', hslot', hesn'⟩ := h'.lookup_eq_some he'
    have hj := ha.capacity ▸ c'.getIndex_lt hle' hlt'
    obtain ⟨k, hk, hke, hkj, hlk⟩ := ha.slot_eq_some h hlng hj hslot'
    have hesn : (lsn_to_esn e.lsn).toNat = c.head_.toNat + k := h.slot_esn k hk e hke
    rw [c'.getIndex_eq hle'] at hkj
    rw [hesn'] at hesn
    rw [UInt32.le_iff_toNat_le] at hle'
    rw [if_neg (by rw [UInt32.le_iff_toNat_le]; omega), ← hesn', h.lookup_of_slot hk hke]
  | none =>
    split_ifs with hle
    · rfl
    · -- a record held past `lng` would still be held
      cases he : c.lookup esn with
      | none => rfl
      | some e =>
        obtain ⟨hle₀, hlt₀, hslot, hesn⟩ := h.lookup_eq_some he
        have hk := c.getIndex_lt hle₀ hlt₀
        have hidx := c.getIndex_eq hle₀
        rw [UInt32.not_le, UInt32.lt_iff_toNat_lt] at hle
        rw [UInt32.le_iff_toNat_le] at hle₀
        have hpast : lng.toNat < c.head_.toNat + c.getIndex esn := by omega
        obtain ⟨hle', hslot'⟩ := ha.slot_of_lt h hlng hk hslot hpast
        have hmono : c.head_.toNat ≤ c'.head_.toNat := ha.head ▸ head_le_next_esn hlng
        have hwin' : c'.head_ ≤ esn ∧ esn.toNat < c'.head_.toNat + c'.capacity := by
          rw [UInt32.le_iff_toNat_le, ha.capacity]
          omega
        rw [h'.lookup_eq, if_pos hwin', c'.getIndex_eq hwin'.1,
          show esn.toNat - c'.head_.toNat = c.head_.toNat + c.getIndex esn - c'.head_.toNat by omega,
          hslot'] at he'
        cases he'

/-- `advanceLNGImpl` from the current head of an enabled cache drops what it holds up to `lng`. -/
lemma lookup_advanceLNGImpl (h : Invariant c) (hdis : c.disabled_ = false) (lng esn : Esn) :
    (c.advanceLNGImpl c.head_ lng []).1.lookup esn = if esn ≤ lng then none else c.lookup esn := by
  have h' := (c.advanceLNGImpl_invariant h hdis lng).invariant
  have hcase := c.advanceLNGImpl_case h lng
  generalize c.advanceLNGImpl c.head_ lng [] = r at hcase h' ⊢
  cases hcase with
  | first hhead =>
    -- nothing was held, and nothing is
    rw [h'.lookup_eq, h.lookup_of_head_invalid hhead esn]
    split_ifs with hwin
    · exact h.slot_of_head_invalid hhead (getIndex_lt _ hwin.1 hwin.2)
    · exact h.slot_of_head_invalid hhead (getIndex_lt _ hwin.1 hwin.2)
    · rfl
    · rfl
  | advanced hhead hlng ha => exact Advanced.lookup c h hhead hlng hdis ha esn
  | behind hhead hlng =>
    split_ifs with hle
    · exact h.lookup_of_lt (UInt32.lt_of_le_of_lt hle hlng)
    · rfl


/-- Inserting a record puts `putSlot` of what was held at its esn there, and keeps the rest. -/
lemma lookup_insertEntry (h : Invariant c) (hdis : c.disabled_ = false)
    (hhead : c.head_ ≠ ESN_INVALID) {rid : RecordID} (hle : c.head_ ≤ rid.esn)
    (hlt : rid.esn.toNat < c.head_.toNat + c.capacity) (timestamp : UInt64) (offsets : OffsetMap)
    {entry : EpochRecordCacheEntry} (hlsn : lsn_to_esn entry.lsn = rid.esn) (esn : Esn) :
    (c.insertEntry rid timestamp offsets entry).lookup esn =
      if esn = rid.esn then putSlot (c.lookup rid.esn) entry else c.lookup esn := by
  have h' := h.insertEntry hdis hhead hle hlt timestamp offsets hlsn
  have hi := c.getIndex_lt hle hlt
  have hins := c.inserted_insertEntry rid timestamp offsets entry hi
    (by have := h.capacity_le; omega)
  obtain ⟨o, ho⟩ := c.noteSeen_eq rid timestamp offsets
  rw [ho] at hins
  have hslot : ∀ j < c.capacity, (c.insertEntry rid timestamp offsets entry).buffer_.slot j =
      if j = c.getIndex rid.esn then putSlot (c.buffer_.slot (c.getIndex rid.esn)) entry
      else c.buffer_.slot j := hins.slot
  have hcap : (c.insertEntry rid timestamp offsets entry).capacity = c.capacity := hins.frame.capacity
  have hhead' := c.insertEntry_head rid timestamp offsets entry
  have hidx : (c.insertEntry rid timestamp offsets entry).getIndex esn = c.getIndex esn := by
    unfold getIndex
    rw [hhead']
  generalize c.insertEntry rid timestamp offsets entry = c' at h' hslot hcap hhead' hidx ⊢
  have hheld : c.lookup rid.esn = c.buffer_.slot (c.getIndex rid.esn) := by
    rw [h.lookup_eq, if_pos ⟨hle, hlt⟩]
  rw [h'.lookup_eq, hhead', hcap, hidx, hheld, h.lookup_eq esn]
  by_cases hwin : c.head_ ≤ esn ∧ esn.toNat < c.head_.toNat + c.capacity
  · rw [if_pos hwin, hslot _ (c.getIndex_lt hwin.1 hwin.2)]
    by_cases he : esn = rid.esn
    · rw [if_pos (congrArg c.getIndex he), if_pos he]
    · -- another esn of the window is another element
      have hne : c.getIndex esn ≠ c.getIndex rid.esn := by
        rw [c.getIndex_eq hwin.1, c.getIndex_eq hle]
        have := hwin.1
        rw [UInt32.le_iff_toNat_le] at this hle
        exact fun h => he (UInt32.toNat_inj.mp (by omega))
      rw [if_neg hne, if_neg he, if_pos hwin]
  · have he : esn ≠ rid.esn := fun he => hwin (he ▸ ⟨hle, hlt⟩)
    rw [if_neg hwin, if_neg he, if_neg hwin]


/-! ### What an advance hands back -/

namespace Invariant

variable {c}

/-- The element up to which `advanceLNGImpl` evicts is that of `lng`, or the last one where `lng`
is past the window. -/
lemma head_add_getIndex_min (h : Invariant c) {lng : Esn} (hlng : c.head_ ≤ lng) :
    c.head_.toNat + c.getIndex (min c.maxESNToAccept lng) =
      min (min (c.head_.toNat + c.capacity - 1) 4294967295) lng.toNat := by
  have hmax := c.toNat_maxESNToAccept (by have := h.capacity_le; omega)
  have hpos := c.capacity_pos
  have hhead := c.head_.toNat_lt
  simp only [ESN_MAX_toNat] at hmax
  have hle : c.head_ ≤ min c.maxESNToAccept lng := by
    rw [UInt32.le_iff_toNat_le, UInt32.toNat_min, hmax]
    rw [UInt32.le_iff_toNat_le] at hlng
    omega
  rw [c.getIndex_eq hle, UInt32.toNat_min, hmax]
  rw [UInt32.le_iff_toNat_le] at hlng
  omega

/-- A record `advanceLNGImpl` evicts for `lng` is one the cache holds, of an esn up to `lng`. -/
lemma mem_evictedUpTo (h : Invariant c) {lng : Esn} (hlng : c.head_ ≤ lng)
    {t : EpochRecordCacheEntry} (ht : t ∈ c.evictedUpTo lng) :
    c.lookup (lsn_to_esn t.lsn) = some t ∧ lsn_to_esn t.lsn ≤ lng := by
  obtain ⟨j, hj, hslot⟩ := List.mem_filterMap.mp ht
  have hj' := List.mem_range.mp hj
  have hlt := c.getIndex_min_lt h hlng
  have hesn := h.slot_esn j (by omega) t hslot
  have hmin := h.head_add_getIndex_min hlng
  refine ⟨h.lookup_of_slot (by omega) hslot, ?_⟩
  rw [UInt32.le_iff_toNat_le, hesn]
  omega

/-- The records the cache holds come in increasing esn order. -/
lemma cached_sorted (h : Invariant c) :
    c.cached.Pairwise fun a b => lsn_to_esn a.lsn < lsn_to_esn b.lsn := by
  refine List.pairwise_filterMap.mpr (List.pairwise_lt_range.imp_of_mem fun {j j'} hj hj' hlt => ?_)
  intro a ha b hb
  rw [UInt32.lt_iff_toNat_lt, h.slot_esn j (List.mem_range.mp hj) a ha,
    h.slot_esn j' (List.mem_range.mp hj') b hb]
  omega

/-- What `advanceLNGImpl` evicts for `lng` is what the cache holds up to `lng`, in order. -/
lemma evictedUpTo_eq_filter (h : Invariant c) {lng : Esn} (hlng : c.head_ ≤ lng) :
    c.evictedUpTo lng = c.cached.filter fun e => lsn_to_esn e.lsn ≤ lng := by
  have hlt := c.getIndex_min_lt h hlng
  have hmin := h.head_add_getIndex_min hlng
  rw [cached, List.filter_filterMap, evictedUpTo,
    ← filterMap_range_of_le (show c.getIndex (min c.maxESNToAccept lng) + 1 ≤ c.capacity from hlt)]
  refine List.filterMap_congr fun j hj => ?_
  have hj' := List.mem_range.mp hj
  -- the record of element `j` is of esn `head_ + j`, which is at most `lng` exactly below the bound
  cases hs : c.buffer_.slot j with
  | none => simp
  | some e =>
    have hesn := h.slot_esn j hj' e hs
    have hmax := h.slot_le_maxESNToAccept hj' hs
    rw [c.toNat_maxESNToAccept (by have := h.capacity_le; omega), ESN_MAX_toNat] at hmax
    rw [Option.filter_some]
    by_cases hjm : j < c.getIndex (min c.maxESNToAccept lng) + 1
    · rw [if_pos hjm, if_pos (decide_eq_true (UInt32.le_iff_toNat_le.mpr (by omega)))]
    · rw [if_neg hjm, if_neg (fun hd => ?_)]
      have := UInt32.le_iff_toNat_le.mp (of_decide_eq_true hd)
      omega

end Invariant

/-- Each call of `onRecordsReleased` that `advanceLNGImpl` makes from the current head hands over,
from the epoch's LSN of the head to that of `lng`, the records the cache held up to `lng`, in
increasing esn order. -/
lemma released_advanceLNGImpl (h : Invariant c) (lng : Esn) :
    ∀ r ∈ (c.advanceLNGImpl c.head_ lng []).2.2,
      r.begin_lsn = compose_lsn c.epoch_ c.head_ ∧ r.end_lsn = compose_lsn c.epoch_ lng ∧
        r.entries = c.cached.filter fun e => lsn_to_esn e.lsn ≤ lng := by
  have hcase := c.advanceLNGImpl_case h lng
  generalize c.advanceLNGImpl c.head_ lng [] = r at hcase ⊢
  cases hcase with
  | first => exact fun _ hr => absurd hr List.not_mem_nil
  | advanced hhead hlng ha =>
    intro r hr
    split_ifs at hr
    · rw [List.mem_singleton] at hr
      subst hr
      refine ⟨rfl, rfl, ?_⟩
      dsimp only
      exact h.evictedUpTo_eq_filter hlng
    · exact absurd hr List.not_mem_nil
  | behind => exact fun _ hr => absurd hr List.not_mem_nil

end LogDevice.EpochRecordCache
