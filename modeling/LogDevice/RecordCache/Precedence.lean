import LogDevice.RecordCache.Lookup
import LogDevice.Lib.Bits

/-!
# Which record an esn keeps

`putRecord` keeps, for each esn, a record of the highest precedence (`Digest::RecordMetadata`) among
those it took: a record of lower precedence than the one there is dropped, a record of higher or
equal precedence replaces it, and an `AMEND` changes the metadata of the one there to that of the
amend (`precedence_amendExistingEntry`). A record evicted for an `lng` below `ESN_MAX` is behind the
head for good, so no later record of its esn is taken. Over a run whose `lng`s stay below
`ESN_MAX`, the record the cache holds for an esn is of a precedence at least that of every record
taken for it (`Outranks`, `outranks_run`).
-/

namespace LogDevice.EpochRecordCache

open LocalLogStoreRecordFormat Lib Recovery

/-! ### The precedence of a record -/

/-- Bit 13 of the flags is `WRITTEN_BY_RECOVERY`, in the record flags, the STORE flags and
`FLAG_MASK`. -/
lemma toNat_RECORD_WRITTEN_BY_RECOVERY : RECORD_Header.WRITTEN_BY_RECOVERY.toNat = 2 ^ 13 := by
  decide

lemma testBit_FLAG_MASK : FLAG_MASK.toNat.testBit 13 = true := by
  decide

/-- The precedence of a record: bit 13 of its flags, then its wave, where a wave of 0 without that
bit counts as the largest. -/
lemma precedence_getRecordMetadata (e : EpochRecordCacheEntry) :
    (getRecordMetadata e).precedence =
      toLex (if e.flags.toNat.testBit 13 then 1 else 0,
        (if !e.flags.toNat.testBit 13 && e.wave_or_recovery_epoch == 0 then (4294967295 : UInt32)
          else e.wave_or_recovery_epoch).toNat) := by
  unfold RecordMetadata.precedence getRecordMetadata
  dsimp only
  rw [and_bne_zero_eq_testBit _ _ toNat_RECORD_WRITTEN_BY_RECOVERY, UInt32.toNat_and,
    Nat.testBit_and, testBit_FLAG_MASK, Bool.and_true]

/-- An amended record was written by recovery where it or the amend was. -/
lemma testBit_amendExistingEntry (existing_entry amend_entry : EpochRecordCacheEntry) :
    (amendExistingEntry existing_entry amend_entry).flags.toNat.testBit 13 =
      (existing_entry.flags.toNat.testBit 13 || amend_entry.flags.toNat.testBit 13) := by
  unfold amendExistingEntry
  dsimp only
  rw [and_bne_zero_eq_testBit amend_entry.flags STORE_Header.BRIDGE (k := 15) rfl,
    and_bne_zero_eq_testBit amend_entry.flags STORE_Header.WRITTEN_BY_RECOVERY (k := 13) rfl]
  -- `BRIDGE` is another bit, so setting or clearing it leaves bit 13
  have hset : ∀ f : UInt32, (f ||| STORE_Header.BRIDGE).toNat.testBit 13 = f.toNat.testBit 13 :=
    fun f => by
      rw [UInt32.toNat_or, Nat.testBit_or,
        show STORE_Header.BRIDGE.toNat.testBit 13 = false by decide, Bool.or_false]
  have hclear : ∀ f : UInt32, (f &&& ~~~STORE_Header.BRIDGE).toNat.testBit 13 = f.toNat.testBit 13 :=
    fun f => by
      rw [UInt32.toNat_and, Nat.testBit_and,
        show (~~~STORE_Header.BRIDGE).toNat.testBit 13 = true by decide, Bool.and_true]
  have hwbr : ∀ f : UInt32, (f ||| STORE_Header.WRITTEN_BY_RECOVERY).toNat.testBit 13 = true :=
    fun f => by
      rw [UInt32.toNat_or, Nat.testBit_or,
        show STORE_Header.WRITTEN_BY_RECOVERY.toNat.testBit 13 = true by decide, Bool.or_true]
  split_ifs with hb hw hw
  · rw [hset, hwbr, hw, Bool.or_true]
  · rw [hset, Bool.eq_false_iff.mpr hw, Bool.or_false]
  · rw [hclear, hwbr, hw, Bool.or_true]
  · rw [hclear, Bool.eq_false_iff.mpr hw, Bool.or_false]

/-- An amend that `putRecord` applies, one not outranked by the record there, gives that record the
precedence of the amend. -/
lemma precedence_amendExistingEntry {existing_entry amend_entry : EpochRecordCacheEntry}
    (h : ¬getRecordMetadata amend_entry < getRecordMetadata existing_entry) :
    (getRecordMetadata (amendExistingEntry existing_entry amend_entry)).precedence =
      (getRecordMetadata amend_entry).precedence := by
  have hle : (getRecordMetadata existing_entry).precedence ≤ (getRecordMetadata amend_entry).precedence :=
    not_lt.mp h
  rw [precedence_getRecordMetadata, precedence_getRecordMetadata] at hle
  rw [precedence_getRecordMetadata, precedence_getRecordMetadata, testBit_amendExistingEntry]
  -- a record written by recovery outranks an amend that was not
  cases hx : existing_entry.flags.toNat.testBit 13 <;> cases hy : amend_entry.flags.toNat.testBit 13
  · rfl
  · rfl
  · rw [hx, hy] at hle
    simp [Prod.Lex.toLex_le_toLex] at hle
  · rfl


/-- What an element keeps is of a precedence at least that of the record put and of the one there. -/
lemma precedence_le_putSlot {old : Option EpochRecordCacheEntry} {entry e : EpochRecordCacheEntry}
    (h : putSlot old entry = some e) :
    (getRecordMetadata entry).precedence ≤ (getRecordMetadata e).precedence ∧
      ∀ o, old = some o → (getRecordMetadata o).precedence ≤ (getRecordMetadata e).precedence := by
  cases old with
  | none =>
    simp only [putSlot, Option.some.injEq] at h
    subst h
    exact ⟨le_rfl, fun _ ho => absurd ho (Option.some_ne_none _).symm⟩
  | some o =>
    simp only [putSlot] at h
    split_ifs at h with hlt hamend <;> cases h
    · -- the record there outranks the one put and stays
      exact ⟨le_of_lt hlt, fun _ ho => by cases ho; exact le_rfl⟩
    · -- the amend: the precedence of the record put
      rw [precedence_amendExistingEntry hlt]
      exact ⟨le_rfl, fun _ ho => by cases ho; exact not_lt.mp hlt⟩
    · exact ⟨le_rfl, fun _ ho => by cases ho; exact not_lt.mp hlt⟩

/-! ### The records a run takes -/

/-- The record a call has `putRecord` take, where it returns 0: its esn and metadata. -/
def Call.taken (c : EpochRecordCache) : Call → List (Esn × RecordMetadata)
  | .putRecord rid timestamp lng wave copyset flags keys payload offsets =>
    if (c.putRecord rid timestamp lng wave copyset flags keys payload offsets).1 = 0 then
      [(rid.esn, ⟨flags &&& FLAG_MASK, wave⟩)]
    else []
  | _ => []

/-- The records a run takes, in order. -/
def taken (c : EpochRecordCache) : List Call → List (Esn × RecordMetadata)
  | [] => []
  | a :: calls => a.taken c ++ taken (c.call a).1 calls

/-- The `lng` of a call, where it has one, is below `ESN_MAX`. -/
def Call.lngBelowMax : Call → Prop
  | .putRecord _ _ lng _ _ _ _ _ _ => lng < ESN_MAX
  | .advanceLNG new_lng => new_lng < ESN_MAX
  | .disableCache => True

/-- Each record taken is matched or outranked by what the cache holds for its esn, unless the esn
is behind the head or the cache is disabled. -/
def Outranks (c : EpochRecordCache) (taken : List (Esn × RecordMetadata)) : Prop :=
  ∀ p ∈ taken, c.disabled_ = true ∨ p.1 < c.head_ ∨
    ∃ e, c.lookup p.1 = some e ∧ p.2.precedence ≤ (getRecordMetadata e).precedence

/-- Past an `lng` below `ESN_MAX`, the head is beyond it. -/
lemma LNGAdvanced.lng_lt {c c' : EpochRecordCache} {lng : Esn} (ha : LNGAdvanced c lng c')
    (hlng : lng < ESN_MAX) : lng < c'.head_ := by
  rw [UInt32.lt_iff_toNat_lt] at hlng ⊢
  rcases ha.past_lng with hlt | hmax
  · exact hlt
  · rwa [hmax]

namespace Outranks

variable {c : EpochRecordCache} {taken : List (Esn × RecordMetadata)}

lemma of_disabled (hd : c.disabled_ = true) : Outranks c taken :=
  fun _ _ => .inl hd

/-- An advance for an `lng` below `ESN_MAX` keeps it: what it drops is behind the new head. -/
lemma advanceLNGImpl (h : Invariant c) (hdis : c.disabled_ = false) (ho : Outranks c taken)
    {lng : Esn} (hlng : lng < ESN_MAX) : Outranks (c.advanceLNGImpl c.head_ lng []).1 taken := by
  have ha := c.advanceLNGImpl_invariant h hdis lng
  intro p hp
  rcases ho p hp with hd | hlt | ⟨e, he, hle⟩
  · exact absurd (hdis.symm.trans hd) Bool.false_ne_true
  · right; left
    rw [UInt32.lt_iff_toNat_lt] at hlt ⊢
    exact Nat.lt_of_lt_of_le hlt ha.head_le
  · rw [c.lookup_advanceLNGImpl h hdis lng p.1]
    split_ifs with hp₁
    · exact .inr (.inl (UInt32.lt_of_le_of_lt hp₁ (ha.lng_lt hlng)))
    · exact .inr (.inr ⟨e, he, hle⟩)

/-- Inserting a record keeps it, and adds the record. -/
lemma insertEntry (h : Invariant c) (hdis : c.disabled_ = false) (hhead : c.head_ ≠ ESN_INVALID)
    (ho : Outranks c taken) {rid : RecordID} (hle : c.head_ ≤ rid.esn)
    (hlt : rid.esn.toNat < c.head_.toNat + c.capacity) (timestamp : UInt64) (offsets : OffsetMap)
    {entry : EpochRecordCacheEntry} (hlsn : lsn_to_esn entry.lsn = rid.esn) :
    Outranks (c.insertEntry rid timestamp offsets entry)
      (taken ++ [(rid.esn, getRecordMetadata entry)]) := by
  have hlookup := c.lookup_insertEntry h hdis hhead hle hlt timestamp offsets hlsn
  obtain ⟨e', he'⟩ := Option.ne_none_iff_exists'.mp (putSlot_ne_none (c.lookup rid.esn) entry)
  have hput := precedence_le_putSlot he'
  intro p hp
  rcases List.mem_append.mp hp with hp | hp
  · rcases ho p hp with hd | hlt' | ⟨e, he, hle'⟩
    · exact absurd (hdis.symm.trans hd) Bool.false_ne_true
    · exact .inr (.inl (by rwa [insertEntry_head]))
    · right; right
      rw [hlookup p.1]
      split_ifs with hp₁
      · -- the element of the record put: what it keeps outranks what it held
        have hold : c.lookup rid.esn = some e := hp₁ ▸ he
        exact ⟨e', he', hle'.trans (hput.2 e hold)⟩
      · exact ⟨e, he, hle'⟩
  · rw [List.mem_singleton] at hp
    subst hp
    exact .inr (.inr ⟨e', by rw [hlookup, if_pos rfl, he'], hput.1⟩)

end Outranks

/-- Every call for an `lng` below `ESN_MAX` keeps `Outranks`, with the record it takes added. -/
lemma Outranks.call {c : EpochRecordCache} {taken : List (Esn × RecordMetadata)} (h : Invariant c)
    (ho : Outranks c taken) :
    ∀ a : Call, a.lngBelowMax → Outranks (c.call a).1 (taken ++ a.taken c)
  | .putRecord rid timestamp lng wave copyset flags keys payload offsets, hlng => by
    have hcase := c.putRecord_case rid timestamp lng wave copyset flags keys payload offsets
    show Outranks (c.putRecord rid timestamp lng wave copyset flags keys payload offsets).2.1
      (taken ++ if (c.putRecord rid timestamp lng wave copyset flags keys payload offsets).1 = 0 then
        [(rid.esn, ⟨flags &&& FLAG_MASK, wave⟩)] else [])
    generalize c.putRecord rid timestamp lng wave copyset flags keys payload offsets = r at hcase ⊢
    cases hcase with
    | refused =>
      rw [if_neg (show ((-1 : Int) ≠ 0) by decide), List.append_nil]
      exact ho
    | outOfCapacity => exact of_disabled c.disableCache_disabled_head.1
    | behindHead hdis =>
      rw [if_neg (show ((-1 : Int) ≠ 0) by decide), List.append_nil]
      exact ho.advanceLNGImpl h hdis hlng
    | inserted hdis _ hlng' hcap hle =>
      have ha := c.advanceLNGImpl_invariant h hdis lng
      rw [if_pos rfl]
      exact (ho.advanceLNGImpl h hdis hlng).insertEntry ha.invariant ha.disabled
        ha.head_valid hle (c.esn_lt_window ha hlng' hcap hle) timestamp offsets
        (lsn_to_esn_compose_lsn _ _)
  | .advanceLNG new_lng, hlng => by
    show Outranks (c.advanceLNG new_lng).1 (taken ++ [])
    rw [List.append_nil]
    rcases c.advanceLNG_cases new_lng with hr | ⟨hdis, -, -, hr⟩
    · rw [hr]
      exact ho
    · rw [hr]
      exact ho.advanceLNGImpl h hdis hlng
  | .disableCache, _ => Outranks.of_disabled c.disableCache_disabled_head.1

/-- Over a run of calls for `lng`s below `ESN_MAX`, each record taken is matched or outranked by
what the cache holds for its esn, unless the esn is behind the head or the cache is disabled. -/
lemma outranks_run : ∀ (calls : List Call) {c : EpochRecordCache}
    {taken : List (Esn × RecordMetadata)}, Reachable c → Outranks c taken →
      (∀ a ∈ calls, a.lngBelowMax) → Outranks (c.run calls) (taken ++ c.taken calls)
  | [], _, _, _, ho, _ => by simpa [run, EpochRecordCache.taken] using ho
  | a :: calls, c, taken, hc, ho, hcalls => by
    have ih := outranks_run calls (hc.call a) (ho.call hc.invariant a (hcalls a List.mem_cons_self))
      (fun a' ha' => hcalls a' (List.mem_cons_of_mem a ha'))
    simpa [run, EpochRecordCache.taken, List.append_assoc] using ih

end LogDevice.EpochRecordCache
