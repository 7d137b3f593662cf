import LogDevice.RecordCache.Lookup
import LogDevice.Lib.Run

/-!
# The cache refines a map from sequence numbers to records

What an `EpochRecordCache` is for, said without its ring buffer: a partial map `Held` from esns to
the records held for them. A put stores its record over what its esn held (`putSlot`, by
precedence, or amending), an advance of the last known good esn hands back everything up to it
(`release`), and disabling the cache drops everything (`clear`). `Held.Step` is that machine, with
the outcomes among which `putRecord` chooses by the head, the window and the capacity.

`lookup` takes each cache to the map it stands for. Every call of a cache under the invariant is a
step of the machine (`lookup_call_step`), so every run of the cache is a run of the machine
(`run_refines_held`, by `Lib.Run.of_foldl`). What the machine holds after a run it was given by the
run's puts (`Held.run_origin`: an amend changes only the flags, wave and copyset of a record), so a
new cache serves only records put into it, each at the esn it was put at (`getEntry_run_was_put`).
-/

namespace LogDevice.EpochRecordCache

open LocalLogStoreRecordFormat Lib

/-- The records held, by esn. -/
abbrev Held := Esn → Option EpochRecordCacheEntry

namespace Held

/-- Everything held up to `lng` handed back. -/
def release (m : Held) (lng : Esn) : Held := fun esn => if esn ≤ lng then none else m esn

/-- A record stored at `esn` over what was held there. -/
def store (m : Held) (esn : Esn) (entry : EpochRecordCacheEntry) : Held :=
  Function.update m esn (putSlot (m esn) entry)

/-- Nothing held. -/
def clear : Held := fun _ => none

/-- The record `putRecord` makes of its arguments. -/
def recordOf (rid : RecordID) (timestamp : UInt64) (lng : Esn) (wave_or_recovery_epoch : UInt32)
    (copyset : List ShardID) (flags : STORE_flags_t) (keys : OptionalKeys) (payload : List UInt8)
    (offsets_within_epoch : OffsetMap) : EpochRecordCacheEntry :=
  ⟨compose_lsn rid.epoch rid.esn, flags, timestamp, lng, wave_or_recovery_epoch, copyset,
    offsets_within_epoch, keys, payload⟩

/-- The steps of the map. A put refuses its record, or drops everything, or hands back what is held
up to its `lng` and then refuses its record or stores it; an advance hands back what is held up to
its `lng`; disabling drops everything. -/
inductive Step : Held → Call → Held → Prop
  | putRefused (m : Held) {rid timestamp lng wave copyset flags keys payload offsets} :
    Step m (.putRecord rid timestamp lng wave copyset flags keys payload offsets) m
  | putCleared (m : Held) {rid timestamp lng wave copyset flags keys payload offsets} :
    Step m (.putRecord rid timestamp lng wave copyset flags keys payload offsets) clear
  | putReleased (m : Held) {rid timestamp lng wave copyset flags keys payload offsets} :
    Step m (.putRecord rid timestamp lng wave copyset flags keys payload offsets) (m.release lng)
  | putStored (m : Held) {rid timestamp lng wave copyset flags keys payload offsets} :
    Step m (.putRecord rid timestamp lng wave copyset flags keys payload offsets)
      ((m.release lng).store rid.esn
        (recordOf rid timestamp lng wave copyset flags keys payload offsets))
  | advance (m : Held) (lng : Esn) : Step m (.advanceLNG lng) (m.release lng)
  | disable (m : Held) : Step m .disableCache clear

/-- Handing back up to `lng` changes nothing where nothing is held up to `lng`. -/
lemma release_of_none {m : Held} {lng : Esn} (h : ∀ esn ≤ lng, m esn = none) : m.release lng = m := by
  funext esn
  unfold release
  split_ifs with hle
  · exact (h esn hle).symm
  · rfl

end Held

variable {c : EpochRecordCache}

/-! ### Each call is a step -/

/-- A cache under the invariant holds nothing at the invalid esn. -/
lemma Invariant.lookup_ESN_INVALID (h : Invariant c) : c.lookup ESN_INVALID = none := by
  by_cases hhead : c.head_ = ESN_INVALID
  · exact h.lookup_of_head_invalid hhead _
  · exact h.lookup_of_lt (UInt32.pos_iff_ne_zero.mpr hhead)

lemma lookup_disableCache (h : Invariant c) : c.disableCache.lookup = Held.clear :=
  funext (h.disableCache.lookup_of_disabled c.disableCache_disabled_head.1)

/-- `advanceLNG` hands back what is held up to `lng`: where it changes nothing, nothing is held
there (the cache is disabled, `lng` is invalid, or `lng` is behind the head). -/
lemma lookup_advanceLNG (h : Invariant c) (lng : Esn) :
    (c.advanceLNG lng).1.lookup = Held.release c.lookup lng := by
  unfold advanceLNG
  dsimp only
  split_ifs with h₁ h₂
  · -- nothing is held up to `lng`
    refine (Held.release_of_none fun esn hle => ?_).symm
    rcases h₁ with h0 | hd | hlt
    · -- only the invalid esn is at or below it
      have he : esn = ESN_INVALID := by
        rw [h0, UInt32.le_iff_toNat_le] at hle
        exact UInt32.toNat_inj.mp (Nat.le_zero.mp hle)
      rw [he]
      exact h.lookup_ESN_INVALID
    · exact h.lookup_of_disabled hd esn
    · exact h.lookup_of_lt (UInt32.lt_of_le_of_lt hle hlt)
  · rcases h₂ with hd | hlt
    · exact (Held.release_of_none fun esn _ => h.lookup_of_disabled hd esn).symm
    · exact (Held.release_of_none fun esn hle => h.lookup_of_lt (UInt32.lt_of_le_of_lt hle hlt)).symm
  · rw [not_or, not_or, Bool.not_eq_true] at h₁
    exact funext (c.lookup_advanceLNGImpl h h₁.2.1 lng)


/-- `putRecord` is a put of the map. It answers 0 where it stores the record after handing back what
is held up to `lng`, and -1 where it refuses the record, drops everything, or only hands back. -/
lemma lookup_putRecord (h : Invariant c) (rid : RecordID) (timestamp : UInt64) (lng : Esn)
    (wave_or_recovery_epoch : UInt32) (copyset : List ShardID) (flags : STORE_flags_t)
    (keys : OptionalKeys) (payload : List UInt8) (offsets : OffsetMap) :
    ((c.putRecord rid timestamp lng wave_or_recovery_epoch copyset flags keys payload offsets).1 = 0 ∧
        (c.putRecord rid timestamp lng wave_or_recovery_epoch copyset flags keys payload offsets).2.1.lookup =
          (Held.release c.lookup lng).store rid.esn
            (Held.recordOf rid timestamp lng wave_or_recovery_epoch copyset flags keys payload offsets)) ∨
      (c.putRecord rid timestamp lng wave_or_recovery_epoch copyset flags keys payload offsets).1 = -1 ∧
        ((c.putRecord rid timestamp lng wave_or_recovery_epoch copyset flags keys payload offsets).2.1.lookup =
            c.lookup ∨
          (c.putRecord rid timestamp lng wave_or_recovery_epoch copyset flags keys payload offsets).2.1.lookup =
            Held.clear ∨
          (c.putRecord rid timestamp lng wave_or_recovery_epoch copyset flags keys payload offsets).2.1.lookup =
            Held.release c.lookup lng) := by
  have hcase := c.putRecord_case rid timestamp lng wave_or_recovery_epoch copyset flags keys payload
    offsets
  generalize c.putRecord rid timestamp lng wave_or_recovery_epoch copyset flags keys payload offsets
    = r at hcase ⊢
  cases hcase with
  | refused => exact .inr ⟨rfl, .inl rfl⟩
  | outOfCapacity => exact .inr ⟨rfl, .inr (.inl (lookup_disableCache h))⟩
  | behindHead hdis => exact .inr ⟨rfl, .inr (.inr (funext (c.lookup_advanceLNGImpl h hdis lng)))⟩
  | inserted hdis _ hlng hcap hle =>
    -- the record goes over what the advance for `lng` left at its esn
    have ha := c.advanceLNGImpl_invariant h hdis lng
    have hrel : (c.advanceLNGImpl c.head_ lng []).1.lookup = Held.release c.lookup lng :=
      funext (c.lookup_advanceLNGImpl h hdis lng)
    have hlsn : lsn_to_esn (Held.recordOf rid timestamp lng wave_or_recovery_epoch copyset flags keys
        payload offsets).lsn = rid.esn :=
      lsn_to_esn_compose_lsn _ _
    refine .inl ⟨rfl, funext fun esn => ?_⟩
    have hins := lookup_insertEntry _ ha.invariant ha.disabled ha.head_valid hle
      (c.esn_lt_window ha hlng hcap hle) timestamp offsets hlsn esn
    rw [hrel] at hins
    rw [Held.store, Function.update_apply]
    exact hins

/-- Every call of a cache under the invariant is a step of the map it stands for. -/
lemma lookup_call_step (h : Invariant c) : ∀ a : Call, Held.Step c.lookup a (c.call a).1.lookup
  | .putRecord rid timestamp lng wave copyset flags keys payload offsets => by
    show Held.Step c.lookup _
      (c.putRecord rid timestamp lng wave copyset flags keys payload offsets).2.1.lookup
    rcases lookup_putRecord h rid timestamp lng wave copyset flags keys payload offsets with
      ⟨-, hst⟩ | ⟨-, hst | hst | hst⟩ <;> rw [hst]
    · exact .putStored _
    · exact .putRefused _
    · exact .putCleared _
    · exact .putReleased _
  | .advanceLNG lng => by
    show Held.Step c.lookup _ (c.advanceLNG lng).1.lookup
    rw [lookup_advanceLNG h]
    exact .advance _ _
  | .disableCache => by
    show Held.Step c.lookup _ c.disableCache.lookup
    rw [lookup_disableCache h]
    exact .disable _

/-! ### Runs -/

/-- Every run of a reachable cache is a run of the map it stands for: what `getEntry` finds after
the calls is what the map holds after the same calls, for some choice of outcomes of the puts. -/
theorem run_refines_held {c : EpochRecordCache} (hc : Reachable c) (calls : List Call) :
    Run Held.Step c.lookup calls (c.run calls).lookup :=
  Run.of_foldl _ lookup Reachable (fun _ a h => h.call a) (fun _ a h => lookup_call_step h.invariant a)
    calls hc

theorem run_refines_held_advance :
    Run Held.Step (init 1 1 4 (by decide) .YES .NEVER).lookup [.advanceLNG 3]
      ((init 1 1 4 (by decide) .YES .NEVER).run [.advanceLNG 3]).lookup :=
  run_refines_held (.init 1 1 4 (by decide) .YES .NEVER (by decide)) [.advanceLNG 3]


/-! ### Where a held record comes from -/

/-- The record a call puts, if it is a put. -/
def Call.record : Call → Option EpochRecordCacheEntry
  | .putRecord rid timestamp lng wave copyset flags keys payload offsets =>
    some (Held.recordOf rid timestamp lng wave copyset flags keys payload offsets)
  | _ => none

/-- `e` carries the record `e'`: its LSN, timestamp, keys and payload, which an amend keeps. -/
structure Carries (e e' : EpochRecordCacheEntry) : Prop where
  lsn : e.lsn = e'.lsn
  timestamp : e.timestamp = e'.timestamp
  keys : e.keys = e'.keys
  payload : e.payload = e'.payload

lemma Carries.refl (e : EpochRecordCacheEntry) : Carries e e := ⟨rfl, rfl, rfl, rfl⟩

lemma Carries.trans {e₁ e₂ e₃ : EpochRecordCacheEntry} (h₁ : Carries e₁ e₂) (h₂ : Carries e₂ e₃) :
    Carries e₁ e₃ :=
  ⟨h₁.lsn.trans h₂.lsn, h₁.timestamp.trans h₂.timestamp, h₁.keys.trans h₂.keys,
    h₁.payload.trans h₂.payload⟩

/-- What `putSlot` leaves carries what was there, or is the record put. -/
lemma putSlot_origin {old : Option EpochRecordCacheEntry} {entry e : EpochRecordCacheEntry}
    (h : putSlot old entry = some e) : (∃ o, old = some o ∧ Carries e o) ∨ e = entry := by
  cases old with
  | none => exact .inr (Option.some.inj h).symm
  | some o =>
    dsimp only [putSlot] at h
    split_ifs at h
    · obtain rfl := Option.some.inj h
      exact .inl ⟨_, rfl, .refl _⟩
    · -- an amend keeps what `Carries` asks for
      obtain rfl := Option.some.inj h
      exact .inl ⟨o, rfl, ⟨rfl, rfl, rfl, rfl⟩⟩
    · exact .inr (Option.some.inj h).symm

namespace Held

lemma release_eq_some {m : Held} {lng esn : Esn} {e : EpochRecordCacheEntry}
    (h : m.release lng esn = some e) : m esn = some e := by
  unfold release at h
  -- up to `lng` nothing is held, and `split_ifs` closes that case
  split_ifs at h
  exact h

/-- A record held after a step carries one held at its esn before, or is the record the step put
there. -/
lemma Step.origin {m m' : Held} {a : Call} (hs : Step m a m') {esn : Esn} {e : EpochRecordCacheEntry}
    (he : m' esn = some e) :
    (∃ e₀, m esn = some e₀ ∧ Carries e e₀) ∨ (a.record = some e ∧ lsn_to_esn e.lsn = esn) := by
  cases hs with
  | putRefused => exact .inl ⟨e, he, .refl e⟩
  | putCleared => cases he
  | putReleased => exact .inl ⟨e, release_eq_some he, .refl e⟩
  | putStored =>
    unfold store at he
    rw [Function.update_apply] at he
    split_ifs at he with hesn
    · subst hesn
      rcases putSlot_origin he with ⟨o, ho, hc⟩ | rfl
      · exact .inl ⟨o, release_eq_some ho, hc⟩
      · exact .inr ⟨rfl, lsn_to_esn_compose_lsn _ _⟩
    · exact .inl ⟨e, release_eq_some he, .refl e⟩
  | advance => exact .inl ⟨e, release_eq_some he, .refl e⟩
  | disable => cases he

/-- A record held after a run carries one held at its esn before the run, or one put at its esn by
a call of the run. -/
lemma run_origin {m₀ m : Held} {calls : List Call} (hr : Run Step m₀ calls m) {esn : Esn}
    {e : EpochRecordCacheEntry} (he : m esn = some e) :
    ∃ e', Carries e e' ∧
      (m₀ esn = some e' ∨ ∃ a ∈ calls, a.record = some e' ∧ lsn_to_esn e'.lsn = esn) := by
  induction hr generalizing e with
  | nil => exact ⟨e, .refl e, .inl he⟩
  | cons hs _ ih =>
    obtain ⟨e', hc, hfrom⟩ := ih he
    rcases hfrom with hheld | ⟨a', ha', hrec, hesn⟩
    · -- held when the run's rest began: the first step kept it or put it
      rcases hs.origin hheld with ⟨e₀, h₀, hc₀⟩ | ⟨hrec, hesn⟩
      · exact ⟨e₀, hc.trans hc₀, .inl h₀⟩
      · exact ⟨e', hc, .inr ⟨_, List.mem_cons_self, hrec, hesn⟩⟩
    · exact ⟨e', hc, .inr ⟨a', List.mem_cons_of_mem _ ha', hrec, hesn⟩⟩

end Held

/-- A new cache serves only records put into it: every record `getEntry` finds after a run carries
the LSN, timestamp, keys and payload of a record put at its esn by a call of the run. -/
theorem getEntry_run_was_put (log_id : UInt64) (epoch : Epoch) (capacity : ℕ)
    (hcapacity : 0 < capacity) (hcapacity' : capacity ≤ 2 ^ 31) (tail_optimized : TailOptimized)
    (stored : StoredBefore) (calls : List Call) {esn : Esn} {e : EpochRecordCacheEntry}
    (he : ((init log_id epoch capacity hcapacity tail_optimized stored).run calls).getEntry esn =
      (true, some e)) :
    ∃ a ∈ calls, ∃ e', a.record = some e' ∧ lsn_to_esn e'.lsn = esn ∧ Carries e e' := by
  have h₀ := invariant_init log_id epoch hcapacity tail_optimized stored hcapacity'
  have hr := Run.of_foldl (fun c a => (c.call a).1) lookup Reachable (fun _ a h => h.call a)
    (fun _ a h => lookup_call_step h.invariant a) calls
    (Reachable.init log_id epoch capacity hcapacity tail_optimized stored hcapacity')
  have hlook : ((init log_id epoch capacity hcapacity tail_optimized stored).run calls).lookup esn =
      some e := by
    rw [getEntry_eq_lookup] at he
    exact (Prod.mk.inj he).2
  obtain ⟨e', hc, hfrom⟩ := Held.run_origin hr hlook
  rcases hfrom with hheld | ⟨a, ha, hrec, hesn⟩
  · -- a new cache holds nothing
    rw [h₀.lookup_of_head_invalid rfl esn] at hheld
    cases hheld
  · exact ⟨a, ha, e', hrec, hesn, hc⟩

theorem getEntry_run_was_put_single :
    ∃ a ∈ [Call.putRecord ⟨1, 1, 1⟩ 0 0 0 [] 0 OptionalKeys.empty [] OffsetMap.empty], ∃ e',
      a.record = some e' ∧ lsn_to_esn e'.lsn = 1 ∧
        Carries (Held.recordOf ⟨1, 1, 1⟩ 0 0 0 [] 0 OptionalKeys.empty [] OffsetMap.empty) e' :=
  getEntry_run_was_put 1 1 1 (by decide) (by decide) .YES .NEVER
    [.putRecord ⟨1, 1, 1⟩ 0 0 0 [] 0 OptionalKeys.empty [] OffsetMap.empty] (by rfl)

end LogDevice.EpochRecordCache
