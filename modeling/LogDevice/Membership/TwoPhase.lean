import LogDevice.Lib.Run
import LogDevice.Membership.ApplyUpdate

/-!
# The two-phase storage-state protocol

The design of the storage membership moves a shard between its storage states in two phases, so
that every writer and reader agrees before a shard becomes writable or stops being read: a shard
becomes readable only through `NONE_TO_RO`, becomes writable only from `READ_ONLY` or by aborting a
`RW_TO_RO`, and stops being writable only through `RW_TO_RO`. `ProtocolStep` is that design, one
shard at a time, as the graph of the `transition:` lines of `StorageStateTransition` (with `none`
for a shard outside the membership). Its three properties (`ProtocolStep.enter_readWrite`,
`ProtocolStep.leave_readWrite`, `ProtocolStep.dormant`) are read off the graph.

`applyUpdate_protocolStep` connects the graph to the code: every successful `applyUpdate` that
uses neither `OVERRIDE_STATE` nor a `BOOTSTRAP_ENABLE_*` transition moves every shard along an edge.
`applyUpdate_two_phase` then lifts the three properties to whole runs of such updates.
-/

namespace LogDevice.Membership

/-- The storage-state graph of the membership design, for one shard, labelled by the transition
that takes each edge (`none` when the update does not name the shard); a state `none` is a shard
outside the membership. Metadata transitions and marking a shard unrecoverable stay put, except that
marking a `NONE_TO_RO` shard aborts the read enabling. -/
inductive ProtocolStep :
    Option StorageStateTransition → Option StorageState → Option StorageState → Prop where
  | untouched (s : Option StorageState) : ProtocolStep none s s
  | addEmptyShard : ProtocolStep (some .addEmptyShard) none (some .provisioning)
  | removeEmptyShard {s : StorageState} :
    s = .none ∨ s = .provisioning → ProtocolStep (some .removeEmptyShard) (some s) none
  | markShardProvisioned :
    ProtocolStep (some .markShardProvisioned) (some .provisioning) (some .none)
  | enablingRead : ProtocolStep (some .enablingRead) (some .none) (some .noneToRo)
  | commitReadEnabled : ProtocolStep (some .commitReadEnabled) (some .noneToRo) (some .readOnly)
  | abortEnablingRead : ProtocolStep (some .abortEnablingRead) (some .noneToRo) (some .none)
  | enableWrite : ProtocolStep (some .enableWrite) (some .readOnly) (some .readWrite)
  | disablingWrite : ProtocolStep (some .disablingWrite) (some .readWrite) (some .rwToRo)
  | commitWriteDisabled :
    ProtocolStep (some .commitWriteDisabled) (some .rwToRo) (some .readOnly)
  | abortDisablingWrite :
    ProtocolStep (some .abortDisablingWrite) (some .rwToRo) (some .readWrite)
  | startDataMigration :
    ProtocolStep (some .startDataMigration) (some .readOnly) (some .dataMigration)
  | dataMigrationCompleted :
    ProtocolStep (some .dataMigrationCompleted) (some .dataMigration) (some .none)
  | cancelDataMigration :
    ProtocolStep (some .cancelDataMigration) (some .dataMigration) (some .readOnly)
  | metadata {t : StorageStateTransition} :
    t = .promotingMetadataShard ∨ t = .commitPromotionMetadataShard ∨
      t = .abortPromotingMetadataShard →
    ProtocolStep (some t) (some .readWrite) (some .readWrite)
  | markShardUnrecoverable (s : StorageState) :
    ProtocolStep (some .markShardUnrecoverable) (some s) (some s)
  | markShardUnrecoverableAbort :
    ProtocolStep (some .markShardUnrecoverable) (some .noneToRo) (some .none)

/-- A shard that has not started the read-enabling phase: outside the membership, `NONE` or
`PROVISIONING`. -/
def Dormant (s : Option StorageState) : Prop :=
  s = none ∨ s = some .none ∨ s = some .provisioning

namespace ProtocolStep

/-- A shard becomes `READ_WRITE` only from `READ_ONLY` by `ENABLE_WRITE` or from `RW_TO_RO` by
`ABORT_DISABLING_WRITE`. -/
lemma enter_readWrite {l : Option StorageStateTransition} {a : Option StorageState}
    (h : ProtocolStep l a (some .readWrite)) (hne : a ≠ some .readWrite) :
    (l = some .enableWrite ∧ a = some .readOnly) ∨
      (l = some .abortDisablingWrite ∧ a = some .rwToRo) := by
  cases h with
  | untouched => exact absurd rfl hne
  | enableWrite => exact .inl ⟨rfl, rfl⟩
  | abortDisablingWrite => exact .inr ⟨rfl, rfl⟩
  | metadata => exact absurd rfl hne
  | markShardUnrecoverable => exact absurd rfl hne

/-- A `READ_WRITE` shard stays so or moves to `RW_TO_RO`. -/
lemma leave_readWrite {l : Option StorageStateTransition} {b : Option StorageState}
    (h : ProtocolStep l (some .readWrite) b) : b = some .readWrite ∨ b = some .rwToRo := by
  cases h with
  | removeEmptyShard hs => rcases hs with hs | hs <;> cases hs
  | disablingWrite => exact .inr rfl
  | _ => exact .inl rfl

/-- A dormant shard stays dormant or enters `NONE_TO_RO`. -/
lemma dormant {l : Option StorageStateTransition} {a b : Option StorageState}
    (h : ProtocolStep l a b) (ha : Dormant a) : Dormant b ∨ b = some .noneToRo := by
  rcases ha with rfl | rfl | rfl <;> cases h <;> simp [Dormant]

end ProtocolStep

/-- Readers ignore dormant shards. -/
lemma Dormant.not_shouldReadFrom {s : StorageState} (h : Dormant (some s)) :
    shouldReadFrom s = false := by
  rcases h with h | h | h <;> cases h <;> rfl

/-! ## The code takes the edges of the graph -/

/-- A successful shard transition other than `OVERRIDE_STATE`, `BOOTSTRAP_ENABLE_*`,
`ADD_EMPTY_SHARD` and `REMOVE_EMPTY_SHARD` moves the storage state along its edge. -/
lemma transition_protocolStep {c : ShardState} {su : ShardState.Update} {v : MembershipVersion}
    {t : ShardState} (h : ShardState.transition c su v = .ok t)
    (hov : su.transition ≠ .overrideState) (hboot : isBootstrappingShard su.transition = false)
    (hadd : su.transition ≠ .addEmptyShard) (hrm : su.transition ≠ .removeEmptyShard) :
    ProtocolStep (some su.transition) (some c.storage_state) (some t.storage_state) := by
  obtain ⟨hvalid, -, hsrc, -, sw, hsw, rfl, -⟩ := ShardState.transition_eq_ok h
  have hst := ShardState.transitionSwitch_storage_state hsw hov
  rw [ShardState.applyTargetState_storage_state] at hst
  -- the table fixes the source and target state of every remaining transition
  cases hT : su.transition <;>
    simp [hT, source_state, target_state, tableRow, TransitionTable, StorageStateTransition.toNat,
      isBootstrappingShard, ShardState.Update.isValid] at hsrc hst hov hboot hadd hrm hvalid ⊢
  case promotingMetadataShard | commitPromotionMetadataShard | abortPromotingMetadataShard =>
    rw [← hsrc, hst]
    exact .metadata (by simp)
  case markShardUnrecoverable =>
    rcases hst with hst | ⟨hc, hst⟩
    · rw [hst]
      exact .markShardUnrecoverable _
    · rw [hc, hst]
      exact .markShardUnrecoverableAbort
  all_goals (rw [← hsrc, hst]; constructor)

/-- `ADD_EMPTY_SHARD` yields a `PROVISIONING` shard. -/
lemma transition_addEmptyShard {c : ShardState} {su : ShardState.Update} {v : MembershipVersion}
    {t : ShardState} (h : ShardState.transition c su v = .ok t)
    (hT : su.transition = .addEmptyShard) : t.storage_state = .provisioning := by
  obtain ⟨-, -, -, -, sw, hsw, rfl, -⟩ := ShardState.transition_eq_ok h
  have hst := ShardState.transitionSwitch_storage_state hsw (by simp [hT])
  rw [ShardState.applyTargetState_storage_state] at hst
  simpa [hT, target_state, tableRow, TransitionTable, StorageStateTransition.toNat] using hst

/-- `REMOVE_EMPTY_SHARD` applies only to `NONE` and `PROVISIONING` shards. -/
lemma transition_removeEmptyShard {c : ShardState} {su : ShardState.Update}
    {v : MembershipVersion} {t : ShardState} (h : ShardState.transition c su v = .ok t)
    (hT : su.transition = .removeEmptyShard) :
    c.storage_state = .none ∨ c.storage_state = .provisioning := by
  obtain ⟨-, -, -, -, sw, hsw, -, -⟩ := ShardState.transition_eq_ok h
  unfold ShardState.transitionSwitch at hsw
  rw [hT] at hsw
  simp only at hsw
  split at hsw
  · cases hsw
  · next hs =>
    simp only [Bool.and_eq_true, bne_iff_ne, ne_eq, not_and, Decidable.not_not] at hs
    by_cases hp : c.storage_state = .provisioning
    · exact .inr hp
    · exact .inl (hs hp)

/-- Updates of the two-phase protocol: no shard update uses `OVERRIDE_STATE` or a
`BOOTSTRAP_ENABLE_*` transition. -/
def TwoPhaseUpdate (u : StorageMembership.Update) : Prop :=
  ∀ p ∈ u.shard_updates,
    p.2.transition ≠ .overrideState ∧ isBootstrappingShard p.2.transition = false

/-- A successful update of the two-phase protocol. -/
def TwoPhaseStep (m : StorageMembership) (u : StorageMembership.Update)
    (m' : StorageMembership) : Prop :=
  m.applyUpdate u = .ok m' ∧ TwoPhaseUpdate u

/-- The storage state of a shard of a membership; `none` outside it. -/
def storageOf (m : StorageMembership) (shard : ShardID) : Option StorageState :=
  (m.getShardState shard).map (·.storage_state)

/-- Every successful update of the two-phase protocol moves every shard along an edge of the
graph, labelled by the shard's transition in the update, or leaves it untouched. -/
lemma applyUpdate_protocolStep {m m' : StorageMembership} {u : StorageMembership.Update}
    (h : TwoPhaseStep m u m') (shard : ShardID) :
    ∃ l, ProtocolStep l (storageOf m shard) (storageOf m' shard) ∧
      ∀ t, l = some t → ∃ su, (shard, su) ∈ u.shard_updates ∧ su.transition = t := by
  obtain ⟨happly, hu⟩ := h
  obtain ⟨-, -, hframe, hcommitted⟩ := StorageMembership.applyUpdate_spec happly
  by_cases hs : shard ∈ u.shard_updates.map Prod.fst
  · obtain ⟨⟨_, su⟩, hmem, rfl⟩ := List.mem_map.mp hs
    refine ⟨some su.transition, ?_, fun t ht => ⟨su, hmem, Option.some_inj.mp ht⟩⟩
    obtain ⟨hov, hboot⟩ := hu _ hmem
    obtain ⟨cur, t, hcs, ht, hrm, hset⟩ := hcommitted _ su hmem
    rcases hcs with ⟨hget, hadd, rfl⟩ | ⟨hget, hadd⟩
    · -- a shard added to the membership
      have hT : su.transition = .addEmptyShard := by simpa [isAddingNewShard] using hadd
      have hne : su.transition ≠ .removeEmptyShard := by simp [hT]
      rw [storageOf, storageOf, hget, (hset hne).1, hT, Option.map_none, Option.map_some,
        transition_addEmptyShard ht hT]
      exact .addEmptyShard
    · have hT : su.transition ≠ .addEmptyShard := by simpa [isAddingNewShard] using hadd
      by_cases hr : su.transition = .removeEmptyShard
      · rw [storageOf, storageOf, hget, (hrm hr).1, hr]
        exact .removeEmptyShard (transition_removeEmptyShard ht hr)
      · rw [storageOf, storageOf, hget, (hset hr).1]
        exact transition_protocolStep ht hov hboot hT hr
  · refine ⟨none, ?_, fun _ h => absurd h (by simp)⟩
    rw [storageOf, storageOf, (hframe shard hs).1]
    exact .untouched _

/-- The two-phase membership protocol never skips its intermediate states: in every successful
update that uses neither `OVERRIDE_STATE` nor `BOOTSTRAP_ENABLE_*`, a shard becomes `READ_WRITE`
only from `READ_ONLY` by `ENABLE_WRITE` or from `RW_TO_RO` by `ABORT_DISABLING_WRITE`, and leaves
`READ_WRITE` only to `RW_TO_RO`; along every run of such updates, a `NONE` or `PROVISIONING` shard
becomes readable only after passing through `NONE_TO_RO`. -/
theorem applyUpdate_two_phase :
    (∀ m u m' shard, TwoPhaseStep m u m' →
      (storageOf m' shard = some .readWrite → storageOf m shard ≠ some .readWrite →
        ∃ su, (shard, su) ∈ u.shard_updates ∧
          ((su.transition = .enableWrite ∧ storageOf m shard = some .readOnly) ∨
            (su.transition = .abortDisablingWrite ∧ storageOf m shard = some .rwToRo))) ∧
      (storageOf m shard = some .readWrite →
        storageOf m' shard = some .readWrite ∨ storageOf m' shard = some .rwToRo)) ∧
    (∀ m us m' shard s', Lib.Run TwoPhaseStep m us m' →
      (storageOf m shard = some .none ∨ storageOf m shard = some .provisioning) →
      storageOf m' shard = some s' → shouldReadFrom s' = true →
      ∃ us₁ us₂ mk, us = us₁ ++ us₂ ∧ us₁ ≠ [] ∧ Lib.Run TwoPhaseStep m us₁ mk ∧
        Lib.Run TwoPhaseStep mk us₂ m' ∧ storageOf mk shard = some .noneToRo) := by
  refine ⟨fun m u m' shard h => ⟨fun hrw hne => ?_, fun hrw => ?_⟩, ?_⟩
  · -- entering READ_WRITE
    obtain ⟨l, hstep, hlabel⟩ := applyUpdate_protocolStep h shard
    rw [hrw] at hstep
    rcases hstep.enter_readWrite hne with ⟨hl, ha⟩ | ⟨hl, ha⟩
    · obtain ⟨su, hmem, hsu⟩ := hlabel _ hl
      exact ⟨su, hmem, .inl ⟨hsu, ha⟩⟩
    · obtain ⟨su, hmem, hsu⟩ := hlabel _ hl
      exact ⟨su, hmem, .inr ⟨hsu, ha⟩⟩
  · -- leaving READ_WRITE
    obtain ⟨l, hstep, -⟩ := applyUpdate_protocolStep h shard
    rw [hrw] at hstep
    exact hstep.leave_readWrite
  · -- becoming readable: a dormant shard leaves the dormant states only into NONE_TO_RO
    intro m us m' shard s' hrun hdormant hs' hread
    have hA : Dormant (storageOf m shard) := by
      rcases hdormant with h | h
      · exact .inr (.inl h)
      · exact .inr (.inr h)
    have hnotA : ¬ Dormant (storageOf m' shard) := by
      rw [hs']
      intro hd
      rw [hd.not_shouldReadFrom] at hread
      cases hread
    refine Lib.Run.passes_through (fun m => Dormant (storageOf m shard))
      (fun m => storageOf m shard = some .noneToRo) (fun m₁ u m₂ hd hstep => ?_) hrun hA hnotA
    obtain ⟨l, hprot, -⟩ := applyUpdate_protocolStep hstep shard
    exact hprot.dormant hd

end LogDevice.Membership
