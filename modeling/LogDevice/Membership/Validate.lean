import LogDevice.Lib.Word
import LogDevice.Membership.ApplyUpdate

/-!
# The `validate()` invariant

Every membership reached from the empty one by `applyUpdate` (keeping the output only on success)
satisfies `StorageMembership::validate()`, as long as the 64-bit version does not wrap. The step
lemma `applyUpdate_valid` follows from the spec of `applyUpdate`: shards the update does not name
keep their valid states and fall below the bumped version, named shards passed the final validity
check of `ShardState::transition` at the new version, and the metadata index follows both.

The version is a `uint64_t` bumped by every successful update with no guard against overflow: the
update applied at version `2^64 - 1` produces version `0`, and when that update only removes shards
(`REMOVE_EMPTY_SHARD` skips the validity check) the membership keeps its other shards at an empty
version. `validate_wraps` exhibits such a run.
-/

namespace LogDevice.Membership

namespace StorageMembership

/-- A sequence of updates applied with `applyUpdate`, keeping the output only when it returns 0. -/
def applyUpdates (m : StorageMembership) : List Update → StorageMembership
  | [] => m
  | u :: us => (m.applyUpdateOut u m).2.applyUpdates us

/-- The empty membership, version `EMPTY_VERSION`, is valid. -/
lemma empty_valid : ({} : StorageMembership).Valid where
  empty_version _ := by decide
  shard_valid shard st h := by simp [getShardState, Finmap.lookup_empty] at h
  metadata_index shard := by simp [getShardState, Finmap.lookup_empty]

/-- One successful update keeps the membership valid, unless the version wraps. -/
lemma applyUpdate_valid {m m' : StorageMembership} {u : Update} (hv : m.Valid)
    (hwrap : m.version.toNat + 1 < 2 ^ 64) (h : m.applyUpdate u = .ok m') : m'.Valid := by
  obtain ⟨hver, -, hframe, hcommitted⟩ := applyUpdate_spec h
  refine ⟨fun h0 => absurd (hver ▸ h0) (Lib.UInt64.add_one_ne_zero hwrap),
    fun shard st hget => ?_, fun shard => ?_⟩
  · -- a shard's state is valid and not newer than the membership
    by_cases hs : shard ∈ u.shard_updates.map Prod.fst
    · obtain ⟨⟨_, su⟩, hmem, rfl⟩ := List.mem_map.mp hs
      obtain ⟨cur, t, -, ht, hrm, hset⟩ := hcommitted _ su hmem
      by_cases hr : su.transition = .removeEmptyShard
      · rw [(hrm hr).1] at hget
        cases hget
      · rw [(hset hr).1] at hget
        cases hget
        refine ⟨ShardState.transition_isValid ht hr, ?_⟩
        rw [ShardState.transition_since_version ht, hver]
        exact UInt64.le_iff_toNat_le.mpr (Nat.le_refl _)
    · rw [(hframe shard hs).1] at hget
      obtain ⟨hvalid, hle⟩ := hv.shard_valid shard st hget
      exact ⟨hvalid, hver ▸ Lib.UInt64.le_add_one hwrap hle⟩
  · -- the metadata index lists exactly the shards with a metadata state
    by_cases hs : shard ∈ u.shard_updates.map Prod.fst
    · obtain ⟨⟨_, su⟩, hmem, rfl⟩ := List.mem_map.mp hs
      obtain ⟨cur, t, -, ht, hrm, hset⟩ := hcommitted _ su hmem
      by_cases hr : su.transition = .removeEmptyShard
      · simp [(hrm hr).1, (hrm hr).2]
      · rw [(hset hr).2, (hset hr).1]
        simp
    · rw [(hframe shard hs).2, (hframe shard hs).1]
      exact hv.metadata_index shard

/-- Along a sequence of updates that cannot exhaust the version space, validity is kept; the
version grows by at most one per update. -/
lemma applyUpdates_valid :
    ∀ (us : List Update) (m : StorageMembership), m.Valid →
      m.version.toNat + us.length < 2 ^ 64 → (m.applyUpdates us).Valid := by
  intro us
  induction us with
  | nil => exact fun m hv _ => hv
  | cons u us ih =>
    intro m hv hlen
    simp only [List.length_cons] at hlen
    simp only [applyUpdates, applyUpdateOut]
    cases h : m.applyUpdate u with
    | error e => exact ih m hv (by omega)
    | ok m' =>
      have hwrap : m.version.toNat + 1 < 2 ^ 64 := by omega
      have hver : m'.version.toNat = m.version.toNat + 1 := by
        rw [(applyUpdate_spec h).1]
        exact Lib.UInt64.toNat_add_one hwrap
      exact ih m' (applyUpdate_valid hv hwrap h) (by omega)

/-! ## A run that wraps the version -/

/-- The two shards of the run, `PROVISIONING` since `v`. -/
def wrapShard (v : MembershipVersion) : ShardState :=
  { storage_state := .provisioning, flags := 0, metadata_state := .none, since_version := v }

/-- The membership of the run at version `v`: `N0:S1` added at version 1, `N0:S0` last touched at
`v`. -/
def wrapState (v : MembershipVersion) : StorageMembership :=
  { version := v
    node_states :=
      (∅ : Finmap _).insert 0 ⟨((∅ : Finmap _).insert 1 (wrapShard 1)).insert 0 (wrapShard v)⟩ }

/-- Adds `N0:S0` and `N0:S1` to the empty membership. -/
def addTwoShards : Update :=
  { shard_updates := [(⟨0, 0⟩, { transition := .addEmptyShard }),
      (⟨0, 1⟩, { transition := .addEmptyShard })] }

/-- Marks the provisioning shard `N0:S0` unrecoverable, a no-op that still bumps the version. -/
def markUpdate (v : MembershipVersion) : Update :=
  { base_version := v
    shard_updates :=
      [(⟨0, 0⟩, { transition := .markShardUnrecoverable, conditions := Condition.FORCE })] }

/-- `k` marking updates from version `v` on. -/
def markUpdates : MembershipVersion → Nat → List Update
  | _, 0 => []
  | v, k + 1 => markUpdate v :: markUpdates (v + 1) k

/-- Removes `N0:S0` at the last version before the wrap. -/
def removeWrapped : Update :=
  { base_version := 18446744073709551615
    shard_updates := [(⟨0, 0⟩, { transition := .removeEmptyShard })] }

/-- The `2^64` updates of the run. -/
def wrapRun : List Update := addTwoShards :: markUpdates 1 (2 ^ 64 - 2) ++ [removeWrapped]

/-- Every membership reached from the empty one by fewer than `2^64` updates, each kept only when
`applyUpdate` returns 0, satisfies `validate()`. -/
theorem validate_applyUpdates (us : List Update) (hlen : us.length < 2 ^ 64) :
    (({} : StorageMembership).applyUpdates us).validate = true := by
  rw [validate_iff]
  exact applyUpdates_valid us {} empty_valid (by simpa [EMPTY_VERSION] using hlen)


theorem validate_applyUpdates_single :
    [addTwoShards].length < 2 ^ 64 ∧
      (({} : StorageMembership).applyUpdates [addTwoShards]).validate = true :=
  ⟨by decide, validate_applyUpdates [addTwoShards] (by decide)⟩

lemma applyUpdates_append (m : StorageMembership) (us vs : List Update) :
    m.applyUpdates (us ++ vs) = (m.applyUpdates us).applyUpdates vs := by
  induction us generalizing m with
  | nil => rfl
  | cons u us ih => exact ih _

lemma applyUpdate_addTwoShards : ({} : StorageMembership).applyUpdate addTwoShards =
    .ok (wrapState 1) := by
  have hs : source_state .addEmptyShard = .invalid := rfl
  have ht : target_state .addEmptyShard = .provisioning := rfl
  have hc : Condition.hasAllConditionsOrForce Condition.NONE
      (required_conditions .addEmptyShard) = true := by decide
  simp [applyUpdate, addTwoShards, Update.isValid, ShardState.Update.isValid, applyShardUpdates,
    applyShardUpdate, wrapState, getShardState, Finmap.lookup_insert, Finmap.lookup_empty,
    isAddingNewShard, isBootstrappingShard, ShardState.transition, ShardState.isValid, wrapShard,
    EMPTY_VERSION, hs, ht, hc, initialShardState,
    ShardState.transitionSwitch, ShardState.applyTargetState, setShardState]
  rw [Finmap.insert_insert_of_ne _ (by decide : (1 : Nat) ≠ 0)]

lemma applyUpdate_markUpdate (v : MembershipVersion) (h0 : v ≠ 0) (h1 : v + 1 ≠ 0) :
    (wrapState v).applyUpdate (markUpdate v) = .ok (wrapState (v + 1)) := by
  have hs : source_state .markShardUnrecoverable = .invalid := rfl
  have ht : target_state .markShardUnrecoverable = .invalid := rfl
  have hc : Condition.hasAllConditionsOrForce Condition.FORCE
      (required_conditions .markShardUnrecoverable) = true := by decide
  simp [applyUpdate, markUpdate, Update.isValid, ShardState.Update.isValid, applyShardUpdates,
    applyShardUpdate, wrapState, getShardState, Finmap.lookup_insert, isAddingNewShard,
    isBootstrappingShard, ShardState.transition, ShardState.isValid, wrapShard, h0, h1,
    EMPTY_VERSION, hs, ht, hc, ShardState.transitionSwitch, ShardState.applyTargetState,
    setShardState]

/-- `k` marking updates take the run from version `v` to version `v + k`. -/
lemma applyUpdates_markUpdates : ∀ (k : Nat) (v : MembershipVersion), v ≠ 0 →
    v.toNat + k < 2 ^ 64 → (wrapState v).applyUpdates (markUpdates v k) =
      wrapState (v + UInt64.ofNat k) := by
  intro k
  induction k with
  | zero => intro v _ _; simp [markUpdates, applyUpdates]
  | succ k ih =>
    intro v h0 hlen
    have hwrap : v.toNat + 1 < 2 ^ 64 := by omega
    have h1 : v + 1 ≠ 0 := Lib.UInt64.add_one_ne_zero hwrap
    simp only [markUpdates, applyUpdates, applyUpdateOut, applyUpdate_markUpdate v h0 h1]
    rw [ih (v + 1) h1 (by rw [Lib.UInt64.toNat_add_one hwrap]; omega), add_assoc]
    congr 2
    apply UInt64.toNat_inj.mp
    simp only [UInt64.toNat_add, UInt64.toNat_ofNat', UInt64.toNat_one]
    omega

/-- The run of `2^64` updates from the empty membership ends, after the version wraps to
`EMPTY_VERSION`, in a membership that still holds `N0:S1` and fails `validate()`. -/
theorem validate_wraps : (({} : StorageMembership).applyUpdates wrapRun).validate = false := by
  rw [wrapRun, List.cons_append, applyUpdates, applyUpdateOut, applyUpdate_addTwoShards]
  simp only
  rw [applyUpdates_append, applyUpdates_markUpdates _ 1 (by decide) (by decide)]
  have hlast : (1 : UInt64) + UInt64.ofNat (2 ^ 64 - 2) = 18446744073709551615 := by decide
  rw [hlast]
  decide +kernel

end StorageMembership

end LogDevice.Membership
