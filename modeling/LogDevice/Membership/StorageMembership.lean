import LogDevice.Membership.ShardState

/-!
# Storage membership

Model of `StorageMembership` (`membership/StorageMembership.{h,cpp}`): the versioned map from
nodes to their shards' `ShardState`s, the separate index `metadata_shards_` of shards whose
metadata state is not `NONE`, the bootstrapping flag, and the operations `getShardState`,
`setShardState`, `eraseShardState`, `applyUpdate` and `validate`.

`node_states_` and each node's `shard_states` are unordered maps in the source and Mathlib
`Finmap`s here; `metadata_shards_` is a `Finset`. A membership update's `shard_updates` is a
`std::map` keyed by `ShardID`, modelled as a list sorted by `ShardID` that carries its sortedness,
so it visits shards in the source's order and never names one twice. `applyUpdate` returns the new
membership or the error code; on failure the caller's output is left as it was (`applyUpdateOut`).
-/

namespace LogDevice.Membership

/-- The shards of one node (`StorageMembership::NodeState`). -/
structure NodeState where
  shard_states : Finmap (fun _ : ShardIndex => ShardState)
  deriving DecidableEq

/-- A storage membership (`class StorageMembership`, with `Membership`'s version and
bootstrapping flag). -/
structure StorageMembership where
  version : MembershipVersion := EMPTY_VERSION
  bootstrapping : Bool := true
  node_states : Finmap (fun _ : NodeIndex => NodeState) := ∅
  metadata_shards : Finset ShardID := ∅
  deriving DecidableEq

namespace StorageMembership

/-- `StorageMembership::isEmpty`: no node is tracked. -/
def isEmpty (m : StorageMembership) : Bool :=
  decide (m.node_states.keys = ∅)

/-- `StorageMembership::getShardState`. -/
def getShardState (m : StorageMembership) (shard : ShardID) : Option ShardState :=
  (m.node_states.lookup shard.node).bind fun ns => ns.shard_states.lookup shard.shard

/-- `StorageMembership::shouldReadFromShard`: a shard not in the membership is not read from. -/
def shouldReadFromShard (m : StorageMembership) (shard : ShardID) : Bool :=
  match m.getShardState shard with
  | some state => shouldReadFrom state.storage_state
  | none => false

/-- `StorageMembership::canWriteToShard`: a shard not in the membership takes no writes. -/
def canWriteToShard (m : StorageMembership) (shard : ShardID) : Bool :=
  match m.getShardState shard with
  | some state => canWriteTo state.storage_state
  | none => false

/-- A shard that takes writes is read from. -/
lemma shouldReadFromShard_of_canWriteToShard {m : StorageMembership} {shard : ShardID}
    (h : m.canWriteToShard shard = true) : m.shouldReadFromShard shard = true := by
  unfold canWriteToShard at h
  unfold shouldReadFromShard
  cases hs : m.getShardState shard with
  | none => rw [hs] at h; cases h
  | some state =>
    rw [hs] at h
    have hrw : state.storage_state = .readWrite := by simpa [canWriteTo] using h
    simp [hrw, shouldReadFrom]

/-- `StorageMembership::readerView`: the shards of a storage set that readers must hear from, in
the storage set's order. -/
def readerView (m : StorageMembership) (storage_set : List ShardID) : List ShardID :=
  storage_set.filter m.shouldReadFromShard

/-- `StorageMembership::setShardState`: `node_states_[node].shard_states[shard] = state`, and the
metadata index follows the new metadata state. -/
def setShardState (m : StorageMembership) (shard : ShardID) (state : ShardState) :
    StorageMembership :=
  let ns := (m.node_states.lookup shard.node).getD ⟨∅⟩
  { m with
    node_states := m.node_states.insert shard.node ⟨ns.shard_states.insert shard.shard state⟩
    metadata_shards :=
      if state.metadata_state != .none then insert shard m.metadata_shards
      else m.metadata_shards.erase shard }

/-- `StorageMembership::eraseShardState`: a node left without shards is erased as well. -/
def eraseShardState (m : StorageMembership) (shard : ShardID) : StorageMembership :=
  let node_states :=
    match m.node_states.lookup shard.node with
    | none => m.node_states
    | some ns =>
      let shard_map := ns.shard_states.erase shard.shard
      if shard_map.keys = ∅ then m.node_states.erase shard.node
      else m.node_states.insert shard.node ⟨shard_map⟩
  { m with node_states := node_states, metadata_shards := m.metadata_shards.erase shard }

/-- A storage membership update (`StorageMembership::Update`): a base version, per-shard updates
in ascending `ShardID` order, and the finalize-bootstrapping request. -/
structure Update where
  base_version : MembershipVersion := EMPTY_VERSION
  shard_updates : List (ShardID × ShardState.Update) := []
  sorted : shard_updates.Pairwise (fun a b => a.1 < b.1) := by decide
  finalize_bootstrapping : Bool := false

/-- `StorageMembership::Update::isValid`: the update changes a shard or the bootstrapping status,
and each shard update is valid. -/
def Update.isValid (update : Update) : Bool :=
  (!update.shard_updates.isEmpty || update.finalize_bootstrapping) &&
    update.shard_updates.all fun kv => kv.2.isValid

/-- The state a shard not yet in the membership starts from when it is added. -/
def initialShardState : ShardState :=
  { storage_state := .invalid, flags := 0, metadata_state := .none, since_version := EMPTY_VERSION }

/-- One iteration of the loop of `applyUpdate`: the current state is read from the membership
`m` the update applies to, and the new state is committed to the working copy `target`. -/
def applyShardUpdate (m target : StorageMembership) (shard : ShardID)
    (shard_update : ShardState.Update) : Except E StorageMembership := do
  let current_shard_state ←
    match m.getShardState shard with
    | none =>
      if !isAddingNewShard shard_update.transition then throw .NOTINCONFIG
      else pure initialShardState
    | some st =>
      if isAddingNewShard shard_update.transition then throw .EXISTS
      else pure st
  if isBootstrappingShard shard_update.transition && !m.bootstrapping then throw .INVALID_PARAM
  let target_shard_state ←
    ShardState.transition current_shard_state shard_update target.version
  if shard_update.transition == .removeEmptyShard then
    return target.eraseShardState shard
  else
    return target.setShardState shard target_shard_state

/-- The loop of `applyUpdate` over `shard_updates`, stopping at the first failure. -/
def applyShardUpdates (m : StorageMembership) :
    StorageMembership → List (ShardID × ShardState.Update) → Except E StorageMembership
  | target, [] => .ok target
  | target, (shard, shard_update) :: rest => do
    let target' ← applyShardUpdate m target shard shard_update
    applyShardUpdates m target' rest

/-- `StorageMembership::applyUpdate`: the new membership, or the error code. -/
def applyUpdate (m : StorageMembership) (update : Update) : Except E StorageMembership := do
  if !update.isValid then throw .INVALID_PARAM
  if m.version != update.base_version then throw .VERSION_MISMATCH
  let target_membership_state ←
    applyShardUpdates m { m with version := m.version + 1 } update.shard_updates
  if update.finalize_bootstrapping then
    if !m.bootstrapping then throw .ALREADY
    return { target_membership_state with bootstrapping := false }
  return target_membership_state

/-- `applyUpdate` with its output parameter: `0` and the new membership on success, `-1` and the
output left as it was on failure. -/
def applyUpdateOut (m : StorageMembership) (update : Update) (out : StorageMembership) :
    Int × StorageMembership :=
  match m.applyUpdate update with
  | .ok m' => (0, m')
  | .error _ => (-1, out)

/-- The metadata shards `validate` expects: every shard whose metadata state is not `NONE`. -/
def expectedMetadataShards (m : StorageMembership) : Finset ShardID :=
  m.node_states.keys.biUnion fun n =>
    match m.node_states.lookup n with
    | none => ∅
    | some ns =>
      (ns.shard_states.keys.filter fun s =>
        (ns.shard_states.lookup s).any fun st => st.metadata_state != .none).image
        (ShardID.mk n)

/-- `StorageMembership::validate`. -/
def validate (m : StorageMembership) : Bool :=
  !(m.version == EMPTY_VERSION && !m.isEmpty) &&
    decide (∀ n ∈ m.node_states.keys, ∀ ns ∈ m.node_states.lookup n,
      ∀ s ∈ ns.shard_states.keys, ∀ st ∈ ns.shard_states.lookup s,
        st.isValid = true ∧ st.since_version ≤ m.version) &&
    decide (m.expectedMetadataShards = m.metadata_shards)

end StorageMembership

namespace StorageMembership

/-! ## Reading back `setShardState` and `eraseShardState` -/

@[simp] lemma setShardState_version (m : StorageMembership) (shard : ShardID) (state : ShardState) :
    (m.setShardState shard state).version = m.version := rfl

@[simp] lemma setShardState_bootstrapping (m : StorageMembership) (shard : ShardID)
    (state : ShardState) : (m.setShardState shard state).bootstrapping = m.bootstrapping := rfl

@[simp] lemma eraseShardState_version (m : StorageMembership) (shard : ShardID) :
    (m.eraseShardState shard).version = m.version := rfl

@[simp] lemma eraseShardState_bootstrapping (m : StorageMembership) (shard : ShardID) :
    (m.eraseShardState shard).bootstrapping = m.bootstrapping := rfl

/-- After `setShardState`, the shard holds the new state and every other shard is unchanged. -/
lemma getShardState_setShardState (m : StorageMembership) (shard shard' : ShardID)
    (state : ShardState) :
    (m.setShardState shard state).getShardState shard' =
      if shard' = shard then some state else m.getShardState shard' := by
  obtain ⟨n, i⟩ := shard
  obtain ⟨n', i'⟩ := shard'
  simp only [setShardState, getShardState]
  by_cases hn : n' = n
  · subst hn
    rw [Finmap.lookup_insert, Option.bind_some]
    by_cases hi : i' = i
    · subst hi
      simp [Finmap.lookup_insert]
    · rw [Finmap.lookup_insert_of_ne _ hi]
      cases m.node_states.lookup n' <;> simp [hi]
  · rw [Finmap.lookup_insert_of_ne _ hn]
    simp [hn]

/-- After `eraseShardState`, the shard is gone and every other shard is unchanged. -/
lemma getShardState_eraseShardState (m : StorageMembership) (shard shard' : ShardID) :
    (m.eraseShardState shard).getShardState shard' =
      if shard' = shard then none else m.getShardState shard' := by
  obtain ⟨n, i⟩ := shard
  obtain ⟨n', i'⟩ := shard'
  cases hns : m.node_states.lookup n with
  | none =>
    simp only [eraseShardState, getShardState, hns]
    by_cases h : ShardID.mk n' i' = ShardID.mk n i
    · cases h
      simp [hns]
    · simp [h]
  | some ns =>
    simp only [eraseShardState, getShardState, hns]
    by_cases hn : n' = n
    · subst hn
      split
      · -- the node had no other shard, and is erased with it
        next hempty =>
        rw [Finmap.lookup_erase]
        by_cases hi : i' = i
        · simp [hi]
        · have hmem : i' ∉ ns.shard_states.erase i := by
            rw [← Finmap.mem_keys, hempty]
            exact Finset.notMem_empty _
          rw [Finmap.mem_erase] at hmem
          have hnone : ns.shard_states.lookup i' = none :=
            Finmap.lookup_eq_none.mpr fun h => hmem ⟨hi, h⟩
          simp [hi, hns, hnone]
      · rw [Finmap.lookup_insert, Option.bind_some]
        by_cases hi : i' = i
        · subst hi
          simp [Finmap.lookup_erase]
        · simp [hi, hns, Finmap.lookup_erase_ne hi]
    · split
      · simp [hn, Finmap.lookup_erase_ne hn]
      · simp [hn, Finmap.lookup_insert_of_ne _ hn]

/-- The metadata index after `setShardState` follows the new metadata state. -/
lemma mem_metadata_shards_setShardState (m : StorageMembership) (shard shard' : ShardID)
    (state : ShardState) :
    shard' ∈ (m.setShardState shard state).metadata_shards ↔
      if shard' = shard then state.metadata_state ≠ .none else shard' ∈ m.metadata_shards := by
  by_cases h : shard' = shard
  · subst h
    by_cases hmd : state.metadata_state = .none <;> simp [setShardState, hmd]
  · by_cases hmd : state.metadata_state = .none <;> simp [setShardState, hmd, h]

/-- The metadata index after `eraseShardState` loses the erased shard. -/
lemma mem_metadata_shards_eraseShardState (m : StorageMembership) (shard shard' : ShardID) :
    shard' ∈ (m.eraseShardState shard).metadata_shards ↔
      shard' ≠ shard ∧ shard' ∈ m.metadata_shards := by
  simp [eraseShardState]

/-! ## What `validate` checks -/

/-- The conditions `validate` checks, stated through `getShardState`. -/
structure Valid (m : StorageMembership) : Prop where
  empty_version : m.version = EMPTY_VERSION → m.isEmpty = true
  shard_valid : ∀ shard st, m.getShardState shard = some st →
    st.isValid = true ∧ st.since_version ≤ m.version
  metadata_index : ∀ shard, shard ∈ m.metadata_shards ↔
    ∃ st, m.getShardState shard = some st ∧ st.metadata_state ≠ .none

/-- A shard is stored under its node in the two-level map exactly when `getShardState` finds it. -/
lemma getShardState_eq_some_iff (m : StorageMembership) (shard : ShardID) (st : ShardState) :
    m.getShardState shard = some st ↔
      ∃ ns, m.node_states.lookup shard.node = some ns ∧ ns.shard_states.lookup shard.shard = some st := by
  simp [getShardState, Option.bind_eq_some_iff]

lemma mem_expectedMetadataShards (m : StorageMembership) (shard : ShardID) :
    shard ∈ m.expectedMetadataShards ↔
      ∃ st, m.getShardState shard = some st ∧ st.metadata_state ≠ .none := by
  obtain ⟨n, i⟩ := shard
  simp only [getShardState_eq_some_iff]
  constructor
  · simp only [expectedMetadataShards, Finset.mem_biUnion]
    rintro ⟨n', -, hmem⟩
    cases hl : m.node_states.lookup n' with
    | none => simp [hl] at hmem
    | some ns =>
      simp only [hl, Finset.mem_image, Finset.mem_filter] at hmem
      obtain ⟨i', ⟨-, hany⟩, heq⟩ := hmem
      obtain ⟨hn, hi⟩ := ShardID.mk.inj heq
      subst hn hi
      cases hst : ns.shard_states.lookup i' with
      | none => simp [hst] at hany
      | some st =>
        simp only [hst, Option.any_some, bne_iff_ne, ne_eq] at hany
        exact ⟨st, ⟨ns, hl, hst⟩, hany⟩
  · rintro ⟨st, ⟨ns, hl, hst⟩, hmd⟩
    simp only [expectedMetadataShards, Finset.mem_biUnion]
    refine ⟨n, Finmap.mem_keys.mpr (Finmap.mem_of_lookup_eq_some hl), ?_⟩
    simp only [hl, Finset.mem_image, Finset.mem_filter]
    exact ⟨i, ⟨Finmap.mem_keys.mpr (Finmap.mem_of_lookup_eq_some hst), by simp [hst, hmd]⟩, rfl⟩

/-- The nested loops of `validate` visit exactly the shards `getShardState` finds. -/
lemma forall_shards_iff (m : StorageMembership) (P : ShardState → Prop) :
    (∀ n ∈ m.node_states.keys, ∀ ns ∈ m.node_states.lookup n,
      ∀ s ∈ ns.shard_states.keys, ∀ st ∈ ns.shard_states.lookup s, P st) ↔
      ∀ shard st, m.getShardState shard = some st → P st := by
  constructor
  · intro h shard st hget
    obtain ⟨ns, hl, hst⟩ := (getShardState_eq_some_iff m shard st).mp hget
    exact h shard.node (Finmap.mem_keys.mpr (Finmap.mem_of_lookup_eq_some hl)) ns hl
      shard.shard (Finmap.mem_keys.mpr (Finmap.mem_of_lookup_eq_some hst)) st hst
  · intro h n _ ns hl s _ st hst
    exact h ⟨n, s⟩ st ((getShardState_eq_some_iff m ⟨n, s⟩ st).mpr ⟨ns, hl, hst⟩)

/-- `validate` succeeds exactly on the memberships that satisfy `Valid`. -/
lemma validate_iff (m : StorageMembership) : m.validate = true ↔ m.Valid := by
  have hidx : m.expectedMetadataShards = m.metadata_shards ↔ ∀ shard,
      shard ∈ m.metadata_shards ↔ ∃ st, m.getShardState shard = some st ∧ st.metadata_state ≠ .none := by
    rw [Finset.ext_iff]
    simp only [mem_expectedMetadataShards]
    exact ⟨fun h s => (h s).symm, fun h s => (h s).symm⟩
  simp only [validate, Bool.and_eq_true, Bool.not_eq_true', Bool.and_eq_false_iff,
    beq_eq_false_iff_ne, ne_eq, decide_eq_true_eq,
    forall_shards_iff m (fun st => st.isValid = true ∧ st.since_version ≤ m.version), hidx]
  constructor
  · rintro ⟨⟨hempty, hshards⟩, hmeta⟩
    exact ⟨fun hv => by simpa using hempty.resolve_left (not_not.mpr hv), hshards, hmeta⟩
  · rintro ⟨hempty, hshards, hmeta⟩
    exact ⟨⟨(em (m.version = EMPTY_VERSION)).elim (fun hv => .inr (by simpa using hempty hv)) .inl,
      hshards⟩, hmeta⟩

end StorageMembership

end LogDevice.Membership
