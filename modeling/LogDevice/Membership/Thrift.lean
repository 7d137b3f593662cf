import LogDevice.Membership.Validate
import LogDevice.Lib.Loop

/-!
# The thrift form of a storage membership

Model of `MembershipThriftConverter` for storage memberships
(`membership/MembershipThriftConverter.cpp`, `membership/Membership.thrift`). `toThrift` writes the
protocol and membership versions, each node's shard states sorted by shard index, the metadata
shards and the bootstrapping flag. `fromThrift` rejects a newer protocol version (`NOTSUPPORTED`),
rebuilds the membership through `setShardState`, inserts the listed metadata shards, and rejects
what it built unless it passes `validate` (`BADMSG`).

The thrift indices are `u16` and its storage states are the thrift enumerations; the source's
`int16_t` indices, and its enumerations (tied to the thrift ones by `static_assert`s), go through
them unchanged, so the model keeps the membership's own types there. The thrift map `node_states`
is a `std::map`, kept as its entries in key order.

A node is rebuilt only from its shards, so a node without shards does not come back. The round trip
`fromThrift_toThrift` holds for the valid memberships in which every node holds a shard
(`NoEmptyNode`); `eraseShardState` erases a node with its last shard, so every membership that
`applyUpdate` builds is one of them (`noEmptyNode_applyUpdates`).
-/

namespace LogDevice.Membership

namespace thrift

/-- `thrift::ShardState`. -/
structure ShardState where
  shard_idx : ShardIndex
  storage_state : StorageState
  flags : StorageStateFlags
  metadata_state : MetaDataStorageState
  since_version : MembershipVersion
  manual_override : Bool
  deriving DecidableEq, Repr

/-- `thrift::ShardID`. -/
structure ShardID where
  node_idx : NodeIndex
  shard_idx : ShardIndex
  deriving DecidableEq, Repr

/-- `thrift::StorageMembership`. -/
structure StorageMembership where
  proto_version : UInt32
  membership_version : MembershipVersion
  node_states : List (NodeIndex × List ShardState)
  metadata_shards : List ShardID
  bootstrapping : Bool
  deriving DecidableEq, Repr

end thrift

namespace MembershipThriftConverter

/-- `MembershipThriftConverter::CURRENT_PROTO_VERSION`. -/
def CURRENT_PROTO_VERSION : UInt32 := 1

/-- The thrift form of the state of shard `shard_idx`. -/
def shardStateToThrift (shard_idx : ShardIndex) (shard_state : ShardState) : thrift.ShardState :=
  { shard_idx
    storage_state := shard_state.storage_state
    flags := shard_state.flags
    metadata_state := shard_state.metadata_state
    since_version := shard_state.since_version
    manual_override := shard_state.manual_override }

/-- A node's shard states in shard order, as `std::sort` by `shard_idx` leaves them. -/
def shardStatesToThrift (node_state : NodeState) : List thrift.ShardState :=
  (node_state.shard_states.keys.sort (· ≤ ·)).filterMap fun shard =>
    (node_state.shard_states.lookup shard).map (shardStateToThrift shard)

/-- The metadata shards in the set's order (by node, then shard), then sorted by shard index.
`std::sort` is not stable, so the source may order the shards of one index otherwise; `fromThrift`
reads the list as a set. -/
def metadataShardsToThrift (metadata_shards : Finset ShardID) : List thrift.ShardID :=
  let in_set_order := ((metadata_shards.image fun s => toLex (s.node, s.shard)).sort (· ≤ ·)).map
    fun p => ({ node_idx := (ofLex p).1, shard_idx := (ofLex p).2 } : thrift.ShardID)
  in_set_order.mergeSort fun a b => a.shard_idx ≤ b.shard_idx

/-- `MembershipThriftConverter::toThrift(const StorageMembership&)`. -/
def toThrift (storage_membership : StorageMembership) : thrift.StorageMembership :=
  { proto_version := CURRENT_PROTO_VERSION
    membership_version := storage_membership.version
    node_states := (storage_membership.node_states.keys.sort (· ≤ ·)).filterMap fun node =>
      (storage_membership.node_states.lookup node).map fun node_state =>
        (node, shardStatesToThrift node_state)
    metadata_shards := metadataShardsToThrift storage_membership.metadata_shards
    bootstrapping := storage_membership.bootstrapping }

/-- `MembershipThriftConverter::fromThrift(const thrift::ShardState&)`. -/
def shardStateFromThrift (shard_state : thrift.ShardState) : ShardState :=
  { storage_state := shard_state.storage_state
    flags := shard_state.flags
    metadata_state := shard_state.metadata_state
    since_version := shard_state.since_version
    manual_override := shard_state.manual_override }

/-- The loop of `fromThrift` over `node_states`: each listed shard goes through `setShardState`. -/
def setNodeStates (result : StorageMembership)
    (node_states : List (NodeIndex × List thrift.ShardState)) : StorageMembership :=
  node_states.foldl (fun result state =>
    state.2.foldl (fun result shard_state =>
      result.setShardState ⟨state.1, shard_state.shard_idx⟩ (shardStateFromThrift shard_state))
      result) result

/-- The loop of `fromThrift` over `metadata_shards`: each listed shard goes into the index. -/
def insertMetadataShards (result : StorageMembership) (metadata_shards : List thrift.ShardID) :
    StorageMembership :=
  metadata_shards.foldl (fun result meta_shard =>
    { result with
      metadata_shards := insert ⟨meta_shard.node_idx, meta_shard.shard_idx⟩ result.metadata_shards })
    result

/-- `MembershipThriftConverter::fromThrift(const thrift::StorageMembership&)`: the membership, or
the code the source leaves in `err` where it returns `nullptr`. -/
def fromThrift (storage_membership : thrift.StorageMembership) : Except E StorageMembership :=
  if storage_membership.proto_version > CURRENT_PROTO_VERSION then .error .NOTSUPPORTED
  else
    let result : StorageMembership := { version := storage_membership.membership_version }
    let result := setNodeStates result storage_membership.node_states
    let result := insertMetadataShards result storage_membership.metadata_shards
    let result := { result with bootstrapping := storage_membership.bootstrapping }
    if !result.validate then .error .BADMSG else .ok result

end MembershipThriftConverter

namespace StorageMembership

/-! ## Nodes without shards -/

/-- Every node the membership tracks holds a shard. -/
def NoEmptyNode (m : StorageMembership) : Prop :=
  ∀ n ns, m.node_states.lookup n = some ns → ns.shard_states.keys.Nonempty

lemma noEmptyNode_empty : ({} : StorageMembership).NoEmptyNode := by
  intro n ns hl
  simp [Finmap.lookup_empty] at hl

lemma NoEmptyNode.setShardState {m : StorageMembership} (h : m.NoEmptyNode) (shard : ShardID)
    (state : ShardState) : (m.setShardState shard state).NoEmptyNode := by
  intro n ns hl
  by_cases hn : n = shard.node
  · -- the node now holds `shard`
    subst hn
    simp only [StorageMembership.setShardState, Finmap.lookup_insert, Option.some.injEq] at hl
    subst hl
    exact ⟨shard.shard, Finmap.mem_keys.mpr (Finmap.mem_insert.mpr (.inl rfl))⟩
  · rw [StorageMembership.setShardState, Finmap.lookup_insert_of_ne _ hn] at hl
    exact h n ns hl

lemma NoEmptyNode.eraseShardState {m : StorageMembership} (h : m.NoEmptyNode) (shard : ShardID) :
    (m.eraseShardState shard).NoEmptyNode := by
  intro n ns hl
  cases hns : m.node_states.lookup shard.node with
  | none =>
    simp only [StorageMembership.eraseShardState, hns] at hl
    exact h n ns hl
  | some ns₀ =>
    simp only [StorageMembership.eraseShardState, hns] at hl
    by_cases hn : n = shard.node
    · subst hn
      split at hl
      · -- the node lost its last shard and went with it
        rw [Finmap.lookup_erase] at hl
        cases hl
      · next hne =>
        rw [Finmap.lookup_insert, Option.some.injEq] at hl
        subst hl
        exact Finset.nonempty_iff_ne_empty.mpr hne
    · split at hl
      · rw [Finmap.lookup_erase_ne hn] at hl
        exact h n ns hl
      · rw [Finmap.lookup_insert_of_ne _ hn] at hl
        exact h n ns hl

lemma NoEmptyNode.applyShardUpdates {m : StorageMembership} :
    ∀ {target target' : StorageMembership} {us : List (ShardID × ShardState.Update)},
      target.NoEmptyNode → applyShardUpdates m target us = .ok target' → target'.NoEmptyNode
  | _, _, [], h, hrun => by
    cases hrun
    exact h
  | target, _, (shard, su) :: rest, h, hrun => by
    obtain ⟨target₁, h₁, hrest⟩ := Except.bind_eq_ok_iff.mp hrun
    obtain ⟨cur, t, -, -, -, rfl⟩ := applyShardUpdate_eq_ok h₁
    refine NoEmptyNode.applyShardUpdates ?_ hrest
    split_ifs
    · exact h.eraseShardState shard
    · exact h.setShardState shard t

lemma NoEmptyNode.applyUpdate {m m' : StorageMembership} {u : Update} (h : m.NoEmptyNode)
    (hu : m.applyUpdate u = .ok m') : m'.NoEmptyNode := by
  obtain ⟨-, -, target, htarget, -, rfl⟩ := applyUpdate_eq_ok hu
  have hbumped : ({ m with version := m.version + 1 } : StorageMembership).NoEmptyNode := h
  have ht : target.NoEmptyNode := NoEmptyNode.applyShardUpdates (m := m) hbumped htarget
  split_ifs
  · exact ht
  · exact ht

/-- Every membership reached from the empty one by `applyUpdate`s tracks no node without shards. -/
lemma noEmptyNode_applyUpdates : ∀ (us : List Update) (m : StorageMembership), m.NoEmptyNode →
    (m.applyUpdates us).NoEmptyNode
  | [], _, h => h
  | u :: us, m, h => by
    simp only [applyUpdates, applyUpdateOut]
    cases hu : m.applyUpdate u with
    | error e => exact noEmptyNode_applyUpdates us m h
    | ok m' => exact noEmptyNode_applyUpdates us m' (h.applyUpdate hu)

end StorageMembership

namespace MembershipThriftConverter

open StorageMembership

/-! ## The loop over `node_states` -/

/-- The shards the loop of `fromThrift` sets, in order, each with its state. -/
def shardsOf (node_states : List (NodeIndex × List thrift.ShardState)) :
    List (ShardID × ShardState) :=
  node_states.flatMap fun state => state.2.map fun shard_state =>
    (⟨state.1, shard_state.shard_idx⟩, shardStateFromThrift shard_state)

lemma setNodeStates_eq_foldl (result : StorageMembership)
    (node_states : List (NodeIndex × List thrift.ShardState)) :
    setNodeStates result node_states =
      (shardsOf node_states).foldl (fun r p => r.setShardState p.1 p.2) result := by
  simp only [setNodeStates, shardsOf, List.foldl_flatMap, List.foldl_map]

section SetLoop

variable (l : List (ShardID × ShardState))

/-- A shard holds a state after the loop only if the loop set it so, or it held it before. -/
lemma getShardState_foldl_setShardState_eq_some : ∀ (l : List (ShardID × ShardState))
    (r : StorageMembership) {s : ShardID} {st : ShardState},
    (l.foldl (fun r p => r.setShardState p.1 p.2) r).getShardState s = some st →
      (s, st) ∈ l ∨ r.getShardState s = some st
  | [], _, _, _, h => .inr h
  | (a, b) :: l, r, s, st, h => by
    rcases getShardState_foldl_setShardState_eq_some l _ h with hmem | hset
    · exact .inl (List.mem_cons_of_mem _ hmem)
    · rw [getShardState_setShardState] at hset
      split_ifs at hset with hs
      · cases hset
        subst hs
        exact .inl List.mem_cons_self
      · exact .inr hset

/-- A shard the loop sets, or that held a state before, holds one after. -/
lemma isSome_getShardState_foldl_setShardState : ∀ (l : List (ShardID × ShardState))
    (r : StorageMembership) {s : ShardID},
    (r.getShardState s).isSome ∨ s ∈ l.map Prod.fst →
      ((l.foldl (fun r p => r.setShardState p.1 p.2) r).getShardState s).isSome
  | [], _, _, h => h.resolve_right List.not_mem_nil
  | (a, b) :: l, r, s, h => by
    refine isSome_getShardState_foldl_setShardState l _ ?_
    rw [getShardState_setShardState]
    by_cases hs : s = a
    · exact .inl (by simp [hs])
    · rcases h with h | h
      · exact .inl (by simpa [hs] using h)
      · exact .inr (by simpa [hs] using h)

/-- The loop tracks the nodes tracked before and the nodes of the shards it sets. -/
lemma mem_node_states_foldl_setShardState : ∀ (l : List (ShardID × ShardState))
    (r : StorageMembership) (n : NodeIndex),
    n ∈ (l.foldl (fun r p => r.setShardState p.1 p.2) r).node_states ↔
      n ∈ r.node_states ∨ ∃ p ∈ l, p.1.node = n
  | [], _, _ => by simp
  | (a, b) :: l, r, n => by
    rw [List.foldl_cons, mem_node_states_foldl_setShardState l, StorageMembership.setShardState]
    simp only [Finmap.mem_insert, List.mem_cons, exists_eq_or_imp]
    tauto

lemma version_foldl_setShardState (r : StorageMembership) :
    (l.foldl (fun r p => r.setShardState p.1 p.2) r).version = r.version :=
  Lib.foldl_invariant (fun r' => r'.version = r.version) (fun r p => r.setShardState p.1 p.2) l
    (fun _ _ _ h => h) r rfl

end SetLoop

/-- The metadata index lists exactly the shards whose metadata state is not `NONE`. -/
def MetadataIndexed (m : StorageMembership) : Prop :=
  ∀ shard, shard ∈ m.metadata_shards ↔
    ∃ st, m.getShardState shard = some st ∧ st.metadata_state ≠ .none

lemma MetadataIndexed.setShardState {m : StorageMembership} (h : MetadataIndexed m)
    (shard : ShardID) (state : ShardState) : MetadataIndexed (m.setShardState shard state) := by
  intro shard'
  rw [mem_metadata_shards_setShardState, getShardState_setShardState]
  split_ifs
  · simp
  · exact h shard'

/-! ## What `toThrift` writes -/

@[simp] lemma shardStateFromThrift_shardStateToThrift (shard_idx : ShardIndex) (st : ShardState) :
    shardStateFromThrift (shardStateToThrift shard_idx st) = st := rfl

lemma mem_shardStatesToThrift (ns : NodeState) (x : thrift.ShardState) :
    x ∈ shardStatesToThrift ns ↔
      ∃ i st, ns.shard_states.lookup i = some st ∧ shardStateToThrift i st = x := by
  simp only [shardStatesToThrift, List.mem_filterMap, Option.map_eq_some_iff, Finset.mem_sort,
    Finmap.mem_keys]
  constructor
  · rintro ⟨i, -, st, hst, rfl⟩
    exact ⟨i, st, hst, rfl⟩
  · rintro ⟨i, st, hst, rfl⟩
    exact ⟨i, Finmap.mem_of_lookup_eq_some hst, st, hst, rfl⟩

/-- The loop of `fromThrift` over what `toThrift` wrote sets each shard of the membership to its
state, and nothing else. -/
lemma mem_shardsOf_toThrift (m : StorageMembership) (s : ShardID) (st : ShardState) :
    (s, st) ∈ shardsOf (toThrift m).node_states ↔ m.getShardState s = some st := by
  simp only [shardsOf, toThrift, getShardState_eq_some_iff, List.mem_flatMap, List.mem_filterMap,
    List.mem_map, Option.map_eq_some_iff, Finset.mem_sort, Finmap.mem_keys]
  constructor
  · rintro ⟨_, ⟨n, -, ns, hl, rfl⟩, x, hx, hpair⟩
    obtain ⟨i, st', hst, rfl⟩ := (mem_shardStatesToThrift ns x).mp hx
    simp only [shardStateToThrift, Prod.mk.injEq] at hpair
    obtain ⟨rfl, rfl⟩ := hpair
    exact ⟨ns, hl, hst⟩
  · rintro ⟨ns, hl, hst⟩
    exact ⟨_, ⟨s.node, Finmap.mem_of_lookup_eq_some hl, ns, hl, rfl⟩, _,
      (mem_shardStatesToThrift ns _).mpr ⟨s.shard, st, hst, rfl⟩, rfl⟩

lemma mem_metadataShardsToThrift (metadata_shards : Finset ShardID) (x : thrift.ShardID) :
    x ∈ metadataShardsToThrift metadata_shards ↔ ⟨x.node_idx, x.shard_idx⟩ ∈ metadata_shards := by
  simp only [metadataShardsToThrift, List.mem_mergeSort, List.mem_map, Finset.mem_sort,
    Finset.mem_image]
  constructor
  · rintro ⟨_, ⟨s, hs, rfl⟩, rfl⟩
    exact hs
  · intro hx
    exact ⟨_, ⟨_, hx, rfl⟩, rfl⟩

/-! ## Reading back -/

/-- From a membership without shards, the loop over what `toThrift` wrote gives every shard of the
membership its state. -/
lemma getShardState_setNodeStates_toThrift (m : StorageMembership) (v : MembershipVersion)
    (s : ShardID) :
    (setNodeStates { version := v } (toThrift m).node_states).getShardState s =
      m.getShardState s := by
  rw [setNodeStates_eq_foldl]
  apply Option.ext
  intro st
  constructor
  · intro h
    rcases getShardState_foldl_setShardState_eq_some _ _ h with hmem | hempty
    · exact (mem_shardsOf_toThrift m s st).mp hmem
    · simp [getShardState, Finmap.lookup_empty] at hempty
  · -- the loop sets `s`, and only ever to its state in `m`
    intro h
    have hset : s ∈ (shardsOf (toThrift m).node_states).map Prod.fst :=
      List.mem_map.mpr ⟨(s, st), (mem_shardsOf_toThrift m s st).mpr h, rfl⟩
    obtain ⟨st', hst'⟩ := Option.isSome_iff_exists.mp
      (isSome_getShardState_foldl_setShardState _ { version := v } (.inr hset))
    rcases getShardState_foldl_setShardState_eq_some _ _ hst' with hmem | hempty
    · rw [hst', ← h, ← (mem_shardsOf_toThrift m s st').mp hmem]
    · simp [getShardState, Finmap.lookup_empty] at hempty

/-- The loop over what `toThrift` wrote tracks the nodes that hold a shard. -/
lemma mem_node_states_setNodeStates_toThrift {m : StorageMembership} (hn : m.NoEmptyNode)
    (v : MembershipVersion) (n : NodeIndex) :
    n ∈ (setNodeStates { version := v } (toThrift m).node_states).node_states ↔
      n ∈ m.node_states := by
  rw [setNodeStates_eq_foldl, mem_node_states_foldl_setShardState]
  simp only [Finmap.notMem_empty, false_or, Prod.exists]
  constructor
  · rintro ⟨s, st, hmem, rfl⟩
    obtain ⟨ns, hl, -⟩ := (getShardState_eq_some_iff m s st).mp ((mem_shardsOf_toThrift m s st).mp hmem)
    exact Finmap.mem_of_lookup_eq_some hl
  · -- a tracked node holds a shard, which the loop sets
    intro hmem
    obtain ⟨ns, hl⟩ := Option.isSome_iff_exists.mp (Finmap.lookup_isSome.mpr hmem)
    obtain ⟨i, hi⟩ := hn n ns hl
    obtain ⟨st, hst⟩ := Option.isSome_iff_exists.mp (Finmap.lookup_isSome.mpr (Finmap.mem_keys.mp hi))
    exact ⟨⟨n, i⟩, st, (mem_shardsOf_toThrift m _ st).mpr ((getShardState_eq_some_iff m _ st).mpr
      ⟨ns, hl, hst⟩), rfl⟩

/-- Two memberships that track the same nodes and give every shard the same state have the same
node map. -/
lemma node_states_eq_of_getShardState {m m' : StorageMembership}
    (hget : ∀ s, m.getShardState s = m'.getShardState s)
    (hnodes : ∀ n, n ∈ m.node_states ↔ n ∈ m'.node_states) : m.node_states = m'.node_states := by
  apply Finmap.ext_lookup
  intro n
  cases hl : m.node_states.lookup n with
  | none =>
    rw [eq_comm, Finmap.lookup_eq_none, ← hnodes, ← Finmap.lookup_eq_none]
    exact hl
  | some ns =>
    have hmem' : n ∈ m'.node_states := (hnodes n).mp (Finmap.mem_of_lookup_eq_some hl)
    obtain ⟨ns', hl'⟩ := Option.isSome_iff_exists.mp (Finmap.lookup_isSome.mpr hmem')
    rw [hl']
    obtain ⟨shards⟩ := ns
    obtain ⟨shards'⟩ := ns'
    -- the two nodes hold the same shards
    congr 2
    apply Finmap.ext_lookup
    intro i
    have hi := hget ⟨n, i⟩
    simp only [getShardState, hl, hl', Option.bind_some] at hi
    exact hi

lemma metadataIndexed_setNodeStates (v : MembershipVersion)
    (node_states : List (NodeIndex × List thrift.ShardState)) :
    MetadataIndexed (setNodeStates { version := v } node_states) := by
  rw [setNodeStates_eq_foldl]
  refine Lib.foldl_invariant MetadataIndexed
    (fun (r : StorageMembership) (p : ShardID × ShardState) => r.setShardState p.1 p.2) _
    (fun _ p _ h => h.setShardState p.1 p.2) _ ?_
  intro shard
  simp [getShardState, Finmap.lookup_empty]

lemma insertMetadataShards_eq (l : List thrift.ShardID) : ∀ r : StorageMembership,
    insertMetadataShards r l =
      { r with
        metadata_shards :=
          r.metadata_shards ∪ (l.map fun x => (⟨x.node_idx, x.shard_idx⟩ : ShardID)).toFinset } := by
  induction l with
  | nil =>
    intro r
    simp [insertMetadataShards]
  | cons x l ih =>
    intro r
    simp only [insertMetadataShards, List.foldl_cons] at ih ⊢
    rw [ih]
    simp [Finset.insert_union, Finset.union_insert]

/-- Reading back what `toThrift` wrote gives the membership back, when it is valid and every node
holds a shard. -/
lemma fromThrift_toThrift_of_valid {m : StorageMembership} (hv : m.Valid) (hn : m.NoEmptyNode) :
    fromThrift (toThrift m) = .ok m := by
  have hpv : ¬(toThrift m).proto_version > CURRENT_PROTO_VERSION := UInt32.lt_irrefl _
  unfold fromThrift
  rw [if_neg hpv]
  dsimp only
  set r := setNodeStates { version := (toThrift m).membership_version } (toThrift m).node_states
    with hr
  have hget := getShardState_setNodeStates_toThrift m (toThrift m).membership_version
  -- both indexes list the shards with a metadata state
  have hmeta : r.metadata_shards = m.metadata_shards := by
    ext shard
    rw [metadataIndexed_setNodeStates, hv.metadata_index, hget]
  have hlisted : ((toThrift m).metadata_shards.map
      fun x => (⟨x.node_idx, x.shard_idx⟩ : ShardID)).toFinset = m.metadata_shards := by
    ext shard
    simp only [List.mem_toFinset, List.mem_map, toThrift, mem_metadataShardsToThrift]
    constructor
    · rintro ⟨x, hx, rfl⟩
      exact hx
    · intro hs
      exact ⟨⟨shard.node, shard.shard⟩, hs, rfl⟩
  have hversion : r.version = m.version := by
    rw [hr, setNodeStates_eq_foldl, version_foldl_setShardState]
    rfl
  have hnodes : r.node_states = m.node_states :=
    node_states_eq_of_getShardState hget (mem_node_states_setNodeStates_toThrift hn _)
  rw [insertMetadataShards_eq]
  dsimp only
  rw [hlisted, hmeta, Finset.union_self, hversion, hnodes]
  show (if (!m.validate) = true then Except.error E.BADMSG else Except.ok m) = Except.ok m
  rw [(validate_iff m).mpr hv]
  rfl

/-- Every membership reached from the empty one by fewer than `2 ^ 64` updates reads back from its
thrift form. -/
lemma fromThrift_toThrift_applyUpdates (us : List Update) (hlen : us.length < 2 ^ 64) :
    fromThrift (toThrift (({} : StorageMembership).applyUpdates us)) =
      .ok (({} : StorageMembership).applyUpdates us) :=
  fromThrift_toThrift_of_valid (applyUpdates_valid us {} empty_valid (by simpa [EMPTY_VERSION] using hlen))
    (noEmptyNode_applyUpdates us {} noEmptyNode_empty)

theorem fromThrift_toThrift_applyUpdates_nil :
    fromThrift (toThrift (({} : StorageMembership).applyUpdates [])) =
      .ok (({} : StorageMembership).applyUpdates []) :=
  fromThrift_toThrift_applyUpdates [] (by decide)

/-- A membership at version 2 whose one shard, `N0:S1`, stores metadata. -/
def metadataShardMembership : StorageMembership :=
  ({ version := 2 } : StorageMembership).setShardState ⟨0, 1⟩
    { storage_state := .readWrite, flags := 0, metadata_state := .metadata, since_version := 2 }

/-- A valid membership at version 1 that tracks node 0 without any shard. -/
def shardlessNodeMembership : StorageMembership :=
  { version := 1, node_states := Finmap.singleton 0 ⟨∅⟩ }

end MembershipThriftConverter

end LogDevice.Membership
