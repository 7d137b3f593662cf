import LogDevice.Rebuilding.Invariant

/-!
# When a node becomes `AUTHORITATIVE_EMPTY`

A node marked `AUTHORITATIVE_EMPTY` lets readers skip its shard, so when the mark is set and how
long it stays are what the rest of the system relies on.

When: `recompute_empty_iff` (in `AuthStatus.lean`) says exactly when a node rebuilt in full in
`RESTORE` mode becomes empty. Every candidate donor must have rebuilt it authoritatively at a
version that counts (`minAuthCompleteVersion`, which a node added later raises only if it is not
itself among the authoritative donors), or every candidate must have rebuilt it, authoritatively
or for the shard's current version, with no node of the shard recoverable. The first way does not
ask for the current version: `empty_before_current_version` is a run where a node becomes empty
although a donor that may hold its data rebuilt it for an older version only, while a node added
later is still recoverable.

How long: `EmptyIn.update` says that an empty, unacked node stays so across any call of `update`
from a reachable set, unless the record acks it or replaces its entry (`replacesNode`). The
entry of its shard is never erased meanwhile, since it has a node that did not ack.
-/

namespace LogDevice.Rebuilding

/-- The record acks, restarts or aborts the rebuilding of node `k`'s shard at offset `shard`. -/
def EventLogRecord.replacesNode (record : EventLogRecord) (shard : ShardIndex) (k : NodeIndex) :
    Bool :=
  match record with
  | .SHARD_NEEDS_REBUILD header _ => header.shardIdx == shard && header.nodeIdx == k
  | .SHARD_ACK_REBUILT header => header.shardIdx == shard && header.nodeIdx == k
  | .SHARD_ABORT_REBUILD header => header.shardIdx == shard && header.nodeIdx == k
  | _ => false

namespace RebuildingShardInfo

/-- Node `k` is in the shard's entry, `AUTHORITATIVE_EMPTY` and not acked. -/
def EmptyAt (si : RebuildingShardInfo) (k : NodeIndex) : Prop :=
  ∃ ni, si.nodes_.lookup k = some ni ∧ ni.auth_status = .AUTHORITATIVE_EMPTY ∧ ni.acked = false

section

variable {si si' : RebuildingShardInfo} {k : NodeIndex}

lemma EmptyAt.hasUnacked (h : EmptyAt si k) : HasUnacked si :=
  let ⟨ni, hl, _, ha⟩ := h
  ⟨k, ni, hl, ha⟩

/-- An update of the node that keeps its status and its ack keeps it empty. -/
lemma EmptyAt.map (h : EmptyAt si k) {f : NodeInfo → NodeInfo}
    (hl : si'.nodes_.lookup k = (si.nodes_.lookup k).map f)
    (hst : ∀ n, (f n).auth_status = n.auth_status) (ha : ∀ n, (f n).acked = n.acked) :
    EmptyAt si' k := by
  obtain ⟨ni, hni, hempty, hacked⟩ := h
  rw [hni] at hl
  exact ⟨f ni, hl, (hst ni).trans hempty, (ha ni).trans hacked⟩

lemma EmptyAt.of_lookup (h : EmptyAt si k) (hl : si'.nodes_.lookup k = si.nodes_.lookup k) :
    EmptyAt si' k :=
  h.map (show si'.nodes_.lookup k = (si.nodes_.lookup k).map id by simp [hl]) (fun _ => rfl)
    fun _ => rfl

/-- Recomputing the statuses keeps an empty, unacked node so. -/
lemma EmptyAt.recompute (h : EmptyAt si k) (storage_nodes : Finset NodeIndex) :
    EmptyAt (si.recomputeAuthoritativeStatus storage_nodes) k := by
  obtain ⟨si₁, hr, -, heq⟩ := recomputeAuthoritativeStatus_eq storage_nodes si
  obtain ⟨ni, hni, hempty, hacked⟩ := h
  obtain ⟨ni', hni', hre⟩ := rel_rechecked_some_left (hni ▸ hr.nodes k)
  rw [heq]
  exact ⟨ni', hni', hre.empty_sticky hacked hempty, hre.acked.trans hacked⟩

end

end RebuildingShardInfo

namespace EventLogRebuildingSet

open RebuildingShardInfo

/-- Node `k` of shard offset `shard` is in the rebuilding set, `AUTHORITATIVE_EMPTY` and not acked. -/
def EmptyIn (s : EventLogRebuildingSet) (shard : ShardIndex) (k : NodeIndex) : Prop :=
  ∃ si, s.shards_.lookup shard = some si ∧ si.EmptyAt k

instance (s : EventLogRebuildingSet) (shard : ShardIndex) (k : NodeIndex) :
    Decidable (s.EmptyIn shard k) :=
  decidable_of_iff
    (((s.shards_.lookup shard).bind (·.nodes_.lookup k)).any fun ni =>
      ni.auth_status == .AUTHORITATIVE_EMPTY && !ni.acked) (by
    unfold EmptyIn EmptyAt
    cases hs : s.shards_.lookup shard with
    | none => simp
    | some si =>
      cases hk : si.nodes_.lookup k with
      | none => simp [hk]
      | some ni => simp [hk])

section

variable {s s' : EventLogRebuildingSet} {storage_nodes : Finset NodeIndex} {lsn : Lsn}
  {shard : ShardIndex} {k : NodeIndex}

/-- An update of one entry keeps the node empty if, at the node's shard, it does. -/
lemma EmptyIn.withShard (h : s.EmptyIn shard k) {sh : ShardIndex} {o : Option RebuildingShardInfo}
    (ho : shard = sh → ∀ si, s.shards_.lookup sh = some si → si.EmptyAt k →
      ∃ si', o = some si' ∧ si'.EmptyAt k) :
    (s.withShard sh o).EmptyIn shard k := by
  obtain ⟨si, hsi, he⟩ := h
  by_cases hs : shard = sh
  · subst hs
    obtain ⟨si', ho', he'⟩ := ho rfl si hsi he
    exact ⟨si', by rw [lookup_withShard, if_pos rfl, ho'], he'⟩
  · exact ⟨si, by rw [lookup_withShard, if_neg hs, hsi], he⟩

/-! ## Each handler keeps an empty node empty -/

lemma EmptyIn.onShardNeedsRebuild (h : s.EmptyIn shard k) {header : SHARD_NEEDS_REBUILD_Header}
    {time_ranges : PerDataClassTimeRanges}
    (hs : s.onShardNeedsRebuild lsn header time_ranges storage_nodes = .ok s')
    (hne : ¬(header.shardIdx = shard ∧ header.nodeIdx = k)) : s'.EmptyIn shard k := by
  rcases onShardNeedsRebuild_ok hs with ⟨it, -, -, rfl⟩ | ⟨si₀, mode, rec, drain, cur, hsi₀, rfl⟩
  · -- the drain of another node of the shard
    refine h.withShard fun hsh si hsi he => ⟨_, rfl, he.of_lookup ?_⟩
    have hk : k ≠ header.nodeIdx := fun hk => hne ⟨hsh.symm, hk.symm⟩
    simp only [hsi, Option.getD_some]
    exact Lib.AList.lookup_replace_ne hk
  · -- another node of the shard restarts: the node's entry is carried over, then recomputed
    refine h.withShard fun hsh si hsi he => ⟨_, rfl, EmptyAt.recompute (he.of_lookup ?_) _⟩
    have hk : k ≠ header.nodeIdx := fun hk => hne ⟨hsh.symm, hk.symm⟩
    rw [lookup_startRebuilding_ne _ _ _ _ _ _ _ _ hk]
    rcases hsi₀ with ⟨rfl, -⟩ | rfl
    · simp [hsi]
    · rw [lookup_deleteShard, if_neg hk]
      simp [hsi]

lemma EmptyIn.onShardAckRebuilt (hinv : Inv s) (h : s.EmptyIn shard k)
    {header : SHARD_ACK_REBUILT_Header}
    (hs : s.onShardAckRebuilt lsn header storage_nodes = .ok s')
    (hne : ¬(header.shardIdx = shard ∧ header.nodeIdx = k)) : s'.EmptyIn shard k := by
  obtain ⟨si, ni, hsi, -, hni, -, -, rfl⟩ := onShardAckRebuilt_ok hs
  refine h.withShard fun hsh si' hsi' he => ?_
  rw [hsi] at hsi'
  cases hsi'
  have hk : k ≠ header.nodeIdx := fun hk => hne ⟨hsh.symm, hk.symm⟩
  have he' : (ackRebuilt si lsn header ni).EmptyAt k := he.of_lookup (lookup_ackRebuilt_ne _ _ _ _ hk)
  -- the node has not acked, so the entry is not erased
  have hc := counted_ackRebuilt si lsn header ni (hinv _ _ hsi).1.counted hni
  rw [if_neg (by simpa using hc.num_acked_ne he'.hasUnacked)]
  exact ⟨_, rfl, he'.recompute storage_nodes⟩

lemma EmptyIn.onShardIsRebuilt (h : s.EmptyIn shard k) {header : SHARD_IS_REBUILT_Header}
    (hs : s.onShardIsRebuilt header storage_nodes = .ok s') : s'.EmptyIn shard k := by
  obtain ⟨si, hsi, -, rfl⟩ := onShardIsRebuilt_ok hs
  refine h.withShard fun hsh si' hsi' he => ?_
  rw [hsi] at hsi'
  cases hsi'
  -- recording the donor changes neither the node's status nor its ack
  exact ⟨_, rfl, EmptyAt.recompute (he.map (Lib.AList.lookup_mapVal _ k)
    (donorComplete_auth_status header) (donorComplete_acked header)) storage_nodes⟩

lemma EmptyIn.onShardAbortRebuild (hinv : Inv s) (h : s.EmptyIn shard k)
    {header : SHARD_ABORT_REBUILD_Header}
    (hs : s.onShardAbortRebuild lsn header storage_nodes = .ok s')
    (hne : ¬(header.shardIdx = shard ∧ header.nodeIdx = k)) : s'.EmptyIn shard k := by
  obtain ⟨si, hsi, -, rfl⟩ := onShardAbortRebuild_ok hs
  refine h.withShard fun hsh si' hsi' he => ?_
  rw [hsi] at hsi'
  cases hsi'
  have hk : k ≠ header.nodeIdx := fun hk => hne ⟨hsh.symm, hk.symm⟩
  have he' : (si.deleteShard header.nodeIdx).EmptyAt k :=
    he.of_lookup (by rw [lookup_deleteShard, if_neg hk])
  -- the node has not acked, so the entry is not erased
  have hc : Counted (si.deleteShard header.nodeIdx) := (hinv _ _ hsi).1.counted.deleteShard
  rw [if_neg (by simpa using hc.num_acked_ne he'.hasUnacked)]
  refine ⟨_, rfl, EmptyAt.recompute ?_ storage_nodes⟩
  exact he'.of_lookup rfl

lemma EmptyIn.onShardUndrain (h : s.EmptyIn shard k) {header : SHARD_UNDRAIN_Header}
    (hs : s.onShardUndrain header = .ok s') : s'.EmptyIn shard k := by
  obtain ⟨si, ni, hsi, hni, rfl⟩ := onShardUndrain_ok hs
  refine h.withShard fun hsh si' hsi' he => ?_
  rw [hsi] at hsi'
  cases hsi'
  refine ⟨_, rfl, ?_⟩
  by_cases hk : k = header.nodeIdx
  · -- the undrained node itself keeps its status and its ack
    rw [hk] at he ⊢
    have hmem : header.nodeIdx ∈ si.nodes_ := AList.lookup_isSome.mp (by simp [hni])
    obtain ⟨n, hn, hempty, hacked⟩ := he
    rw [hni] at hn
    cases hn
    exact ⟨_, Lib.AList.lookup_replace_self hmem, hempty, hacked⟩
  · exact he.of_lookup (Lib.AList.lookup_replace_ne hk)

lemma EmptyIn.onShardDonorProgress (h : s.EmptyIn shard k) {header : SHARD_DONOR_PROGRESS_Header}
    (hs : s.onShardDonorProgress header = .ok s') : s'.EmptyIn shard k := by
  obtain ⟨si, cur, hsi, -, -, rfl⟩ := onShardDonorProgress_ok hs
  refine h.withShard fun hsh si' hsi' he => ?_
  rw [hsi] at hsi'
  cases hsi'
  exact ⟨_, rfl, he.of_lookup rfl⟩

lemma EmptyIn.onShardUnrecoverable (h : s.EmptyIn shard k) {header : SHARD_UNRECOVERABLE_Header}
    (hs : s.onShardUnrecoverable header storage_nodes = .ok s') : s'.EmptyIn shard k := by
  obtain ⟨si, hsi, -, rfl⟩ := onShardUnrecoverable_ok hs
  refine h.withShard fun hsh si' hsi' he => ?_
  rw [hsi] at hsi'
  cases hsi'
  -- clearing `recoverable` changes neither the node's status nor its ack
  have he' : (si.setShardRecoverable header.nodeIdx false).EmptyAt k :=
    he.map (lookup_setShardRecoverable si header.nodeIdx false k)
      (fun n => by split <;> rfl) (fun n => by split <;> rfl)
  exact ⟨_, rfl, he'.recompute storage_nodes⟩

lemma EmptyIn.onEvent (hinv : Inv s) (h : s.EmptyIn shard k) {record : EventLogRecord}
    (hs : s.onEvent lsn record storage_nodes = .ok s') (hne : record.replacesNode shard k = false) :
    s'.EmptyIn shard k := by
  cases record with
  | SHARD_NEEDS_REBUILD header time_ranges =>
    exact h.onShardNeedsRebuild hs (by simpa [EventLogRecord.replacesNode] using hne)
  | SHARD_ACK_REBUILT header =>
    exact h.onShardAckRebuilt hinv hs (by simpa [EventLogRecord.replacesNode] using hne)
  | SHARD_IS_REBUILT header => exact h.onShardIsRebuilt hs
  | SHARD_ABORT_REBUILD header =>
    exact h.onShardAbortRebuild hinv hs (by simpa [EventLogRecord.replacesNode] using hne)
  | SHARD_UNDRAIN header => exact h.onShardUndrain hs
  | SHARD_DONOR_PROGRESS header => exact h.onShardDonorProgress hs
  | SHARD_UNRECOVERABLE header => exact h.onShardUnrecoverable hs

/-- A call of `update` keeps an empty, unacked node so, unless the record acks it or replaces its
entry. -/
lemma EmptyIn.update (hinv : Inv s) (hlt : s.last_seen_lsn_ ≤ lsn) (h : s.EmptyIn shard k)
    {record : EventLogRecord} (hne : record.replacesNode shard k = false) :
    (s.update lsn record storage_nodes).2.EmptyIn shard k := by
  rw [update_eq]
  split
  next s' hs =>
    have h₁ : EmptyIn { s with last_seen_lsn_ := lsn } shard k := h
    have h₂ := h₁.onEvent (hinv.last_seen hlt) hs hne
    exact h₂
  next => exact h

end

/-- When a node rebuilt in full in `RESTORE` mode is `AUTHORITATIVE_EMPTY` after its status is
recomputed: it already was, or every candidate donor rebuilt it authoritatively at a version that
counts, or every candidate donor rebuilt it (so, or for the shard's current version) and no node of
the shard is recoverable. And in every reachable set, an empty unacked node stays so across a
call of `update` unless the record acks it, restarts or aborts its rebuilding. -/
theorem authoritativeEmpty_iff_sticky :
    (∀ (shard_info : RebuildingShardInfo) (nidx : NodeIndex) (node_info : NodeInfo)
        (storage_nodes : Finset NodeIndex),
        node_info.acked = false → node_info.mode = .RESTORE → node_info.dc_dirty_ranges = [] →
        ((shard_info.recomputeShardAuthoritativeStatus nidx node_info storage_nodes).1.auth_status =
            .AUTHORITATIVE_EMPTY ↔
          node_info.auth_status = .AUTHORITATIVE_EMPTY ∨
            (∀ n ∈ candidateDonors shard_info nidx node_info storage_nodes,
              authoritativelyComplete node_info (shard_info.minAuthCompleteVersion node_info) n) ∨
            ((∀ n ∈ candidateDonors shard_info nidx node_info storage_nodes,
                authoritativelyComplete node_info (shard_info.minAuthCompleteVersion node_info) n ∨
                  shard_info.completeForVersion node_info n) ∧
              shard_info.num_recoverable_ = 0))) ∧
    (∀ (records : List (Lsn × EventLogRecord × Finset NodeIndex)) (s s' : EventLogRebuildingSet)
        (lsn : Lsn) (record : EventLogRecord) (storage_nodes : Finset NodeIndex)
        (shard : ShardIndex) (k : NodeIndex),
        Lib.Run UpdateStep {} records s → UpdateStep s (lsn, record, storage_nodes) s' →
        s.EmptyIn shard k → record.replacesNode shard k = false → s'.EmptyIn shard k) := by
  constructor
  · intro shard_info nidx node_info storage_nodes hacked hmode hdirty
    by_cases hst : node_info.auth_status = .AUTHORITATIVE_EMPTY
    · -- an empty node stays empty, whatever the donors did
      exact iff_of_true (recompute_empty shard_info nidx node_info storage_nodes hacked hst)
        (.inl hst)
    · rw [recompute_empty_iff shard_info nidx node_info storage_nodes hacked hst hmode hdirty]
      exact (or_iff_right hst).symm
  · rintro records s s' lsn record storage_nodes shard k hrun ⟨hlt⟩ he hne
    exact he.update (inv_of_run hrun) (UInt64.le_of_lt hlt) hne

/-! ## A node empty before the current version -/

/-- Node 0 loses its shard at LSN 10 and nodes 1 and 2 rebuild it, authoritatively, for that
version; then node 1 loses its shard at LSN 20, once node 3 has left the storage membership. -/
def emptyEarlyRecords : List (Lsn × EventLogRecord × Finset NodeIndex) :=
  [(10, .SHARD_NEEDS_REBUILD { nodeIdx := 0, shardIdx := 0 } [], {0, 1, 2, 3}),
   (11, .SHARD_IS_REBUILT { donorNodeIdx := 1, shardIdx := 0, version := 10 }, {0, 1, 2, 3}),
   (12, .SHARD_IS_REBUILT { donorNodeIdx := 2, shardIdx := 0, version := 10 }, {0, 1, 2, 3}),
   (20, .SHARD_NEEDS_REBUILD { nodeIdx := 1, shardIdx := 0 } [], {0, 1, 2})]

/-- The rebuilding set after `emptyEarlyRecords`. -/
def emptyEarly : EventLogRebuildingSet := ({} : EventLogRebuildingSet).replay emptyEarlyRecords

/-- In the set reached by `emptyEarlyRecords`, node 0 is `AUTHORITATIVE_EMPTY`, unacked and
rebuilt in full in `RESTORE` mode. Yet node 2, of the storage membership, outside the rebuilding set
and so able to hold data, rebuilt it for version 10 only, below the shard's version 20, and only
authoritatively at 10, below the version 20 of node 1, added later and still recoverable. -/
theorem empty_before_current_version :
    Lib.Run UpdateStep {} emptyEarlyRecords emptyEarly ∧
      (emptyEarly.shards_.lookup 0).map (·.version) = some 20 ∧
      ((emptyEarly.shards_.lookup 0).bind (·.nodes_.lookup 0)).map
          (fun ni => (ni.auth_status, ni.acked, ni.mode)) =
        some (.AUTHORITATIVE_EMPTY, false, .RESTORE) ∧
      ((emptyEarly.shards_.lookup 0).bind (·.nodes_.lookup 0)).map
          (fun ni => (ni.dc_dirty_ranges.isEmpty, ni.donors_complete.lookup 2,
            ni.donors_complete_authoritatively.lookup 2)) =
        some (true, some 10, some 10) ∧
      ((emptyEarly.shards_.lookup 0).bind (·.nodes_.lookup 2)).isSome = false ∧
      ((emptyEarly.shards_.lookup 0).bind (·.nodes_.lookup 1)).map
          (fun ni => (ni.version, ni.recoverable, ni.acked)) = some (20, true, false) :=
  ⟨run_replay _ _ (by decide), by decide +kernel, by decide +kernel, by decide +kernel,
    by decide +kernel, by decide +kernel⟩

/-- One more record after `emptyEarlyRecords`, node 1 unrecoverable, leaves node 0 empty. -/
theorem authoritativeEmpty_iff_sticky_unrecoverable :
    (emptyEarly.update 21 (.SHARD_UNRECOVERABLE { nodeIdx := 1, shardIdx := 0 }) {0, 1, 2}).2.EmptyIn
      0 0 :=
  authoritativeEmpty_iff_sticky.2 emptyEarlyRecords emptyEarly _ 21 _ {0, 1, 2} 0 0
    (run_replay _ _ (by decide)) (.mk (by decide +kernel)) (by decide +kernel) rfl

end EventLogRebuildingSet

end LogDevice.Rebuilding
