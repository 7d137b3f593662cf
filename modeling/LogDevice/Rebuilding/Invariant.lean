import LogDevice.Lib.Run
import LogDevice.Rebuilding.Update

/-!
# The invariant of the rebuilding set

What `checkConsistency` checks, and more, holds of every shard's entry after every call of
`update` on records read in LSN order (`ShardInv`): the counters `num_acked_` and
`num_recoverable_` count what they say, every node has a status consistent with its flags, some node
has not acked (an entry whose nodes all acked is erased), no node was put in the set at a version
later than the shard's, and every remaining donor has a progress entry.

The argument is the one of `Lib.Run.invariant`. A handler recomputes the statuses of the shard it
touches, except the handlers that change neither the flags nor the donors of any node; before that
recomputation the entry only needs to be `Consistent` (counters, an unacked node, versions), since
the recomputation establishes the rest (`shardInv_recomputeAuthoritativeStatus`).
-/

namespace LogDevice.Rebuilding

namespace RebuildingShardInfo

/-- Every node of the shard was put in the rebuilding set at a version up to `v`. -/
def VersionsLe (si : RebuildingShardInfo) (v : Lsn) : Prop :=
  ∀ k ni, si.nodes_.lookup k = some ni → ni.version ≤ v

/-- Some node of the shard has not acked. -/
def HasUnacked (si : RebuildingShardInfo) : Prop :=
  ∃ k ni, si.nodes_.lookup k = some ni ∧ ni.acked = false

/-- What holds of a shard's entry before its statuses are recomputed. -/
structure Consistent (si : RebuildingShardInfo) : Prop where
  counted : Counted si
  unacked : HasUnacked si
  versions_le : VersionsLe si si.version

/-- The invariant of a shard's entry. -/
structure ShardInv (si : RebuildingShardInfo) : Prop extends Consistent si where
  status_ok : ∀ k ni, si.nodes_.lookup k = some ni → StatusOk ni
  donors_tracked : DonorsTracked si

/-! ## The operations and the invariant's parts -/

section

variable {si : RebuildingShardInfo} {node : NodeIndex} {v : Lsn}

lemma VersionsLe.mono {v' : Lsn} (h : VersionsLe si v) (hv : v ≤ v') : VersionsLe si v' :=
  fun k ni hl => UInt64.le_trans (h k ni hl) hv

lemma VersionsLe.setShardAcked (h : VersionsLe si v) (acked : Bool) :
    VersionsLe (si.setShardAcked node acked) v := by
  intro k ni' hl
  rw [lookup_setShardAcked] at hl
  obtain ⟨ni, hni, rfl⟩ := Option.map_eq_some_iff.mp hl
  split <;> exact h k ni hni

lemma VersionsLe.setShardRecoverable (h : VersionsLe si v) (recoverable : Bool) :
    VersionsLe (si.setShardRecoverable node recoverable) v := by
  intro k ni' hl
  rw [lookup_setShardRecoverable] at hl
  obtain ⟨ni, hni, rfl⟩ := Option.map_eq_some_iff.mp hl
  split <;> exact h k ni hni

lemma VersionsLe.deleteShard (h : VersionsLe si v) : VersionsLe (si.deleteShard node) v := by
  intro k ni hl
  rw [lookup_deleteShard] at hl
  split at hl
  · cases hl
  · exact h k ni hl

lemma HasUnacked.setShardRecoverable (h : HasUnacked si) (recoverable : Bool) :
    HasUnacked (si.setShardRecoverable node recoverable) := by
  obtain ⟨k, ni, hl, hacked⟩ := h
  refine ⟨k, _, by rw [lookup_setShardRecoverable, hl]; rfl, ?_⟩
  split <;> exact hacked

/-- An entry whose counter of acked nodes is not the number of its nodes has an unacked node. -/
lemma Counted.hasUnacked (h : Counted si) (hne : si.num_acked_ ≠ si.nodes_.entries.length) :
    HasUnacked si := by
  have hlt : ackedCount si.nodes_ ≠ si.nodes_.entries.length := h.num_acked ▸ hne
  have hnot : ¬∀ p ∈ si.nodes_.entries, p.2.acked = true := fun hall =>
    hlt (List.countP_eq_length.mpr hall)
  simp only [not_forall, Bool.not_eq_true] at hnot
  obtain ⟨⟨k, ni⟩, hmem, hacked⟩ := hnot
  exact ⟨k, ni, AList.mem_lookup_iff.mpr hmem, hacked⟩

/-- Conversely, an entry with an unacked node has fewer acked nodes than nodes. -/
lemma Counted.num_acked_ne (h : Counted si) (hu : HasUnacked si) :
    si.num_acked_ ≠ si.nodes_.entries.length := by
  obtain ⟨k, ni, hl, hacked⟩ := hu
  rw [h.num_acked]
  intro hall
  have hmem : (⟨k, ni⟩ : Sigma fun _ : NodeIndex => NodeInfo) ∈ si.nodes_.entries :=
    AList.mem_lookup_iff.mp hl
  have := List.countP_eq_length.mp hall _ hmem
  simp [hacked] at this

/-- Updating a node in place without touching what the invariant looks at keeps it. -/
lemma ShardInv.replace (h : ShardInv si) {ni ni' : NodeInfo} (hl : si.nodes_.lookup node = some ni)
    (hacked : ni'.acked = ni.acked) (hrec : ni'.recoverable = ni.recoverable)
    (hstatus : ni'.auth_status = ni.auth_status) (hversion : ni'.version = ni.version)
    (hdonors : ni'.donors_remaining = ni.donors_remaining) :
    ShardInv { si with nodes_ := si.nodes_.replace node ni' } := by
  have hmem : node ∈ si.nodes_ := AList.lookup_isSome.mp (by simp [hl])
  -- every node of the new entry is a node of the old one, or `ni'`, which looks the same
  have hcases : ∀ k n, (si.nodes_.replace node ni').lookup k = some n →
      si.nodes_.lookup k = some n ∨ (k = node ∧ n = ni') := by
    intro k n hk
    by_cases hkn : k = node
    · subst hkn
      rw [Lib.AList.lookup_replace_self hmem] at hk
      exact .inr ⟨rfl, (Option.some.inj hk).symm⟩
    · rw [Lib.AList.lookup_replace_ne hkn] at hk
      exact .inl hk
  have hok := h.status_ok node ni hl
  refine ⟨⟨h.counted.replace hl hacked hrec, ?_, ?_⟩, ?_, ?_⟩
  · obtain ⟨k, n, hk, hn⟩ := h.unacked
    by_cases hkn : k = node
    · subst hkn
      rw [hl] at hk
      cases hk
      exact ⟨k, ni', Lib.AList.lookup_replace_self hmem, hacked.trans hn⟩
    · exact ⟨k, n, (Lib.AList.lookup_replace_ne hkn).trans hk, hn⟩
  · intro k n hk
    rcases hcases k n hk with hk | ⟨-, rfl⟩
    · exact h.versions_le k n hk
    · exact hversion ▸ h.versions_le node ni hl
  · intro k n hk
    rcases hcases k n hk with hk | ⟨-, rfl⟩
    · exact h.status_ok k n hk
    · exact ⟨fun ha => hstatus ▸ hok.acked_fully (hacked ▸ ha),
        fun hr ha => hstatus ▸ hok.recoverable_not_empty (hrec ▸ hr) (hacked ▸ ha)⟩
  · intro k n hk d hd
    rcases hcases k n hk with hk | ⟨-, rfl⟩
    · exact h.donors_tracked k n hk d hd
    · exact h.donors_tracked node ni hl d (hdonors ▸ hd)

end

/-! ## The recomputation establishes the invariant -/

lemma rel_rechecked_some_left {ni : NodeInfo} {o : Option NodeInfo}
    (h : Option.Rel Rechecked (some ni) o) : ∃ ni', o = some ni' ∧ Rechecked ni ni' := by
  cases h with
  | some h => exact ⟨_, rfl, h⟩

lemma rel_rechecked_some_right {o : Option NodeInfo} {ni' : NodeInfo}
    (h : Option.Rel Rechecked o (some ni')) : ∃ ni, o = some ni ∧ Rechecked ni ni' := by
  cases h with
  | some h => exact ⟨_, rfl, h⟩

lemma Consistent.recomputed {si si' : RebuildingShardInfo} (h : Consistent si)
    (hr : Recomputed si si') : Consistent si' where
  counted := hr.counted h.counted
  unacked := by
    obtain ⟨k, ni, hl, hacked⟩ := h.unacked
    obtain ⟨ni', hni', hre⟩ := rel_rechecked_some_left (hl ▸ hr.nodes k)
    exact ⟨k, ni', hni', hre.acked.trans hacked⟩
  versions_le := by
    intro k ni' hl
    obtain ⟨ni, hni, hre⟩ := rel_rechecked_some_right (hl ▸ hr.nodes k)
    rw [hre.version, hr.version]
    exact h.versions_le k ni hni

/-- Recomputing the statuses of a consistent entry establishes the invariant. -/
lemma shardInv_recomputeAuthoritativeStatus (storage_nodes : Finset NodeIndex)
    {si : RebuildingShardInfo} (h : Consistent si) :
    ShardInv (si.recomputeAuthoritativeStatus storage_nodes) := by
  obtain ⟨si₁, hr, hok, heq⟩ := recomputeAuthoritativeStatus_eq storage_nodes si
  have h₁ := h.recomputed hr
  -- filling the progress entries changes neither the nodes nor the counters
  rw [heq]
  exact ⟨⟨⟨h₁.counted.1, h₁.counted.2⟩, h₁.unacked, h₁.versions_le⟩, hok,
    donorsTracked_fillDonorProgress si₁⟩

/-- A consistent entry, recomputed, satisfies the invariant, at the same version. -/
lemma entryOk_recompute (storage_nodes : Finset NodeIndex) {si : RebuildingShardInfo} {v : Lsn}
    (h : Consistent si) (hv : si.version ≤ v) :
    ShardInv (si.recomputeAuthoritativeStatus storage_nodes) ∧
      (si.recomputeAuthoritativeStatus storage_nodes).version ≤ v :=
  ⟨shardInv_recomputeAuthoritativeStatus storage_nodes h, by simpa using hv⟩

end RebuildingShardInfo

namespace EventLogRebuildingSet

open RebuildingShardInfo

/-- The invariant of the rebuilding set: every shard's entry satisfies `ShardInv`, at a version no
later than the last record seen. -/
def Inv (s : EventLogRebuildingSet) : Prop :=
  ∀ shard si, s.shards_.lookup shard = some si → ShardInv si ∧ si.version ≤ s.last_seen_lsn_

lemma inv_empty : Inv {} := by
  intro shard si h
  cases h

section

variable {s s' : EventLogRebuildingSet} {storage_nodes : Finset NodeIndex} {lsn : Lsn}

/-- Replacing one entry by one that satisfies the invariant, or erasing it, keeps the invariant. -/
lemma Inv.withShard (h : Inv s) {shard : ShardIndex} {o : Option RebuildingShardInfo}
    (ho : ∀ si, o = some si → ShardInv si ∧ si.version ≤ s.last_seen_lsn_) :
    Inv (s.withShard shard o) := by
  intro k si hk
  rw [lookup_withShard] at hk
  rw [withShard_last_seen_lsn]
  split at hk
  · exact ho si hk
  · exact h k si hk

/-- A later LSN keeps the invariant. -/
lemma Inv.last_seen (h : Inv s) (hlt : s.last_seen_lsn_ ≤ lsn) :
    Inv { s with last_seen_lsn_ := lsn } :=
  fun shard si hl => ⟨(h shard si hl).1, UInt64.le_trans (h shard si hl).2 hlt⟩

/-- The entry `shards_[shard]` that `onShardNeedsRebuild` starts from, created empty if needed. -/
lemma Inv.getD (h : Inv s) (shard : ShardIndex) :
    Counted ((s.shards_.lookup shard).getD {}) ∧
      VersionsLe ((s.shards_.lookup shard).getD {}) s.last_seen_lsn_ := by
  cases hl : s.shards_.lookup shard with
  | none => exact ⟨⟨rfl, rfl⟩, fun k ni hk => by cases hk⟩
  | some si =>
    obtain ⟨hinv, hv⟩ := h shard si hl
    exact ⟨hinv.counted, hinv.versions_le.mono hv⟩

/-! ## Each handler keeps the invariant -/

lemma Inv.onShardNeedsRebuild (h : Inv s) (hlsn : s.last_seen_lsn_ = lsn)
    {header : SHARD_NEEDS_REBUILD_Header} {time_ranges : PerDataClassTimeRanges}
    (hs : s.onShardNeedsRebuild lsn header time_ranges storage_nodes = .ok s') : Inv s' := by
  obtain ⟨hcounted, hversions⟩ := h.getD header.shardIdx
  rcases onShardNeedsRebuild_ok hs with ⟨it, hit, -, rfl⟩ | ⟨si₀, mode, rec, drain, cur, hsi₀, rfl⟩
  · -- a drain of an empty node only sets its flag, and the node was in an existing entry
    cases hl : s.shards_.lookup header.shardIdx with
    | none => rw [hl] at hit; cases hit
    | some si =>
      rw [hl] at hit
      obtain ⟨hinv, hv⟩ := h _ _ hl
      refine h.withShard fun si' hsi' => ?_
      cases hsi'
      exact ⟨hinv.replace hit rfl rfl rfl rfl rfl, hv⟩
  · -- the node's previous entry, if any, was deleted, so the new one comes in unacked
    have hsi₀ : Counted si₀ ∧ header.nodeIdx ∉ si₀.nodes_ ∧ VersionsLe si₀ lsn := by
      rcases hsi₀ with ⟨rfl, hn⟩ | rfl
      · exact ⟨hcounted, hn, hlsn ▸ hversions⟩
      · refine ⟨hcounted.deleteShard, ?_, hlsn ▸ hversions.deleteShard⟩
        rw [← AList.lookup_eq_none, lookup_deleteShard, if_pos rfl]
    obtain ⟨hc₀, hn₀, hv₀⟩ := hsi₀
    refine h.withShard fun si' hsi' => ?_
    cases hsi'
    obtain ⟨ni, hni, hniv, hnia⟩ :=
      lookup_startRebuilding_self si₀ lsn header time_ranges mode rec drain cur
    refine entryOk_recompute storage_nodes
      ⟨counted_startRebuilding _ _ _ _ _ _ _ _ hc₀ hn₀, ⟨_, ni, hni, hnia⟩, ?_⟩ (by simp [hlsn])
    intro k n hk
    rw [startRebuilding_version]
    by_cases hkn : k = header.nodeIdx
    · subst hkn
      rw [hni] at hk
      cases hk
      exact hniv ▸ UInt64.le_refl _
    · rw [lookup_startRebuilding_ne _ _ _ _ _ _ _ _ hkn] at hk
      exact hv₀ k n hk

lemma Inv.onShardAckRebuilt (h : Inv s) {header : SHARD_ACK_REBUILT_Header}
    (hs : s.onShardAckRebuilt lsn header storage_nodes = .ok s') : Inv s' := by
  obtain ⟨si, ni, hsi, -, hni, -, -, rfl⟩ := onShardAckRebuilt_ok hs
  obtain ⟨hinv, hv⟩ := h _ _ hsi
  refine h.withShard fun si' hsi' => ?_
  split at hsi'
  · cases hsi'
  next hne =>
    cases hsi'
    have hc := counted_ackRebuilt si lsn header ni hinv.counted hni
    refine entryOk_recompute storage_nodes ⟨hc, hc.hasUnacked (by simpa using hne), ?_⟩
      (by simpa using hv)
    -- the acked node keeps its version, and the others are left alone
    intro k n hk
    rw [ackRebuilt_version]
    by_cases hkn : k = header.nodeIdx
    · subst hkn
      rcases lookup_ackRebuilt_self si lsn header ni hni with hnone | hsome
      · rw [hnone] at hk
        cases hk
      · rw [hsome] at hk
        cases hk
        exact hinv.versions_le _ ni hni
    · rw [lookup_ackRebuilt_ne _ _ _ _ hkn] at hk
      exact hinv.versions_le k n hk

lemma Inv.onShardIsRebuilt (h : Inv s) {header : SHARD_IS_REBUILT_Header}
    (hs : s.onShardIsRebuilt header storage_nodes = .ok s') : Inv s' := by
  obtain ⟨si, hsi, -, rfl⟩ := onShardIsRebuilt_ok hs
  obtain ⟨hinv, hv⟩ := h _ _ hsi
  refine h.withShard fun si' hsi' => ?_
  cases hsi'
  refine entryOk_recompute storage_nodes ⟨⟨?_, ?_⟩, ?_, ?_⟩ hv
  -- recording a donor touches neither flag nor version of any node
  · show si.num_acked_ = ackedCount (Lib.AList.mapVal _ si.nodes_)
    rw [hinv.counted.num_acked, ackedCount, ackedCount, Lib.AList.countP_mapVal]
    simp
  · show si.num_recoverable_ = recoverableCount (Lib.AList.mapVal _ si.nodes_)
    rw [hinv.counted.num_recoverable, recoverableCount, recoverableCount,
      Lib.AList.countP_mapVal]
    simp
  · obtain ⟨k, ni, hl, hacked⟩ := hinv.unacked
    exact ⟨k, _, by rw [Lib.AList.lookup_mapVal, hl]; rfl, by simpa using hacked⟩
  · intro k n hk
    rw [Lib.AList.lookup_mapVal] at hk
    obtain ⟨ni, hni, rfl⟩ := Option.map_eq_some_iff.mp hk
    simpa using hinv.versions_le k ni hni

lemma Inv.onShardAbortRebuild (h : Inv s) (hlsn : s.last_seen_lsn_ = lsn)
    {header : SHARD_ABORT_REBUILD_Header}
    (hs : s.onShardAbortRebuild lsn header storage_nodes = .ok s') : Inv s' := by
  obtain ⟨si, hsi, -, rfl⟩ := onShardAbortRebuild_ok hs
  obtain ⟨hinv, hv⟩ := h _ _ hsi
  refine h.withShard fun si' hsi' => ?_
  split at hsi'
  · cases hsi'
  next hne =>
    cases hsi'
    have hc : Counted (si.deleteShard header.nodeIdx) := hinv.counted.deleteShard
    -- the entry moves to the new version, which is above every node's
    refine entryOk_recompute storage_nodes
      ⟨⟨hc.1, hc.2⟩, (Counted.hasUnacked ⟨hc.1, hc.2⟩ (by simpa using hne)), ?_⟩
      (hlsn ▸ UInt64.le_refl _)
    exact (hinv.versions_le.deleteShard.mono (hlsn ▸ hv) :)

lemma Inv.onShardUndrain (h : Inv s) {header : SHARD_UNDRAIN_Header}
    (hs : s.onShardUndrain header = .ok s') : Inv s' := by
  obtain ⟨si, ni, hsi, hni, rfl⟩ := onShardUndrain_ok hs
  obtain ⟨hinv, hv⟩ := h _ _ hsi
  refine h.withShard fun si' hsi' => ?_
  cases hsi'
  exact ⟨hinv.replace hni rfl rfl rfl rfl rfl, hv⟩

lemma Inv.onShardDonorProgress (h : Inv s) {header : SHARD_DONOR_PROGRESS_Header}
    (hs : s.onShardDonorProgress header = .ok s') : Inv s' := by
  obtain ⟨si, cur, hsi, -, hcur, rfl⟩ := onShardDonorProgress_ok hs
  obtain ⟨hinv, hv⟩ := h _ _ hsi
  refine h.withShard fun si' hsi' => ?_
  cases hsi'
  -- only an existing progress entry changes, so every donor keeps one
  refine ⟨⟨⟨⟨hinv.counted.1, hinv.counted.2⟩, hinv.unacked, hinv.versions_le⟩, hinv.status_ok, ?_⟩,
    hv⟩
  intro k ni hk d hd
  by_cases hdn : d = header.donorNodeIdx
  · simp [hdn]
  · simpa [hdn] using hinv.donors_tracked k ni hk d hd

lemma Inv.onShardUnrecoverable (h : Inv s) {header : SHARD_UNRECOVERABLE_Header}
    (hs : s.onShardUnrecoverable header storage_nodes = .ok s') : Inv s' := by
  obtain ⟨si, hsi, -, rfl⟩ := onShardUnrecoverable_ok hs
  obtain ⟨hinv, hv⟩ := h _ _ hsi
  refine h.withShard fun si' hsi' => ?_
  cases hsi'
  refine entryOk_recompute storage_nodes ⟨hinv.counted.setShardRecoverable false,
    hinv.unacked.setShardRecoverable false, ?_⟩ (by simpa using hv)
  rw [setShardRecoverable_version]
  exact hinv.versions_le.setShardRecoverable false

lemma Inv.onEvent (h : Inv s) (hlsn : s.last_seen_lsn_ = lsn) {record : EventLogRecord}
    (hs : s.onEvent lsn record storage_nodes = .ok s') : Inv s' := by
  cases record with
  | SHARD_NEEDS_REBUILD header time_ranges => exact h.onShardNeedsRebuild hlsn hs
  | SHARD_ACK_REBUILT header => exact h.onShardAckRebuilt hs
  | SHARD_IS_REBUILT header => exact h.onShardIsRebuilt hs
  | SHARD_ABORT_REBUILD header => exact h.onShardAbortRebuild hlsn hs
  | SHARD_UNDRAIN header => exact h.onShardUndrain hs
  | SHARD_DONOR_PROGRESS header => exact h.onShardDonorProgress hs
  | SHARD_UNRECOVERABLE header => exact h.onShardUnrecoverable hs

/-- One call of `update` at a later LSN keeps the invariant, whether the record applies or not. -/
lemma Inv.update (h : Inv s) (hlt : s.last_seen_lsn_ < lsn) (record : EventLogRecord) :
    Inv (s.update lsn record storage_nodes).2 := by
  have h₁ := h.last_seen (UInt64.le_of_lt hlt)
  rw [update_eq]
  split
  next s' hs => exact fun shard si hl => h₁.onEvent rfl hs shard si hl
  next => exact h₁

/-- Every set reached from the empty one satisfies the invariant. -/
lemma inv_of_run {records : List (Lsn × EventLogRecord × Finset NodeIndex)}
    (h : Lib.Run UpdateStep {} records s) : Inv s := by
  refine Lib.Run.invariant Inv ?_ h inv_empty
  rintro s₀ _ _ h₀ ⟨hlt⟩
  exact h₀.update hlt _

end

/-- After every call of `update` on event log records read in LSN order, from the empty set, every
shard's entry satisfies the invariant: its counters count the acked nodes and the recoverable
unacked ones, every node's status is consistent with its flags, some node has not acked, no node
is newer than the shard's version, and every remaining donor has a progress entry. -/
theorem reachable_shardInv {s : EventLogRebuildingSet}
    {records : List (Lsn × EventLogRecord × Finset NodeIndex)}
    (h : Lib.Run UpdateStep {} records s) :
    ∀ shard si, s.shards_.lookup shard = some si → ShardInv si :=
  fun shard si hl => (inv_of_run h shard si hl).1

/-- One node of shard 0 of a one-node cluster needs rebuilding. -/
theorem reachable_shardInv_needsRebuild :
    ∃ si, (({} : EventLogRebuildingSet).update 1
        (.SHARD_NEEDS_REBUILD { nodeIdx := 0, shardIdx := 0 } []) {0}).2.shards_.lookup 0 =
        some si ∧ ShardInv si :=
  ⟨_, rfl, reachable_shardInv (Lib.Run.single (UpdateStep.mk (by decide) :
    UpdateStep {} (1, .SHARD_NEEDS_REBUILD { nodeIdx := 0, shardIdx := 0 } [], {0}) _)) 0 _ rfl⟩

end EventLogRebuildingSet

end LogDevice.Rebuilding
