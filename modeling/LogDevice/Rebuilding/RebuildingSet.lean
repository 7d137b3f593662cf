import LogDevice.Types
import LogDevice.Lib.AList

/-!
# The rebuilding set

Model of the state of `EventLogRebuildingSet` (`common/event_log/EventLogRebuildingSet.h`): for
each shard offset, the nodes whose shard at that offset is being rebuilt (`NodeInfo`), with the
counters `num_acked_` and `num_recoverable_` kept beside them, and the progress of the donors.
The per-node map `nodes_` is an `F14FastMap`, and `recomputeAuthoritativeStatus` iterates over it
while updating it, so it is an `AList` whose entries are in iteration order; a node it inserts
comes first.

The operations `setShardAcked`, `setShardRecoverable` and `deleteShard` act on the shard's entry
(`shards_[shard]`). Each keeps the counters equal to what they count (`Counted`, the check of
`checkConsistency`), and `lookup_setShardAcked` and its siblings say what each does to a node.
-/

namespace LogDevice.Rebuilding

/-- `enum class RebuildingMode`: a node rebuilt in `RELOCATE` mode still has its data and serves
as a donor; one rebuilt in `RESTORE` mode has lost it. -/
inductive RebuildingMode where
  | RELOCATE
  | RESTORE
  deriving DecidableEq, Repr

/-- `enum class DataClass`. -/
inductive DataClass where
  | APPEND
  | REBUILD
  deriving DecidableEq, Repr

/-- `RecordTimeInterval`, in milliseconds. -/
structure RecordTimeInterval where
  lo : Int
  hi : Int
  deriving DecidableEq, Repr

/-- `PerDataClassTimeRanges`: per data class, the time intervals where a shard may miss records. -/
abbrev PerDataClassTimeRanges := List (DataClass × List RecordTimeInterval)

/-- What the rebuilding set knows of one node's shard (`EventLogRebuildingSet::NodeInfo`). -/
structure NodeInfo where
  version : Lsn
  mode : RebuildingMode
  donors_complete : Finmap (fun _ : NodeIndex => Lsn) := ∅
  donors_complete_authoritatively : Finmap (fun _ : NodeIndex => Lsn) := ∅
  donors_remaining : Finset NodeIndex := ∅
  dc_dirty_ranges : PerDataClassTimeRanges := []
  auth_status : AuthoritativeStatus := .FULLY_AUTHORITATIVE
  drain : Bool
  recoverable : Bool := false
  acked : Bool := false
  ack_lsn : Lsn := LSN_INVALID
  ack_version : Lsn := LSN_INVALID

/-- `NodeInfo::rebuildingIsNonAuthoritative`: some donor completed, but not authoritatively. -/
def NodeInfo.rebuildingIsNonAuthoritative (n : NodeInfo) : Bool :=
  n.donors_complete.keys.card > n.donors_complete_authoritatively.keys.card

/-- `RecordTimestamp::min()`, the smallest `std::chrono::milliseconds`. -/
def RecordTimestamp.min : Int := -9223372036854775808

/-- `EventLogRebuildingSet::DonorProgress`. -/
structure DonorProgress where
  timestamp : Int := RecordTimestamp.min
  new_to_old : Bool := false
  deriving DecidableEq, Repr

/-- The rebuilding state of one shard offset (`EventLogRebuildingSet::RebuildingShardInfo`). -/
structure RebuildingShardInfo where
  version : Lsn := LSN_INVALID
  nodes_ : AList (fun _ : NodeIndex => NodeInfo) := ∅
  donor_progress : NodeIndex → Option DonorProgress := fun _ => none
  num_acked_ : Nat := 0
  num_recoverable_ : Nat := 0
  waiting_for_recoverable_shards_ : Bool := false
  filter_relocate_shards : Bool := false

/-- The rebuilding set (`EventLogRebuildingSet`). -/
structure EventLogRebuildingSet where
  shards_ : Finmap (fun _ : ShardIndex => RebuildingShardInfo) := ∅
  last_seen_lsn_ : Lsn := LSN_INVALID
  last_update_ : Lsn := LSN_INVALID

namespace RebuildingShardInfo

/-! ## The operations on a shard's nodes -/

/-- `EventLogRebuildingSet::setShardAcked` on the shard's entry. -/
def setShardAcked (shard_info : RebuildingShardInfo) (node : NodeIndex) (acked : Bool) :
    RebuildingShardInfo :=
  match shard_info.nodes_.lookup node with
  -- ruled out by `ld_check(shard_info.nodes_.count(node))`
  | none => shard_info
  | some node_info =>
    if node_info.acked == acked then shard_info
    else if acked then
      { shard_info with
        num_recoverable_ := if node_info.recoverable then shard_info.num_recoverable_ - 1
          else shard_info.num_recoverable_
        num_acked_ := shard_info.num_acked_ + 1
        nodes_ := shard_info.nodes_.replace node { node_info with acked := true } }
    else
      { shard_info with
        num_recoverable_ := if node_info.recoverable then shard_info.num_recoverable_ + 1
          else shard_info.num_recoverable_
        num_acked_ := shard_info.num_acked_ - 1
        nodes_ := shard_info.nodes_.replace node { node_info with acked := false } }

/-- `EventLogRebuildingSet::setShardRecoverable` on the shard's entry. -/
def setShardRecoverable (shard_info : RebuildingShardInfo) (node : NodeIndex)
    (recoverable : Bool) : RebuildingShardInfo :=
  match shard_info.nodes_.lookup node with
  | none => shard_info
  | some node_info =>
    if node_info.recoverable == recoverable then shard_info
    else if recoverable then
      { shard_info with
        num_recoverable_ := if !node_info.acked then shard_info.num_recoverable_ + 1
          else shard_info.num_recoverable_
        nodes_ := shard_info.nodes_.replace node { node_info with recoverable := true } }
    else
      { shard_info with
        num_recoverable_ := if !node_info.acked then shard_info.num_recoverable_ - 1
          else shard_info.num_recoverable_
        nodes_ := shard_info.nodes_.replace node { node_info with recoverable := false } }

/-- `EventLogRebuildingSet::deleteShard` on the shard's entry. -/
def deleteShard (shard_info : RebuildingShardInfo) (node : NodeIndex) : RebuildingShardInfo :=
  let shard_info := (shard_info.setShardAcked node false).setShardRecoverable node false
  { shard_info with nodes_ := shard_info.nodes_.erase node }

/-! ## What the operations do -/

section

variable (shard_info : RebuildingShardInfo) (node : NodeIndex)

@[simp] lemma setShardAcked_version (acked : Bool) :
    (shard_info.setShardAcked node acked).version = shard_info.version := by
  unfold setShardAcked
  split <;> (try split) <;> (try split) <;> rfl

@[simp] lemma setShardAcked_donor_progress (acked : Bool) :
    (shard_info.setShardAcked node acked).donor_progress = shard_info.donor_progress := by
  unfold setShardAcked
  split <;> (try split) <;> (try split) <;> rfl

@[simp] lemma setShardRecoverable_version (recoverable : Bool) :
    (shard_info.setShardRecoverable node recoverable).version = shard_info.version := by
  unfold setShardRecoverable
  split <;> (try split) <;> (try split) <;> rfl

@[simp] lemma setShardRecoverable_donor_progress (recoverable : Bool) :
    (shard_info.setShardRecoverable node recoverable).donor_progress =
      shard_info.donor_progress := by
  unfold setShardRecoverable
  split <;> (try split) <;> (try split) <;> rfl

@[simp] lemma deleteShard_version : (shard_info.deleteShard node).version = shard_info.version := by
  simp [deleteShard]

@[simp] lemma deleteShard_donor_progress :
    (shard_info.deleteShard node).donor_progress = shard_info.donor_progress := by
  simp [deleteShard]

/-- `setShardAcked` sets the node's `acked` and leaves every other node alone. -/
lemma lookup_setShardAcked (acked : Bool) (k : NodeIndex) :
    (shard_info.setShardAcked node acked).nodes_.lookup k =
      (shard_info.nodes_.lookup k).map fun n => if k = node then { n with acked } else n := by
  unfold setShardAcked
  split
  next hnone =>
    by_cases hk : k = node
    · subst hk
      simp [hnone]
    · simp [hk]
  next node_info hsome =>
    have hmem : node ∈ shard_info.nodes_ := AList.lookup_isSome.mp (by simp [hsome])
    by_cases hk : k = node
    · subst hk
      split
      next heq =>
        have : node_info.acked = acked := by simpa using heq
        simp [hsome, ← this]
      next =>
        split <;> simp [Lib.AList.lookup_replace_self hmem, *]
    · split <;> (try split) <;> simp [Lib.AList.lookup_replace_ne hk]

/-- `setShardRecoverable` sets the node's `recoverable` and leaves every other node alone. -/
lemma lookup_setShardRecoverable (recoverable : Bool) (k : NodeIndex) :
    (shard_info.setShardRecoverable node recoverable).nodes_.lookup k =
      (shard_info.nodes_.lookup k).map
        fun n => if k = node then { n with recoverable } else n := by
  unfold setShardRecoverable
  split
  next hnone =>
    by_cases hk : k = node
    · subst hk
      simp [hnone]
    · simp [hk]
  next node_info hsome =>
    have hmem : node ∈ shard_info.nodes_ := AList.lookup_isSome.mp (by simp [hsome])
    by_cases hk : k = node
    · subst hk
      split
      next heq =>
        have : node_info.recoverable = recoverable := by simpa using heq
        simp [hsome, ← this]
      next =>
        split <;> simp [Lib.AList.lookup_replace_self hmem, *]
    · split <;> (try split) <;> simp [Lib.AList.lookup_replace_ne hk]

/-- `deleteShard` removes the node and leaves every other node alone. -/
lemma lookup_deleteShard (k : NodeIndex) :
    (shard_info.deleteShard node).nodes_.lookup k =
      if k = node then none else shard_info.nodes_.lookup k := by
  unfold deleteShard
  by_cases hk : k = node
  · subst hk
    simp [AList.lookup_erase]
  · simp [hk, AList.lookup_erase_ne hk, lookup_setShardRecoverable, lookup_setShardAcked]

lemma mem_setShardAcked_iff (acked : Bool) (k : NodeIndex) :
    k ∈ (shard_info.setShardAcked node acked).nodes_ ↔ k ∈ shard_info.nodes_ := by
  simp [← AList.lookup_isSome, lookup_setShardAcked]

lemma mem_setShardRecoverable_iff (recoverable : Bool) (k : NodeIndex) :
    k ∈ (shard_info.setShardRecoverable node recoverable).nodes_ ↔ k ∈ shard_info.nodes_ := by
  simp [← AList.lookup_isSome, lookup_setShardRecoverable]

end

/-! ## The counters -/

/-- The nodes that acked. -/
def ackedCount (nodes : AList (fun _ : NodeIndex => NodeInfo)) : Nat :=
  nodes.entries.countP fun p => p.2.acked

/-- The nodes whose data may come back: recoverable and not acked. -/
def recoverableCount (nodes : AList (fun _ : NodeIndex => NodeInfo)) : Nat :=
  nodes.entries.countP fun p => p.2.recoverable && !p.2.acked

/-- The counters count what they say (the check of `checkConsistency`). -/
structure Counted (shard_info : RebuildingShardInfo) : Prop where
  num_acked : shard_info.num_acked_ = ackedCount shard_info.nodes_
  num_recoverable : shard_info.num_recoverable_ = recoverableCount shard_info.nodes_

variable {shard_info : RebuildingShardInfo} {node : NodeIndex}

/-- Updating a node in place trades its old contribution to each count for its new one. -/
lemma counts_replace {node_info : NodeInfo} (h : shard_info.nodes_.lookup node = some node_info)
    (new_info : NodeInfo) :
    ackedCount (shard_info.nodes_.replace node new_info) + (if node_info.acked then 1 else 0) =
        ackedCount shard_info.nodes_ + (if new_info.acked then 1 else 0) ∧
      recoverableCount (shard_info.nodes_.replace node new_info) +
          (if node_info.recoverable && !node_info.acked then 1 else 0) =
        recoverableCount shard_info.nodes_ +
          (if new_info.recoverable && !new_info.acked then 1 else 0) := by
  unfold ackedCount recoverableCount
  exact ⟨Lib.AList.countP_replace _ new_info h, Lib.AList.countP_replace _ new_info h⟩

/-- Updating a node in place without touching its `acked` and `recoverable` flags keeps the
counts. -/
lemma Counted.replace (h : Counted shard_info) {node_info new_info : NodeInfo}
    (hl : shard_info.nodes_.lookup node = some node_info)
    (hacked : new_info.acked = node_info.acked)
    (hrec : new_info.recoverable = node_info.recoverable) :
    Counted { shard_info with nodes_ := shard_info.nodes_.replace node new_info } := by
  obtain ⟨ha, hr⟩ := counts_replace hl new_info
  simp only [hacked, hrec] at ha hr
  have hna := h.num_acked
  have hnr := h.num_recoverable
  constructor
  · show shard_info.num_acked_ = ackedCount (shard_info.nodes_.replace node new_info)
    omega
  · show shard_info.num_recoverable_ = recoverableCount (shard_info.nodes_.replace node new_info)
    omega

lemma Counted.setShardAcked (h : Counted shard_info) (acked : Bool) :
    Counted (shard_info.setShardAcked node acked) := by
  unfold RebuildingShardInfo.setShardAcked
  split
  next => exact h
  next node_info hsome =>
    obtain ⟨hna, hnr⟩ := h
    obtain ⟨ha, hr⟩ := counts_replace hsome { node_info with acked }
    split
    next => exact ⟨hna, hnr⟩
    next hne =>
      -- the node's `acked` flips, which moves it in or out of both counts
      have hflip : node_info.acked = !acked := by cases acked <;> simpa using hne
      rw [hflip] at ha hr
      cases acked <;> cases hrec : node_info.recoverable <;>
        simp only [hrec, Bool.not_true, Bool.not_false, Bool.and_true, Bool.and_false,
          Bool.false_eq_true, reduceIte] at ha hr ⊢ <;>
        constructor <;> (try dsimp only) <;> omega

lemma Counted.setShardRecoverable (h : Counted shard_info) (recoverable : Bool) :
    Counted (shard_info.setShardRecoverable node recoverable) := by
  unfold RebuildingShardInfo.setShardRecoverable
  split
  next => exact h
  next node_info hsome =>
    obtain ⟨hna, hnr⟩ := h
    obtain ⟨ha, hr⟩ := counts_replace hsome { node_info with recoverable }
    split
    next => exact ⟨hna, hnr⟩
    next hne =>
      -- the node's `recoverable` flips, which moves it in or out of the second count
      have hflip : node_info.recoverable = !recoverable := by cases recoverable <;> simpa using hne
      rw [hflip] at hr
      cases recoverable <;> cases hacked : node_info.acked <;>
        simp only [hacked, Bool.not_true, Bool.not_false, Bool.and_true, Bool.and_false,
          Bool.false_eq_true, reduceIte] at ha hr ⊢ <;>
        constructor <;> (try dsimp only) <;> omega

lemma Counted.deleteShard (h : Counted shard_info) : Counted (shard_info.deleteShard node) := by
  have h1 : Counted ((shard_info.setShardAcked node false).setShardRecoverable node false) :=
    (h.setShardAcked false).setShardRecoverable false
  obtain ⟨hna, hnr⟩ := h1
  unfold RebuildingShardInfo.deleteShard
  dsimp only
  cases hl : ((shard_info.setShardAcked node false).setShardRecoverable node false).nodes_.lookup
    node with
  | none =>
    rw [Lib.AList.erase_of_notMem (AList.lookup_eq_none.mp hl)]
    exact ⟨hna, hnr⟩
  | some node_info =>
    -- the erased node is neither acked nor recoverable any more, so it counted nowhere
    have hflags : node_info.acked = false ∧ node_info.recoverable = false := by
      rw [lookup_setShardRecoverable, lookup_setShardAcked, Option.map_map] at hl
      obtain ⟨n, -, rfl⟩ := Option.map_eq_some_iff.mp hl
      simp
    have ha := Lib.AList.countP_erase (fun p => p.2.acked) hl
    have hr := Lib.AList.countP_erase (fun p => p.2.recoverable && !p.2.acked) hl
    simp only [hflags, Bool.false_eq_true, Bool.false_and, reduceIte, Nat.add_zero] at ha hr
    exact ⟨hna.trans ha.symm, hnr.trans hr.symm⟩

end RebuildingShardInfo

end LogDevice.Rebuilding
