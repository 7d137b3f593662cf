import LogDevice.FailureDomain.NodeSet

/-!
# The read and write availability check of the safety checker

Model of `safety::checkReadWriteAvailablity` and of what it calls (`admin/safety/
SafetyCheckerUtils.cpp`): whether a storage set stays writable and readable once the shards of an
operation (`op_shards`) are drained or stopped. The check tags with `true`, in a
`FailureDomainNodeSet<bool>` of the storage set, the shards that still take writes, and asks
`canReplicate(true)`; for an operation that disables the shards it then tags the shards that can
still serve reads and asks whether `isFmajority(true)` is authoritative. A safety margin raises the
replication factors the write check asks for and lowers those of the read check
(`extendReplicationWithSafetyMargin`); without one, both checks share one node set, and the read
check sees the write check's tags.

The cluster state is what the check reads of it: whether gossip sees a node alive, or fully
started (`ClusterState::isNodeAlive`, `isNodeFullyStarted`, with `DEAD` for a node it does not
know); a missing cluster state is `none`. `ShardAuthoritativeStatusMap` keys its shards by node and
then by shard index; the model keys them by `ShardID`. `op_shards` (a `ShardSet`) is a `Finset`.
-/

namespace LogDevice.Configuration

/-- The storage state an operation asks for (`configuration::StorageState`). -/
inductive StorageState where
  | READ_WRITE
  | READ_ONLY
  | DISABLED
  deriving DecidableEq, Repr

end LogDevice.Configuration

namespace LogDevice.Safety

open LogDevice.Configuration LogDevice.FailureDomain

/-- What the safety checker reads of the cluster state (`ClusterState`). -/
structure ClusterState where
  isNodeAlive : NodeIndex → Bool
  isNodeFullyStarted : NodeIndex → Bool

/-- `safety::isAlive`: without a cluster state every node counts as alive. -/
def isAlive (cluster_state : Option ClusterState) (index : NodeIndex)
    (require_fully_started : Bool) : Bool :=
  match cluster_state with
  | some cluster_state =>
    if require_fully_started then cluster_state.isNodeFullyStarted index
    else cluster_state.isNodeAlive index
  | none => true

namespace ShardAuthoritativeStatusMap

/-- What the map keeps of a shard (`ShardAuthoritativeStatusMap::ShardState`). -/
structure ShardState where
  auth_status : AuthoritativeStatus
  time_ranged_rebuild : Bool
  deriving DecidableEq

end ShardAuthoritativeStatusMap

/-- `class ShardAuthoritativeStatusMap`: the status of the shards the event log names. -/
structure ShardAuthoritativeStatusMap where
  shards_ : Finmap (fun _ : ShardID => ShardAuthoritativeStatusMap.ShardState)

namespace ShardAuthoritativeStatusMap

/-- `ShardAuthoritativeStatusMap::getShardStatus`: a shard the map does not name is fully
authoritative. -/
def getShardStatus (m : ShardAuthoritativeStatusMap) (shard : ShardID) : AuthoritativeStatus :=
  match m.shards_.lookup shard with
  | some state => state.auth_status
  | none => .FULLY_AUTHORITATIVE

/-- `ShardAuthoritativeStatusMap::shardIsTimeRangeRebuilding`. -/
def shardIsTimeRangeRebuilding (m : ShardAuthoritativeStatusMap) (shard : ShardID) : Bool :=
  match m.shards_.lookup shard with
  | some state => state.time_ranged_rebuild
  | none => false

end ShardAuthoritativeStatusMap

/-- The loop of `extendReplicationWithSafetyMargin` over the scopes left, the largest first, with
the property built so far and `prev`, the last factor it set. -/
def extendFrom (safety_margin : Finmap (fun _ : NodeLocationScope => Int))
    (replication_base : ReplicationProperty) (add : Bool) :
    List NodeLocationScope → ReplicationProperty → Int → ReplicationProperty
  | [], replication_new, _ => replication_new
  | scope :: scopes, replication_new, prev =>
    let replication : Int := replication_base.getReplication scope
    -- do not consider the scope if the user did not specify a replication factor for it
    if replication ≠ 0 then
      match safety_margin.lookup scope with
      | some safety =>
        let replication := if add then replication + safety else replication - safety
        -- can't be satisfied: the empty property
        if replication ≤ 0 then ReplicationProperty.empty
        else
          -- a smaller scope can't have a smaller factor
          let max_for_higher_domains := max replication prev
          extendFrom safety_margin replication_base add scopes
            (replication_new.setReplication scope max_for_higher_domains.toNat)
            max_for_higher_domains
      | none => extendFrom safety_margin replication_base add scopes replication_new prev
    else extendFrom safety_margin replication_base add scopes replication_new prev

/-- `safety::extendReplicationWithSafetyMargin`: each factor given at a scope the margin names is
raised (`add`) or lowered by the margin, and kept at least the last factor so set. -/
def extendReplicationWithSafetyMargin (safety_margin : Finmap (fun _ : NodeLocationScope => Int))
    (replication_base : ReplicationProperty) (add : Bool) : ReplicationProperty :=
  extendFrom safety_margin replication_base add replicationScopes.reverse replication_base 0

/-- The running maximum is taken over the scopes the margin changes only: a margin on `RACK`, the
biggest replication scope of `{rack: 2, node: 3}` and the only scope `SafetyCheckScheduler` puts
a margin on, raises the rack factor past the node factor it leaves alone, and the property the
write check hands to `FailureDomainNodeSet` is no longer valid. -/
theorem extendReplicationWithSafetyMargin_rack_margin_invalid :
    let replication_base : ReplicationProperty :=
      ⟨fun scope => if scope = .RACK then 2 else if scope = .NODE then 3 else 0⟩
    let replication_new :=
      extendReplicationWithSafetyMargin ((∅ : Finmap _).insert .RACK 2) replication_base true
    replication_base.isValid = true ∧ replication_new.getReplication .RACK = 4 ∧
      replication_new.getReplication .NODE = 3 ∧ replication_new.isValid = false := by
  decide

section Check

variable (shard_status : ShardAuthoritativeStatusMap) (op_shards : Finset ShardID)
  (storage_set : List ShardID) (nodes_config : NodesConfiguration)
  (cluster_state : Option ClusterState) (require_fully_started_nodes : Bool)

/-- The loop of the `check_writes` lambda: a shard that takes writes, is fully authoritative,
alive and not one the operation takes away is tagged writable. -/
def tagWritable (failure_domains : FailureDomainNodeSet Bool) : FailureDomainNodeSet Bool :=
  storage_set.foldl (fun failure_domains shard =>
    if nodes_config.getStorageMembership.canWriteToShard shard then
      let status := shard_status.getShardStatus shard
      if shard ∉ op_shards ∧ status = .FULLY_AUTHORITATIVE ∧
          isAlive cluster_state shard.node require_fully_started_nodes = true then
        failure_domains.setShardAttribute shard true
      else failure_domains
    else failure_domains) failure_domains

/-- The `check_writes` lambda of `checkReadWriteAvailablity`: the node set it leaves, and whether
the shards tagged writable can take a copyset. -/
def check_writes (failure_domains : FailureDomainNodeSet Bool) :
    FailureDomainNodeSet Bool × Bool :=
  let failure_domains := tagWritable shard_status op_shards storage_set nodes_config cluster_state
    require_fully_started_nodes failure_domains
  (failure_domains, (failure_domains.canReplicate (.value true)).1)

/-- The status the read check gives a shard it reads from: a shard with time-range rebuilding,
and one in `UNDERREPLICATION`, count as `UNAVAILABLE`. -/
def readStatus (shard : ShardID) : AuthoritativeStatus :=
  let status := shard_status.getShardStatus shard
  -- lean on the safe side, so as not to stall the mini-rebuilding
  let status := if shard_status.shardIsTimeRangeRebuilding shard then .UNAVAILABLE else status
  if status = .UNDERREPLICATION then .UNAVAILABLE else status

/-- The loop of the `check_reads` lambda: every shard readers hear from takes its status, and one
that is healthy, alive and not taken away is tagged readable; a shard with time-range rebuilding
that is not is tagged `false`, over a tag the write check may have left. -/
def tagReadable (failure_domains : FailureDomainNodeSet Bool) : FailureDomainNodeSet Bool :=
  storage_set.foldl (fun failure_domains shard =>
    if nodes_config.getStorageMembership.shouldReadFromShard shard then
      let status := readStatus shard_status shard
      let failure_domains := failure_domains.setShardAuthoritativeStatus shard status
      if shard ∉ op_shards ∧
          isAlive cluster_state shard.node require_fully_started_nodes = true ∧
          status ≠ .UNAVAILABLE then
        failure_domains.setShardAttribute shard true
      else if shard_status.shardIsTimeRangeRebuilding shard then
        -- a shard in mini-rebuilding is writable but not readable
        failure_domains.setShardAttribute shard false
      else failure_domains
    else failure_domains) failure_domains

/-- The `check_reads` lambda: an authoritative f-majority of the shards tagged readable;
`NON_AUTHORITATIVE` counts as unsafe. -/
def check_reads (failure_domains : FailureDomainNodeSet Bool) : Bool :=
  let health_state := (tagReadable shard_status op_shards storage_set nodes_config cluster_state
    require_fully_started_nodes failure_domains).isFmajority (.value true)
  health_state == .AUTHORITATIVE_COMPLETE || health_state == .AUTHORITATIVE_INCOMPLETE

/-- `safety::checkReadWriteAvailablity`: whether the storage set stays readable and writable,
`(safe_reads, safe_writes)`. Reads are only checked for an operation that disables the shards. -/
def checkReadWriteAvailablity (target_storage_state : StorageState)
    (replication_property : ReplicationProperty)
    (safety_margin : Finmap (fun _ : NodeLocationScope => Int)) : Bool × Bool :=
  let check_writes := check_writes shard_status op_shards storage_set nodes_config cluster_state
    require_fully_started_nodes
  let check_reads := check_reads shard_status op_shards storage_set nodes_config cluster_state
    require_fully_started_nodes
  if safety_margin ≠ ∅ then
    -- with a safety margin, reads and writes have their own replication properties
    let replication_for_writes :=
      extendReplicationWithSafetyMargin safety_margin replication_property true
    let replication_for_reads :=
      extendReplicationWithSafetyMargin safety_margin replication_property false
    let safe_writes :=
      (check_writes (FailureDomainNodeSet.create storage_set nodes_config replication_for_writes)).2
    let safe_reads :=
      if target_storage_state = .DISABLED then
        check_reads (FailureDomainNodeSet.create storage_set nodes_config replication_for_reads)
      else true
    (safe_reads, safe_writes)
  else
    -- no safety margin: the read check uses the node set the write check tagged
    let available_node_set :=
      FailureDomainNodeSet.create storage_set nodes_config replication_property
    let (available_node_set, safe_writes) := check_writes available_node_set
    let safe_reads :=
      if target_storage_state = .DISABLED then check_reads available_node_set else true
    (safe_reads, safe_writes)

end Check

end LogDevice.Safety
