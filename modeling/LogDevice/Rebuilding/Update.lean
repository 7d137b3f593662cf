import LogDevice.Lib.Run
import LogDevice.Rebuilding.AuthStatus

/-!
# Applying event log records to the rebuilding set

Model of `EventLogRebuildingSet::update` and its seven handlers
(`common/event_log/EventLogRebuildingSet.cpp`), over the event log records of
`common/event_log/EventLogRecord.h`. A handler either fails with the code it sets in `err`, leaving
the set as it was, or returns the updated set; `update` records the record's LSN as the last one
seen, and as the last update when the handler succeeded.

Each handler touches one shard offset: it updates the shard's entry through the operations of
`RebuildingSet.lean`, may erase the entry when every node in it has acked, and recomputes the
authoritative status of the shard's nodes. The timestamps, the source and details strings of a
request and the dirty time intervals derived from the nodes are not modelled: no modelled function
reads them.

The lemmas `onShardNeedsRebuild_ok` and its siblings say, once per handler, everything a successful
call can do; the proofs about runs of `update` use them and never unfold a handler.
-/

namespace LogDevice.Rebuilding

/-! ## Event log records -/

/-- `SHARD_NEEDS_REBUILD_Header`: shard `shardIdx` of node `nodeIdx` needs to be rebuilt. -/
structure SHARD_NEEDS_REBUILD_Header where
  nodeIdx : NodeIndex
  shardIdx : ShardIndex
  flags : UInt32 := 0
  conditional_version : Lsn := LSN_INVALID
  deriving DecidableEq, Repr

namespace SHARD_NEEDS_REBUILD_Header

def RELOCATE : UInt32 := (1 : UInt32) <<< 0
def DRAIN : UInt32 := (1 : UInt32) <<< 1
def TIME_RANGED : UInt32 := (1 : UInt32) <<< 2
def FORCE_RESTART : UInt32 := (1 : UInt32) <<< 3
def CONDITIONAL_ON_VERSION : UInt32 := (1 : UInt32) <<< 4
def FILTER_RELOCATE_SHARDS : UInt32 := (1 : UInt32) <<< 5
def FORCE_RESTORE : UInt32 := (1 : UInt32) <<< 6

end SHARD_NEEDS_REBUILD_Header

/-- `SHARD_IS_REBUILT_Header`: donor `donorNodeIdx` finished rebuilding shard `shardIdx` for the
rebuilding `version`. -/
structure SHARD_IS_REBUILT_Header where
  donorNodeIdx : NodeIndex
  shardIdx : ShardIndex
  version : Lsn
  flags : UInt32 := 0
  deriving DecidableEq, Repr

def SHARD_IS_REBUILT_Header.NON_AUTHORITATIVE : UInt32 := (1 : UInt32) <<< 1

/-- `SHARD_ACK_REBUILT_Header`: node `nodeIdx` acknowledges the rebuilding of its shard. -/
structure SHARD_ACK_REBUILT_Header where
  nodeIdx : NodeIndex
  shardIdx : ShardIndex
  version : Lsn
  deriving DecidableEq, Repr

/-- `SHARD_ABORT_REBUILD_Header`: the rebuilding of node `nodeIdx`'s shard is cancelled. -/
structure SHARD_ABORT_REBUILD_Header where
  nodeIdx : NodeIndex
  shardIdx : ShardIndex
  version : Lsn := LSN_INVALID
  deriving DecidableEq, Repr

/-- `SHARD_UNDRAIN_Header`. -/
structure SHARD_UNDRAIN_Header where
  nodeIdx : NodeIndex
  shardIdx : ShardIndex
  deriving DecidableEq, Repr

/-- `SHARD_UNRECOVERABLE_Header`: the data of node `nodeIdx`'s shard will not come back. -/
structure SHARD_UNRECOVERABLE_Header where
  nodeIdx : NodeIndex
  shardIdx : ShardIndex
  deriving DecidableEq, Repr

/-- `SHARD_DONOR_PROGRESS_Header`: donor `donorNodeIdx` moved its local window to
`nextTimestamp`. -/
structure SHARD_DONOR_PROGRESS_Header where
  donorNodeIdx : NodeIndex
  shardIdx : ShardIndex
  nextTimestamp : Int
  version : Lsn
  flags : UInt32 := 0
  deriving DecidableEq, Repr

def SHARD_DONOR_PROGRESS_Header.FLAG_NEW_TO_OLD : UInt32 := (1 : UInt32) <<< 0

/-- The event log records that `update` handles, one per `EventType`. -/
inductive EventLogRecord where
  | SHARD_NEEDS_REBUILD (header : SHARD_NEEDS_REBUILD_Header)
      (time_ranges : PerDataClassTimeRanges)
  | SHARD_ACK_REBUILT (header : SHARD_ACK_REBUILT_Header)
  | SHARD_IS_REBUILT (header : SHARD_IS_REBUILT_Header)
  | SHARD_ABORT_REBUILD (header : SHARD_ABORT_REBUILD_Header)
  | SHARD_UNDRAIN (header : SHARD_UNDRAIN_Header)
  | SHARD_DONOR_PROGRESS (header : SHARD_DONOR_PROGRESS_Header)
  | SHARD_UNRECOVERABLE (header : SHARD_UNRECOVERABLE_Header)

namespace EventLogRebuildingSet

open SHARD_NEEDS_REBUILD_Header in
/-- The end of `onShardNeedsRebuild`: the node's new entry, from what was kept of its previous one
(`is_recoverable`, `drain`, `currentMode`), on the shard's entry with the previous one deleted. -/
def startRebuilding (shard_info : RebuildingShardInfo) (lsn : Lsn)
    (header : SHARD_NEEDS_REBUILD_Header) (time_ranges : PerDataClassTimeRanges)
    (requestedMode : RebuildingMode) (is_recoverable drain : Bool)
    (currentMode : Option RebuildingMode) : RebuildingShardInfo :=
  let flags := header.flags
  -- `drain` is sticky, and a drain keeps the current mode unless `FORCE_RESTORE` asks otherwise
  let (mode, drain) :=
    if flags &&& DRAIN != 0 then
      let currentMode := if flags &&& FORCE_RESTORE != 0 then some .RESTORE else currentMode
      (currentMode.getD .RELOCATE, true)
    else (requestedMode, drain)
  -- a time-ranged request is only honoured in `RESTORE` mode without a drain
  let time_ranged := flags &&& TIME_RANGED != 0 && mode == .RESTORE && !drain
  let node_info : NodeInfo :=
    { version := lsn
      mode
      drain
      dc_dirty_ranges := if time_ranged then time_ranges else [] }
  -- dirty nodes are up and serve as donors, so they are already recovered
  let is_recoverable := is_recoverable && !time_ranged
  let shard_info :=
    { shard_info with
      nodes_ := shard_info.nodes_.insert header.nodeIdx node_info
      version := lsn
      donor_progress := fun _ => none
      filter_relocate_shards := flags &&& FILTER_RELOCATE_SHARDS != 0 }
  shard_info.setShardRecoverable header.nodeIdx is_recoverable

open SHARD_NEEDS_REBUILD_Header in
/-- The mode a `SHARD_NEEDS_REBUILD` record asks for: `RELOCATE` by its deprecated flag, unless
`FORCE_RESTORE` overrides it. -/
def requestedMode (flags : UInt32) : RebuildingMode :=
  if flags &&& FORCE_RESTORE != 0 then .RESTORE
  else if flags &&& RELOCATE != 0 then .RELOCATE
  else .RESTORE

open SHARD_NEEDS_REBUILD_Header in
/-- `EventLogRebuildingSet::onShardNeedsRebuild`. -/
def onShardNeedsRebuild (s : EventLogRebuildingSet) (lsn : Lsn)
    (header : SHARD_NEEDS_REBUILD_Header) (time_ranges : PerDataClassTimeRanges)
    (storage_nodes : Finset NodeIndex) : Except E EventLogRebuildingSet :=
  let flags := header.flags
  let shardIdx := header.shardIdx
  let nodeIdx := header.nodeIdx
  -- a conditional write is discarded unless the shard's rebuilding version matches
  if flags &&& CONDITIONAL_ON_VERSION != 0 &&
      (s.shards_.lookup shardIdx).all (·.version != header.conditional_version) then
    .error .STALE
  else
    let requestedMode := requestedMode flags
    -- `shards_[shardIdx]`
    let shard_info := (s.shards_.lookup shardIdx).getD {}
    let start (shard_info : RebuildingShardInfo) (is_recoverable drain : Bool)
        (currentMode : Option RebuildingMode) : EventLogRebuildingSet :=
      { s with
        shards_ := s.shards_.insert shardIdx
          (startRebuilding shard_info lsn header time_ranges requestedMode is_recoverable drain
            currentMode) }.recomputeAuthoritativeStatus shardIdx storage_nodes
    match shard_info.nodes_.lookup nodeIdx with
    | none => .ok (start shard_info true false none)
    | some it =>
      -- a restarted rebuilding keeps the shard unrecoverable, unless it was time-ranged or acked
      let is_recoverable := !it.dc_dirty_ranges.isEmpty || it.acked || it.recoverable
      let restart := Except.ok (start (shard_info.deleteShard nodeIdx) is_recoverable it.drain
        (some it.mode))
      if flags &&& FORCE_RESTART == 0 then
        if flags &&& DRAIN != 0 then
          if it.drain then .error .ALREADY
          -- a drain of an empty shard is done at once
          else if it.auth_status == .AUTHORITATIVE_EMPTY then
            .ok { s with
              shards_ := s.shards_.insert shardIdx
                { shard_info with nodes_ := shard_info.nodes_.replace nodeIdx { it with drain := true } } }
          else restart
        else if it.mode == requestedMode && flags &&& TIME_RANGED == 0 &&
            it.auth_status != .FULLY_AUTHORITATIVE then
          .error .ALREADY
        else restart
      else restart

/-- The middle of `onShardAckRebuilt`: the node's ack recorded in the shard's entry. -/
def ackRebuilt (shard_info : RebuildingShardInfo) (lsn : Lsn) (header : SHARD_ACK_REBUILT_Header)
    (node_info : NodeInfo) : RebuildingShardInfo :=
  let shard_info :=
    { shard_info with
      nodes_ := shard_info.nodes_.replace header.nodeIdx
        { node_info with ack_lsn := lsn, ack_version := header.version } }
  -- a node rebuilt for a time range leaves the set once it acks
  if !node_info.dc_dirty_ranges.isEmpty && node_info.auth_status == .FULLY_AUTHORITATIVE then
    shard_info.deleteShard header.nodeIdx
  else shard_info.setShardAcked header.nodeIdx true

/-- `EventLogRebuildingSet::onShardAckRebuilt`. -/
def onShardAckRebuilt (s : EventLogRebuildingSet) (lsn : Lsn) (header : SHARD_ACK_REBUILT_Header)
    (storage_nodes : Finset NodeIndex) : Except E EventLogRebuildingSet :=
  match s.shards_.lookup header.shardIdx with
  | none => .error .FAILED
  | some shard_info =>
    if header.version != shard_info.version then .error .FAILED
    else
      match shard_info.nodes_.lookup header.nodeIdx with
      -- the node already acknowledged: probably a duplicate record
      | none => .error .FAILED
      | some node_info =>
        if node_info.acked then .error .FAILED
        -- a drain is still requested
        else if node_info.drain then .error .FAILED
        else
          let shard_info := ackRebuilt shard_info lsn header node_info
          let shards_ :=
            if shard_info.num_acked_ == shard_info.nodes_.entries.length then
              s.shards_.erase header.shardIdx
            else s.shards_.insert header.shardIdx shard_info
          .ok ({ s with shards_ }.recomputeAuthoritativeStatus header.shardIdx storage_nodes)

/-- The body of the loop of `onShardIsRebuilt` on one node: a node put in the rebuilding set at a
version the donor took into account records the donor as complete, and as complete
authoritatively unless the record says otherwise. -/
def donorComplete (header : SHARD_IS_REBUILT_Header) (n : NodeInfo) : NodeInfo :=
  let is_authoritative := header.flags &&& SHARD_IS_REBUILT_Header.NON_AUTHORITATIVE == 0
  let node_idx := header.donorNodeIdx
  if n.version ≤ header.version then
    { n with
      donors_complete := n.donors_complete.insert node_idx header.version
      donors_complete_authoritatively :=
        if is_authoritative then n.donors_complete_authoritatively.insert node_idx header.version
        else n.donors_complete_authoritatively }
  else n

section

variable (header : SHARD_IS_REBUILT_Header) (n : NodeInfo)

@[simp] lemma donorComplete_version : (donorComplete header n).version = n.version := by
  unfold donorComplete
  split <;> rfl

@[simp] lemma donorComplete_acked : (donorComplete header n).acked = n.acked := by
  unfold donorComplete
  split <;> rfl

@[simp] lemma donorComplete_recoverable : (donorComplete header n).recoverable = n.recoverable := by
  unfold donorComplete
  split <;> rfl

@[simp] lemma donorComplete_auth_status : (donorComplete header n).auth_status = n.auth_status := by
  unfold donorComplete
  split <;> rfl

end

/-- `EventLogRebuildingSet::onShardIsRebuilt`. The source sets `found` and records the donor in the
same loop over the nodes; here `found` is the `any` of that loop's condition, and the records are a
`mapVal` under it. -/
def onShardIsRebuilt (s : EventLogRebuildingSet) (header : SHARD_IS_REBUILT_Header)
    (storage_nodes : Finset NodeIndex) : Except E EventLogRebuildingSet :=
  let node_idx := header.donorNodeIdx
  match s.shards_.lookup header.shardIdx with
  | none => .error .FAILED
  | some shard_info =>
    let found := shard_info.nodes_.entries.any fun p => p.2.version ≤ header.version
    if !found then .error .FAILED
    else
      let nodes_ := Lib.AList.mapVal (fun _ => donorComplete header) shard_info.nodes_
      -- this donor finished rebuilding for this version
      let donor_progress :=
        if header.version == shard_info.version then
          Function.update shard_info.donor_progress node_idx none
        else shard_info.donor_progress
      let shard_info := { shard_info with nodes_ := nodes_, donor_progress := donor_progress }
      .ok ({ s with shards_ := s.shards_.insert header.shardIdx shard_info }.recomputeAuthoritativeStatus
        header.shardIdx storage_nodes)

/-- `EventLogRebuildingSet::onShardAbortRebuild`. -/
def onShardAbortRebuild (s : EventLogRebuildingSet) (lsn : Lsn)
    (header : SHARD_ABORT_REBUILD_Header) (storage_nodes : Finset NodeIndex) :
    Except E EventLogRebuildingSet :=
  match s.shards_.lookup header.shardIdx with
  | none => .error .STALE
  | some shard_info =>
    if header.version != LSN_INVALID && header.version != shard_info.version then .error .FAILED
    else if header.nodeIdx ∉ shard_info.nodes_ then .error .STALE
    else
      let shard_info := shard_info.deleteShard header.nodeIdx
      let shards_ :=
        if shard_info.num_acked_ == shard_info.nodes_.entries.length then
          s.shards_.erase header.shardIdx
        else
          s.shards_.insert header.shardIdx
            { shard_info with version := lsn, donor_progress := fun _ => none }
      .ok ({ s with shards_ }.recomputeAuthoritativeStatus header.shardIdx storage_nodes)

/-- `EventLogRebuildingSet::onShardUndrain`. -/
def onShardUndrain (s : EventLogRebuildingSet) (header : SHARD_UNDRAIN_Header) :
    Except E EventLogRebuildingSet :=
  match s.shards_.lookup header.shardIdx with
  | none => .error .FAILED
  | some shard_info =>
    match shard_info.nodes_.lookup header.nodeIdx with
    | none => .error .FAILED
    | some node_info =>
      .ok { s with
        shards_ := s.shards_.insert header.shardIdx
          { shard_info with
            nodes_ := shard_info.nodes_.replace header.nodeIdx { node_info with drain := false } } }

/-- `EventLogRebuildingSet::onShardUnrecoverable`. -/
def onShardUnrecoverable (s : EventLogRebuildingSet) (header : SHARD_UNRECOVERABLE_Header)
    (storage_nodes : Finset NodeIndex) : Except E EventLogRebuildingSet :=
  match s.shards_.lookup header.shardIdx with
  | none => .error .FAILED
  | some shard_info =>
    if header.nodeIdx ∉ shard_info.nodes_ then .error .FAILED
    else
      .ok ({ s with
        shards_ := s.shards_.insert header.shardIdx
          (shard_info.setShardRecoverable header.nodeIdx false) }.recomputeAuthoritativeStatus
        header.shardIdx storage_nodes)

/-- `EventLogRebuildingSet::onShardDonorProgress`. -/
def onShardDonorProgress (s : EventLogRebuildingSet) (header : SHARD_DONOR_PROGRESS_Header) :
    Except E EventLogRebuildingSet :=
  let donor_node_id := header.donorNodeIdx
  match s.shards_.lookup header.shardIdx with
  | none => .error .FAILED
  | some shard_info =>
    if shard_info.version != header.version then .error .FAILED
    else
      match shard_info.donor_progress donor_node_id with
      -- not expected to be a donor for this rebuilding version
      | none => .error .FAILED
      | some cur =>
        let ts := header.nextTimestamp
        let new_to_old := header.flags &&& SHARD_DONOR_PROGRESS_Header.FLAG_NEW_TO_OLD != 0
        -- the window may only move one way
        if new_to_old == cur.new_to_old &&
            (ts == cur.timestamp || new_to_old != decide (ts < cur.timestamp)) then
          .error .FAILED
        else
          .ok { s with
            shards_ := s.shards_.insert header.shardIdx
              { shard_info with
                donor_progress := Function.update shard_info.donor_progress donor_node_id
                  (some { cur with new_to_old, timestamp := ts }) } }

/-- The dispatch of `update` on the record's type. -/
def onEvent (s : EventLogRebuildingSet) (lsn : Lsn) (record : EventLogRecord)
    (storage_nodes : Finset NodeIndex) : Except E EventLogRebuildingSet :=
  match record with
  | .SHARD_NEEDS_REBUILD header time_ranges =>
    s.onShardNeedsRebuild lsn header time_ranges storage_nodes
  | .SHARD_ACK_REBUILT header => s.onShardAckRebuilt lsn header storage_nodes
  | .SHARD_IS_REBUILT header => s.onShardIsRebuilt header storage_nodes
  | .SHARD_ABORT_REBUILD header => s.onShardAbortRebuild lsn header storage_nodes
  | .SHARD_UNDRAIN header => s.onShardUndrain header
  | .SHARD_DONOR_PROGRESS header => s.onShardDonorProgress header
  | .SHARD_UNRECOVERABLE header => s.onShardUnrecoverable header storage_nodes

/-- `EventLogRebuildingSet::update`: the outcome, and the new set. `storage_nodes` is the storage
membership of the nodes configuration. -/
def update (s : EventLogRebuildingSet) (lsn : Lsn) (record : EventLogRecord)
    (storage_nodes : Finset NodeIndex) : Except E Unit × EventLogRebuildingSet :=
  let s := { s with last_seen_lsn_ := lsn }
  match s.onEvent lsn record storage_nodes with
  | .ok s => (.ok (), { s with last_update_ := lsn })
  | .error e => (.error e, s)

/-- One record of the event log applied with `update`, at an LSN above every one applied before
it: the event log is read in LSN order. -/
inductive UpdateStep :
    EventLogRebuildingSet → Lsn × EventLogRecord × Finset NodeIndex → EventLogRebuildingSet → Prop
  | mk {s : EventLogRebuildingSet} {lsn : Lsn} {record : EventLogRecord}
      {storage_nodes : Finset NodeIndex} :
    s.last_seen_lsn_ < lsn → UpdateStep s (lsn, record, storage_nodes) (s.update lsn record storage_nodes).2

/-- The records applied one after the other with `update`. -/
def replay (s : EventLogRebuildingSet) (records : List (Lsn × EventLogRecord × Finset NodeIndex)) :
    EventLogRebuildingSet :=
  records.foldl (fun s r => (s.update r.1 r.2.1 r.2.2).2) s

/-! ## What a handler can do

Every handler that succeeds replaces the entry of the record's shard offset, or erases it, and
leaves the rest of the set alone. `withShard` names that update. -/

/-- The set with the entry of shard offset `shard` replaced by `o`, or erased when `o` is `none`. -/
def withShard (s : EventLogRebuildingSet) (shard : ShardIndex) :
    Option RebuildingShardInfo → EventLogRebuildingSet
  | none => { s with shards_ := s.shards_.erase shard }
  | some si => { s with shards_ := s.shards_.insert shard si }

section

variable {s s' : EventLogRebuildingSet} {shard : ShardIndex} {storage_nodes : Finset NodeIndex}

@[simp] lemma withShard_last_seen_lsn (o : Option RebuildingShardInfo) :
    (s.withShard shard o).last_seen_lsn_ = s.last_seen_lsn_ := by
  cases o <;> rfl

lemma lookup_withShard (o : Option RebuildingShardInfo) (k : ShardIndex) :
    (s.withShard shard o).shards_.lookup k = if k = shard then o else s.shards_.lookup k := by
  cases o with
  | none =>
    by_cases hk : k = shard
    · subst hk
      simp [withShard, Finmap.lookup_erase]
    · simp [withShard, hk, Finmap.lookup_erase_ne hk]
  | some si =>
    by_cases hk : k = shard
    · subst hk
      simp [withShard, Finmap.lookup_insert]
    · simp [withShard, hk, Finmap.lookup_insert_of_ne _ hk]

/-- Recomputing the statuses of the shard just updated recomputes the new entry. -/
lemma recomputeAuthoritativeStatus_withShard (o : Option RebuildingShardInfo) :
    (s.withShard shard o).recomputeAuthoritativeStatus shard storage_nodes =
      s.withShard shard (o.map (·.recomputeAuthoritativeStatus storage_nodes)) := by
  cases o with
  | none => simp [recomputeAuthoritativeStatus, withShard, Finmap.lookup_erase]
  | some si => simp [recomputeAuthoritativeStatus, withShard, Finmap.lookup_insert, Finmap.insert_insert]

/-- A failed call leaves the set as it was, and a successful one records its LSN. -/
lemma update_eq (lsn : Lsn) (record : EventLogRecord) :
    (s.update lsn record storage_nodes).2 =
      match ({ s with last_seen_lsn_ := lsn } : EventLogRebuildingSet).onEvent lsn record
          storage_nodes with
      | .ok s' => { s' with last_update_ := lsn }
      | .error _ => { s with last_seen_lsn_ := lsn } := by
  unfold update
  dsimp only
  cases ({ s with last_seen_lsn_ := lsn } : EventLogRebuildingSet).onEvent lsn record
    storage_nodes <;> rfl

/-! ### The new entries -/

section

variable (si : RebuildingShardInfo) (lsn : Lsn)

section

variable (header : SHARD_NEEDS_REBUILD_Header) (time_ranges : PerDataClassTimeRanges)
  (requestedMode : RebuildingMode) (is_recoverable drain : Bool)
  (currentMode : Option RebuildingMode)

@[simp] lemma startRebuilding_version :
    (startRebuilding si lsn header time_ranges requestedMode is_recoverable drain
      currentMode).version = lsn := by
  simp [startRebuilding]

/-- The other nodes of the shard are left alone. -/
lemma lookup_startRebuilding_ne {k : NodeIndex} (hk : k ≠ header.nodeIdx) :
    (startRebuilding si lsn header time_ranges requestedMode is_recoverable drain
      currentMode).nodes_.lookup k = si.nodes_.lookup k := by
  unfold startRebuilding
  simp [RebuildingShardInfo.lookup_setShardRecoverable, hk, AList.lookup_insert_ne hk]

/-- The node's new entry is at the new version and not acked. -/
lemma lookup_startRebuilding_self :
    ∃ ni, (startRebuilding si lsn header time_ranges requestedMode is_recoverable drain
      currentMode).nodes_.lookup header.nodeIdx = some ni ∧ ni.version = lsn ∧ ni.acked = false := by
  unfold startRebuilding
  simp [RebuildingShardInfo.lookup_setShardRecoverable, AList.lookup_insert]

/-- The new entry counts nowhere until its `recoverable` flag is set, which keeps the counts. -/
lemma counted_startRebuilding (h : RebuildingShardInfo.Counted si)
    (hn : header.nodeIdx ∉ si.nodes_) :
    RebuildingShardInfo.Counted (startRebuilding si lsn header time_ranges requestedMode
      is_recoverable drain currentMode) := by
  unfold EventLogRebuildingSet.startRebuilding
  dsimp only
  apply RebuildingShardInfo.Counted.setShardRecoverable
  obtain ⟨hna, hnr⟩ := h
  constructor
  · show si.num_acked_ = RebuildingShardInfo.ackedCount (si.nodes_.insert header.nodeIdx _)
    unfold RebuildingShardInfo.ackedCount at hna ⊢
    rw [Lib.AList.countP_insert_of_notMem _ hn, hna]
    simp
  · show si.num_recoverable_ =
      RebuildingShardInfo.recoverableCount (si.nodes_.insert header.nodeIdx _)
    unfold RebuildingShardInfo.recoverableCount at hnr ⊢
    rw [Lib.AList.countP_insert_of_notMem _ hn, hnr]
    simp

end

section

variable (header : SHARD_ACK_REBUILT_Header) (node_info : NodeInfo)

@[simp] lemma ackRebuilt_version : (ackRebuilt si lsn header node_info).version = si.version := by
  unfold ackRebuilt
  split <;> simp

/-- The other nodes of the shard are left alone. -/
lemma lookup_ackRebuilt_ne {k : NodeIndex} (hk : k ≠ header.nodeIdx) :
    (ackRebuilt si lsn header node_info).nodes_.lookup k = si.nodes_.lookup k := by
  unfold ackRebuilt
  split
  · rw [RebuildingShardInfo.lookup_deleteShard, if_neg hk]
    exact Lib.AList.lookup_replace_ne hk
  · rw [RebuildingShardInfo.lookup_setShardAcked]
    simp [hk, Lib.AList.lookup_replace_ne hk]

/-- The node's entry, if kept, differs from the old one in its ack only. -/
lemma lookup_ackRebuilt_self (hl : si.nodes_.lookup header.nodeIdx = some node_info) :
    (ackRebuilt si lsn header node_info).nodes_.lookup header.nodeIdx = none ∨
      (ackRebuilt si lsn header node_info).nodes_.lookup header.nodeIdx =
        some { node_info with ack_lsn := lsn, ack_version := header.version, acked := true } := by
  have hmem : header.nodeIdx ∈ si.nodes_ := AList.lookup_isSome.mp (by simp [hl])
  unfold ackRebuilt
  split
  · exact .inl (by simp [RebuildingShardInfo.lookup_deleteShard])
  · refine .inr ?_
    simp [RebuildingShardInfo.lookup_setShardAcked, Lib.AList.lookup_replace_self hmem]

lemma counted_ackRebuilt (h : RebuildingShardInfo.Counted si)
    (hl : si.nodes_.lookup header.nodeIdx = some node_info) :
    RebuildingShardInfo.Counted (ackRebuilt si lsn header node_info) := by
  -- recording the ack's LSN and version leaves both flags alone
  let acked_info : NodeInfo := { node_info with ack_lsn := lsn, ack_version := header.version }
  have h' : RebuildingShardInfo.Counted
      { si with nodes_ := si.nodes_.replace header.nodeIdx acked_info } :=
    h.replace hl rfl rfl
  unfold EventLogRebuildingSet.ackRebuilt
  split
  · exact h'.deleteShard
  · exact h'.setShardAcked true

end

end

lemma onShardAckRebuilt_ok {lsn : Lsn} {header : SHARD_ACK_REBUILT_Header}
    (h : s.onShardAckRebuilt lsn header storage_nodes = .ok s') :
    ∃ si ni, s.shards_.lookup header.shardIdx = some si ∧ header.version = si.version ∧
      si.nodes_.lookup header.nodeIdx = some ni ∧ ni.acked = false ∧ ni.drain = false ∧
      s' = s.withShard header.shardIdx
        ((if (ackRebuilt si lsn header ni).num_acked_ ==
              (ackRebuilt si lsn header ni).nodes_.entries.length then none
          else some (ackRebuilt si lsn header ni)).map
          (·.recomputeAuthoritativeStatus storage_nodes)) := by
  unfold onShardAckRebuilt at h
  split at h
  · cases h
  next si hsi =>
    split at h
    · cases h
    next hv =>
      split at h
      · cases h
      next ni hni =>
        split at h
        · cases h
        next hacked =>
          split at h
          · cases h
          next hdrain =>
            cases h
            refine ⟨si, ni, hsi, by simpa using hv, hni, by simpa using hacked,
              by simpa using hdrain, ?_⟩
            rw [← recomputeAuthoritativeStatus_withShard]
            split <;> rfl

lemma onShardNeedsRebuild_ok {lsn : Lsn} {header : SHARD_NEEDS_REBUILD_Header}
    {time_ranges : PerDataClassTimeRanges}
    (h : s.onShardNeedsRebuild lsn header time_ranges storage_nodes = .ok s') :
    let si := (s.shards_.lookup header.shardIdx).getD {}
    (∃ it, si.nodes_.lookup header.nodeIdx = some it ∧ it.auth_status = .AUTHORITATIVE_EMPTY ∧
        s' = s.withShard header.shardIdx
          (some { si with nodes_ := si.nodes_.replace header.nodeIdx { it with drain := true } })) ∨
      ∃ si₀ requestedMode is_recoverable drain currentMode,
        (si₀ = si ∧ header.nodeIdx ∉ si.nodes_ ∨ si₀ = si.deleteShard header.nodeIdx) ∧
        s' = s.withShard header.shardIdx
          (some ((startRebuilding si₀ lsn header time_ranges requestedMode is_recoverable drain
            currentMode).recomputeAuthoritativeStatus storage_nodes)) := by
  intro si
  unfold onShardNeedsRebuild at h
  dsimp only at h
  split at h
  · cases h
  split at h
  next hnone =>
    cases h
    exact .inr ⟨si, _, true, false, none, .inl ⟨rfl, AList.lookup_eq_none.mp hnone⟩,
      recomputeAuthoritativeStatus_withShard (some _)⟩
  next it hit =>
    split_ifs at h with hforce hdrain hdrained hae hmode <;> cases h
    -- the drain of a shard already empty
    · exact .inl ⟨it, hit, by simpa using hae, rfl⟩
    -- every other success restarts the rebuilding
    all_goals exact .inr ⟨_, _, _, _, _, .inr rfl, recomputeAuthoritativeStatus_withShard (some _)⟩

lemma onShardUndrain_ok {header : SHARD_UNDRAIN_Header} (h : s.onShardUndrain header = .ok s') :
    ∃ si ni, s.shards_.lookup header.shardIdx = some si ∧
      si.nodes_.lookup header.nodeIdx = some ni ∧
      s' = s.withShard header.shardIdx
        (some { si with nodes_ := si.nodes_.replace header.nodeIdx { ni with drain := false } }) := by
  unfold onShardUndrain at h
  split at h
  · cases h
  next si hsi =>
    split at h
    · cases h
    next ni hni =>
      cases h
      exact ⟨si, ni, hsi, hni, rfl⟩

lemma onShardDonorProgress_ok {header : SHARD_DONOR_PROGRESS_Header}
    (h : s.onShardDonorProgress header = .ok s') :
    ∃ si cur, s.shards_.lookup header.shardIdx = some si ∧ si.version = header.version ∧
      si.donor_progress header.donorNodeIdx = some cur ∧
      s' = s.withShard header.shardIdx
        (some { si with
          donor_progress := Function.update si.donor_progress header.donorNodeIdx
            (some { cur with
              new_to_old := header.flags &&& SHARD_DONOR_PROGRESS_Header.FLAG_NEW_TO_OLD != 0
              timestamp := header.nextTimestamp }) }) := by
  unfold onShardDonorProgress at h
  split at h
  · cases h
  next si hsi =>
    dsimp only at h
    split at h
    · cases h
    next hv =>
      split at h
      · cases h
      next cur hcur =>
        split at h
        · cases h
        · cases h
          exact ⟨si, cur, hsi, by simpa using hv, hcur, rfl⟩

lemma onShardUnrecoverable_ok {header : SHARD_UNRECOVERABLE_Header}
    (h : s.onShardUnrecoverable header storage_nodes = .ok s') :
    ∃ si, s.shards_.lookup header.shardIdx = some si ∧ header.nodeIdx ∈ si.nodes_ ∧
      s' = s.withShard header.shardIdx
        (some ((si.setShardRecoverable header.nodeIdx false).recomputeAuthoritativeStatus
          storage_nodes)) := by
  unfold onShardUnrecoverable at h
  split at h
  · cases h
  next si hsi =>
    split at h
    · cases h
    next hmem =>
      cases h
      refine ⟨si, hsi, not_not.mp hmem, ?_⟩
      exact recomputeAuthoritativeStatus_withShard (some _)

lemma onShardIsRebuilt_ok {header : SHARD_IS_REBUILT_Header}
    (h : s.onShardIsRebuilt header storage_nodes = .ok s') :
    ∃ si, s.shards_.lookup header.shardIdx = some si ∧
      (si.nodes_.entries.any fun p => p.2.version ≤ header.version) = true ∧
      s' = s.withShard header.shardIdx
        (some (RebuildingShardInfo.recomputeAuthoritativeStatus storage_nodes
          { si with
            nodes_ := Lib.AList.mapVal (fun _ => donorComplete header) si.nodes_
            donor_progress :=
              if header.version == si.version then
                Function.update si.donor_progress header.donorNodeIdx none
              else si.donor_progress })) := by
  unfold onShardIsRebuilt at h
  split at h
  · cases h
  next si hsi =>
    dsimp only at h
    split at h
    · cases h
    next hfound =>
      cases h
      refine ⟨si, hsi, by simpa using hfound, ?_⟩
      exact recomputeAuthoritativeStatus_withShard (some _)

lemma onShardAbortRebuild_ok {lsn : Lsn} {header : SHARD_ABORT_REBUILD_Header}
    (h : s.onShardAbortRebuild lsn header storage_nodes = .ok s') :
    ∃ si, s.shards_.lookup header.shardIdx = some si ∧ header.nodeIdx ∈ si.nodes_ ∧
      s' = s.withShard header.shardIdx
        ((if (si.deleteShard header.nodeIdx).num_acked_ ==
              (si.deleteShard header.nodeIdx).nodes_.entries.length then none
          else some { si.deleteShard header.nodeIdx with
            version := lsn, donor_progress := fun _ => none }).map
          (·.recomputeAuthoritativeStatus storage_nodes)) := by
  unfold onShardAbortRebuild at h
  split at h
  · cases h
  next si hsi =>
    split at h
    · cases h
    split at h
    · cases h
    next hmem =>
      cases h
      refine ⟨si, hsi, not_not.mp hmem, ?_⟩
      rw [← recomputeAuthoritativeStatus_withShard]
      dsimp only
      split <;> rfl

/-- No handler changes the last LSN seen. -/
lemma onEvent_last_seen_lsn {lsn : Lsn} {record : EventLogRecord}
    (h : s.onEvent lsn record storage_nodes = .ok s') : s'.last_seen_lsn_ = s.last_seen_lsn_ := by
  cases record with
  | SHARD_NEEDS_REBUILD header time_ranges =>
    rcases onShardNeedsRebuild_ok h with ⟨-, -, -, rfl⟩ | ⟨-, -, -, -, -, -, rfl⟩ <;> simp
  | SHARD_ACK_REBUILT header =>
    obtain ⟨-, -, -, -, -, -, -, rfl⟩ := onShardAckRebuilt_ok h
    simp
  | SHARD_IS_REBUILT header =>
    obtain ⟨-, -, -, rfl⟩ := onShardIsRebuilt_ok h
    simp
  | SHARD_ABORT_REBUILD header =>
    obtain ⟨-, -, -, rfl⟩ := onShardAbortRebuild_ok h
    simp
  | SHARD_UNDRAIN header =>
    obtain ⟨-, -, -, -, rfl⟩ := onShardUndrain_ok h
    simp
  | SHARD_DONOR_PROGRESS header =>
    obtain ⟨-, -, -, -, -, rfl⟩ := onShardDonorProgress_ok h
    simp
  | SHARD_UNRECOVERABLE header =>
    obtain ⟨-, -, -, rfl⟩ := onShardUnrecoverable_ok h
    simp

@[simp] lemma update_last_seen_lsn (lsn : Lsn) (record : EventLogRecord) :
    (s.update lsn record storage_nodes).2.last_seen_lsn_ = lsn := by
  rw [update_eq]
  split
  next s' hs => exact onEvent_last_seen_lsn hs
  next => rfl

/-- A handler rejects a record with `STALE`, `ALREADY` or `FAILED` only. -/
lemma onEvent_error {lsn : Lsn} {record : EventLogRecord} {e : E}
    (h : s.onEvent lsn record storage_nodes = .error e) :
    e = .STALE ∨ e = .ALREADY ∨ e = .FAILED := by
  -- every rejection of a handler is one of its literal codes: split every branch and read it
  cases record <;>
    simp only [onEvent, onShardNeedsRebuild, onShardAckRebuilt, onShardIsRebuilt,
      onShardAbortRebuild, onShardUndrain, onShardDonorProgress, onShardUnrecoverable] at h <;>
    repeat' split at h
  all_goals cases h <;> simp


end

/-- Records at increasing LSNs, replayed, are a run of `UpdateStep`. -/
lemma run_replay : ∀ (records : List (Lsn × EventLogRecord × Finset NodeIndex))
    (s : EventLogRebuildingSet), List.IsChain (· < ·) (s.last_seen_lsn_ :: records.map (·.1)) →
    Lib.Run UpdateStep s records (s.replay records)
  | [], s, _ => .nil s
  | (lsn, record, storage_nodes) :: records, s, h => by
    rw [List.map_cons, List.isChain_cons_cons] at h
    refine .cons (.mk h.1) ?_
    apply run_replay
    rw [update_last_seen_lsn]
    exact h.2

end EventLogRebuildingSet

end LogDevice.Rebuilding
