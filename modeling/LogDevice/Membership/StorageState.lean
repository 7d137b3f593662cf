import Mathlib

/-!
# Storage states and the transition table

Model of `membership/StorageState.h` and `membership/StorageStateTransitions.h`: the per-shard
`StorageState`, the metadata state `MetaDataStorageState`, the twenty `StorageStateTransition`s
with their `TransitionTable` rows (source state, target state, required conditions), the
`Condition` bit set with `hasAllConditionsOrForce`, and the reader/writer predicates `canWriteTo`,
`shouldReadFrom` and `isIntermediaryState`.

Enumerations are inductive types; `StorageStateTransition.count` stands for the out-of-range value
`StorageStateTransition::Count`, the default of `ShardState::Update::transition`. Condition and
flag words keep their fixed widths (`UInt64`, `UInt32`).
-/

namespace LogDevice.Membership

/-- Storage state of a single storage shard (`enum class StorageState`). -/
inductive StorageState where
  | none
  | noneToRo
  | readOnly
  | readWrite
  | rwToRo
  | dataMigration
  | invalid
  | provisioning
  deriving DecidableEq, Repr, Inhabited

/-- Metadata storage state of a shard (`enum class MetaDataStorageState`). -/
inductive MetaDataStorageState where
  | none
  | metadata
  | promoting
  | invalid
  deriving DecidableEq, Repr, Inhabited

/-- Writers may pick the shard for a copyset (`canWriteTo`). -/
def canWriteTo (state : StorageState) : Bool :=
  state == .readWrite

/-- Readers must hear from the shard before reporting dataloss (`shouldReadFrom`). -/
def shouldReadFrom (state : StorageState) : Bool :=
  state == .readWrite || state == .readOnly || state == .noneToRo ||
    state == .rwToRo || state == .dataMigration

/-- The first phase of a two-phase membership change (`isIntermediaryState`). -/
def isIntermediaryState (state : StorageState) : Bool :=
  state == .noneToRo || state == .rwToRo

/-- Storage state flags (`StorageStateFlags::Type`, a `uint32_t`). -/
abbrev StorageStateFlags := UInt32

/-- The only flag: the shard permanently lost data (`StorageStateFlags::UNRECOVERABLE`). -/
def StorageStateFlags.UNRECOVERABLE : StorageStateFlags := (1 : UInt32) <<< 0

/-- The twenty state transitions of a storage shard, and the out-of-range `Count`. -/
inductive StorageStateTransition where
  | addEmptyShard
  | removeEmptyShard
  | enablingRead
  | commitReadEnabled
  | enableWrite
  | disablingWrite
  | commitWriteDisabled
  | startDataMigration
  | dataMigrationCompleted
  | abortEnablingRead
  | abortDisablingWrite
  | cancelDataMigration
  | promotingMetadataShard
  | commitPromotionMetadataShard
  | abortPromotingMetadataShard
  | markShardUnrecoverable
  | markShardProvisioned
  | bootstrapEnableShard
  | bootstrapEnableMetadataShard
  | overrideState
  | count
  deriving DecidableEq, Repr, Inhabited

namespace StorageStateTransition

/-- `static_cast<size_t>(transition)`. -/
def toNat : StorageStateTransition → Nat
  | addEmptyShard => 0
  | removeEmptyShard => 1
  | enablingRead => 2
  | commitReadEnabled => 3
  | enableWrite => 4
  | disablingWrite => 5
  | commitWriteDisabled => 6
  | startDataMigration => 7
  | dataMigrationCompleted => 8
  | abortEnablingRead => 9
  | abortDisablingWrite => 10
  | cancelDataMigration => 11
  | promotingMetadataShard => 12
  | commitPromotionMetadataShard => 13
  | abortPromotingMetadataShard => 14
  | markShardUnrecoverable => 15
  | markShardProvisioned => 16
  | bootstrapEnableShard => 17
  | bootstrapEnableMetadataShard => 18
  | overrideState => 19
  | count => 20

end StorageStateTransition

/-- `isAddingNewShard`. -/
def isAddingNewShard (transition : StorageStateTransition) : Bool :=
  transition == .addEmptyShard

/-- `isBootstrappingShard`. -/
def isBootstrappingShard (transition : StorageStateTransition) : Bool :=
  transition == .bootstrapEnableShard || transition == .bootstrapEnableMetadataShard

/-- Condition bit set proposed with an update (`StateTransitionCondition`, a `uint64_t`). -/
abbrev StateTransitionCondition := UInt64

namespace Condition

def NONE : StateTransitionCondition := 0
def EMPTY_SHARD : StateTransitionCondition := (1 : UInt64) <<< 0
def LOCAL_STORE_READABLE : StateTransitionCondition := (1 : UInt64) <<< 1
def NO_SELF_REPORT_MISSING_DATA : StateTransitionCondition := (1 : UInt64) <<< 2
def CAUGHT_UP_LOCAL_CONFIG : StateTransitionCondition := (1 : UInt64) <<< 3
def COPYSET_CONFIRMATION : StateTransitionCondition := (1 : UInt64) <<< 4
def LOCAL_STORE_WRITABLE : StateTransitionCondition := (1 : UInt64) <<< 5
def WRITE_AVAILABILITY_CHECK : StateTransitionCondition := (1 : UInt64) <<< 6
def CAPACITY_CHECK : StateTransitionCondition := (1 : UInt64) <<< 7
def FMAJORITY_CONFIRMATION : StateTransitionCondition := (1 : UInt64) <<< 8
def DATA_MIGRATION_COMPLETE : StateTransitionCondition := (1 : UInt64) <<< 9
def SELF_AWARE_MISSING_DATA : StateTransitionCondition := (1 : UInt64) <<< 10
def CANNOT_ACCEPT_WRITES : StateTransitionCondition := (1 : UInt64) <<< 11
def METADATA_WRITE_AVAILABILITY_CHECK : StateTransitionCondition := (1 : UInt64) <<< 12
def METADATA_CAPACITY_CHECK : StateTransitionCondition := (1 : UInt64) <<< 13
def FORCE : StateTransitionCondition := (1 : UInt64) <<< 63

/-- `source` carries every condition of `required`. -/
def hasAllConditions (source required : StateTransitionCondition) : Bool :=
  (source &&& required) == required

/-- `source` carries every condition of `required`, or carries `FORCE`. -/
def hasAllConditionsOrForce (source required : StateTransitionCondition) : Bool :=
  (source &&& FORCE) != 0 || hasAllConditions source required

end Condition

open Condition in
/-- The rows of `TransitionTable`, in the order of `StorageStateTransition`: source state,
target state and required conditions. A source or target of `invalid` means "not applicable". -/
def TransitionTable : List (StorageState × StorageState × StateTransitionCondition) :=
  [ (.invalid, .provisioning, NONE),
    (.invalid, .invalid, NONE),
    (.none, .noneToRo,
      EMPTY_SHARD ||| LOCAL_STORE_READABLE ||| NO_SELF_REPORT_MISSING_DATA |||
        CAUGHT_UP_LOCAL_CONFIG),
    (.noneToRo, .readOnly, COPYSET_CONFIRMATION),
    (.readOnly, .readWrite, LOCAL_STORE_WRITABLE),
    (.readWrite, .rwToRo, WRITE_AVAILABILITY_CHECK ||| CAPACITY_CHECK),
    (.rwToRo, .readOnly, FMAJORITY_CONFIRMATION),
    (.readOnly, .dataMigration, CAPACITY_CHECK),
    (.dataMigration, .none, DATA_MIGRATION_COMPLETE),
    (.noneToRo, .none, NONE),
    (.rwToRo, .readWrite, LOCAL_STORE_WRITABLE),
    (.dataMigration, .readOnly, NONE),
    (.readWrite, .readWrite, NONE),
    (.readWrite, .readWrite, COPYSET_CONFIRMATION),
    (.readWrite, .readWrite, NONE),
    (.invalid, .invalid, SELF_AWARE_MISSING_DATA ||| CANNOT_ACCEPT_WRITES),
    (.provisioning, .none, EMPTY_SHARD ||| LOCAL_STORE_READABLE ||| NO_SELF_REPORT_MISSING_DATA),
    (.none, .readWrite,
      EMPTY_SHARD ||| LOCAL_STORE_READABLE ||| NO_SELF_REPORT_MISSING_DATA |||
        LOCAL_STORE_WRITABLE),
    (.none, .readWrite,
      EMPTY_SHARD ||| LOCAL_STORE_READABLE ||| NO_SELF_REPORT_MISSING_DATA |||
        LOCAL_STORE_WRITABLE),
    (.invalid, .invalid, FORCE) ]

/-- Row of the table for a transition; `Count` has no row and reads as "not applicable". -/
def tableRow (transition : StorageStateTransition) :
    StorageState × StorageState × StateTransitionCondition :=
  TransitionTable.getD transition.toNat (.invalid, .invalid, Condition.NONE)

def source_state (transition : StorageStateTransition) : StorageState :=
  (tableRow transition).1

def target_state (transition : StorageStateTransition) : StorageState :=
  (tableRow transition).2.1

def required_conditions (transition : StorageStateTransition) : StateTransitionCondition :=
  (tableRow transition).2.2

end LogDevice.Membership
