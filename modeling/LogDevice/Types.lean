import Mathlib

/-!
# Common types

The identifiers and error codes shared by the modelled subsystems (`common/types_internal.h`,
`common/NodeID.h`, `common/ShardID.h`, `common/AuthoritativeStatus.h`, `include/Err.h`): node and
shard indices, `ShardID`, sequence numbers within an epoch (`esn_t`, 32 bits), log sequence numbers
(`lsn_t`, 64 bits), the authoritative status of a shard and the error codes `E` that the modelled
functions set.

Node and shard indices are identifiers only (compared, never computed with), so they are `Nat`;
sequence numbers keep their machine widths, since the code computes with them.
-/

namespace LogDevice

/-- Offset of a node in the cluster (`node_index_t`). -/
abbrev NodeIndex := Nat

/-- Offset of a shard on a node (`shard_index_t`). -/
abbrev ShardIndex := Nat

/-- A shard of a storage node (`ShardID`). -/
structure ShardID where
  node : NodeIndex
  shard : ShardIndex
  deriving DecidableEq, Repr, Inhabited

/-- `ShardID::operator<`: by node, then by shard, the order of a `std::map<ShardID, _>`. -/
instance : LT ShardID :=
  ⟨fun a b => a.node < b.node ∨ (a.node = b.node ∧ a.shard < b.shard)⟩

instance (a b : ShardID) : Decidable (a < b) :=
  inferInstanceAs (Decidable (a.node < b.node ∨ (a.node = b.node ∧ a.shard < b.shard)))

/-- Sequence number within an epoch (`esn_t`). -/
abbrev Esn := UInt32

def ESN_INVALID : Esn := 0
def ESN_MIN : Esn := 1
def ESN_MAX : Esn := 4294967295

@[simp] lemma ESN_MAX_toNat : ESN_MAX.toNat = 4294967295 := rfl

/-- Log sequence number (`lsn_t`). -/
abbrev Lsn := UInt64

def LSN_INVALID : Lsn := 0

/-- What readers and recoveries may assume of a shard's data (`enum class AuthoritativeStatus`). -/
inductive AuthoritativeStatus where
  | FULLY_AUTHORITATIVE
  | UNDERREPLICATION
  | AUTHORITATIVE_EMPTY
  | UNAVAILABLE
  deriving DecidableEq, Repr, Inhabited

/-- The error codes the modelled functions report through `err` (`enum class E`). -/
inductive E where
  | INVALID_PARAM
  | SOURCE_STATE_MISMATCH
  | CONDITION_MISMATCH
  | ALREADY
  | INTERNAL
  | VERSION_MISMATCH
  | NOTINCONFIG
  | EXISTS
  | STALE
  | FAILED
  | TOOBIG
  | NOBUFS
  | DISABLED
  | COND_WRITE_NOT_READY
  | COND_WRITE_FAILED
  | MALFORMED_RECORD
  | BADMSG
  | NOTSUPPORTED
  | NOTFOUND
  | NOTDIR
  | NOTEMPTY
  | INVALID_CONFIG
  | INVALID_ATTRIBUTES
  | ID_CLASH
  deriving DecidableEq, Repr, Inhabited

end LogDevice
