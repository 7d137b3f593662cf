import LogDevice.Membership.StorageMembership

/-!
# Locations, replication properties and the nodes configuration

Model of the parts of the cluster configuration that failure-domain bookkeeping reads:
`NodeLocationScope` (`include/node_location_scopes.inc`), `NodeLocation`
(`common/configuration/NodeLocation.{h,cpp}`: `nextSmallerScope`, `scopeSpecified`, `getDomain`),
`ReplicationProperty` (`common/configuration/ReplicationProperty.h`: `getReplication`,
`setReplication`, `isValid`)
and, of the `NodesConfiguration`, a node's service discovery (its location) and the storage
membership.

The scopes are listed smallest first, so that `static_cast<size_t>(scope)` is `toNat`. The
replication factors are `int`s in the source; the model keeps them as natural numbers, since no
accepted property holds a negative one. `isValid` starts from `cur = SIZE_MAX`, which no factor
reaches; the model writes that start as `none`.
-/

namespace LogDevice.Configuration

/-- A location scope (`enum class NodeLocationScope`), smallest first. -/
inductive NodeLocationScope where
  | NODE
  | RACK
  | ROW
  | CLUSTER
  | DATA_CENTER
  | REGION
  | ROOT
  | INVALID
  deriving DecidableEq, Repr, Inhabited

namespace NodeLocationScope

/-- `static_cast<size_t>(scope)`. -/
def toNat : NodeLocationScope → Nat
  | NODE => 0
  | RACK => 1
  | ROW => 2
  | CLUSTER => 3
  | DATA_CENTER => 4
  | REGION => 5
  | ROOT => 6
  | INVALID => 7

/-- `NodeLocation::nextSmallerScope`: `INVALID` below `NODE` and outside the scopes. -/
def nextSmallerScope : NodeLocationScope → NodeLocationScope
  | NODE => INVALID
  | RACK => NODE
  | ROW => RACK
  | CLUSTER => ROW
  | DATA_CENTER => CLUSTER
  | REGION => DATA_CENTER
  | ROOT => REGION
  | INVALID => INVALID

end NodeLocationScope

open NodeLocationScope

/-- The scopes a replication factor is given for, from `NODE` up to `REGION`: the scopes that
`ReplicationProperty::isValid` visits with `nextGreaterScope` below `ROOT`. -/
def replicationScopes : List NodeLocationScope := [NODE, RACK, ROW, CLUSTER, DATA_CENTER, REGION]

/-- The loops that start at `nextSmallerScope(ROOT)` and stop at `INVALID` visit the replication
scopes from the largest down. -/
lemma nextSmallerScope_chain :
    List.IsChain (fun a b => nextSmallerScope a = b)
      (ROOT :: replicationScopes.reverse ++ [INVALID]) := by
  decide

/-- `NodeLocation::NUM_SCOPES`: the labelled scopes, `RACK` to `REGION`. -/
def NUM_SCOPES : Nat := 5

/-- A node's location (`class NodeLocation`): a label per labelled scope, largest first, of which
the first `num_specified_` are given. -/
structure NodeLocation where
  labels_ : Vector String NUM_SCOPES
  num_specified_ : Nat
  num_specified_le : num_specified_ ≤ NUM_SCOPES
  deriving DecidableEq

namespace NodeLocation

/-- `NodeLocation::scopeToIndex`: the position of a labelled scope's label. -/
def scopeToIndex (scope : NodeLocationScope) : Nat :=
  NUM_SCOPES - scope.toNat

/-- `NodeLocation::effectiveScopes`: how many labels name a domain at `scope`. -/
def effectiveScopes (scope : NodeLocationScope) : Nat :=
  if scope = ROOT then 0
  else if scope = NODE then NUM_SCOPES
  else scopeToIndex scope + 1

/-- `NodeLocation::isEmpty`. -/
def isEmpty (loc : NodeLocation) : Bool :=
  loc.num_specified_ == 0

/-- `NodeLocation::scopeSpecified`: the location has a label at `scope`. -/
def scopeSpecified (loc : NodeLocation) (scope : NodeLocationScope) : Bool :=
  if scope = NODE ∨ scope = ROOT then false
  else decide (scopeToIndex scope < loc.num_specified_)

/-- `NodeLocation::getDomain`: the labels of `scope` and of every larger scope, joined by `.`,
padded with empty labels to `NUM_SCOPES` of them, and at `NODE` with a node index the node. -/
def getDomain (loc : NodeLocation) (scope : NodeLocationScope)
    (node_idx : Option NodeIndex) : String :=
  if loc.isEmpty && node_idx.isNone then ""
  else
    let effective_scopes := effectiveScopes scope
    let result := ".".intercalate (loc.labels_.toList.take effective_scopes)
    -- complete the domain name by adding empty scope labels at the end
    let result := result.pushn '.' (NUM_SCOPES - max effective_scopes 1)
    match scope, node_idx with
    | NODE, some idx => result ++ ":N" ++ toString idx
    | _, _ => result

end NodeLocation

/-- A replication property (`class ReplicationProperty`): a replication factor per scope, `0`
where none is given. -/
structure ReplicationProperty where
  replication_ : NodeLocationScope → Nat

namespace ReplicationProperty

/-- `ReplicationProperty::getReplication`. -/
def getReplication (rep : ReplicationProperty) (scope : NodeLocationScope) : Nat :=
  rep.replication_ scope

/-- `ReplicationProperty()`: no factor at any scope. -/
def empty : ReplicationProperty := ⟨fun _ => 0⟩

/-- `ReplicationProperty::setReplication` (its checks that the scope is below `ROOT` and the
factor positive are debug-only). -/
def setReplication (rep : ReplicationProperty) (scope : NodeLocationScope) (replication : Nat) :
    ReplicationProperty :=
  ⟨Function.update rep.replication_ scope replication⟩

@[simp] lemma getReplication_empty (scope : NodeLocationScope) :
    empty.getReplication scope = 0 := rfl

lemma getReplication_setReplication (rep : ReplicationProperty) (scope scope' : NodeLocationScope)
    (replication : Nat) :
    (rep.setReplication scope replication).getReplication scope' =
      if scope' = scope then replication else rep.getReplication scope' :=
  Function.update_apply _ _ _ _

/-- The loop of `ReplicationProperty::isValid` from a running factor `cur` (`none` for its start
at `SIZE_MAX`): the factors given, from the smallest scope up, never grow. -/
def isValidFrom (rep : ReplicationProperty) : Option Nat → List NodeLocationScope → Bool
  | cur, [] => cur.isSome
  | cur, scope :: scopes =>
    let r := rep.getReplication scope
    if r = 0 then rep.isValidFrom cur scopes
    else if cur.any (· < r) then false
    else rep.isValidFrom (some r) scopes

/-- `ReplicationProperty::isValid`: some factor is given, and they never grow with the scope. -/
def isValid (rep : ReplicationProperty) : Bool :=
  rep.isValidFrom none replicationScopes

lemma exists_of_isValidFrom {rep : ReplicationProperty} :
    ∀ {cur : Option Nat} {scopes : List NodeLocationScope}, rep.isValidFrom cur scopes = true →
      cur.isSome ∨ ∃ scope ∈ scopes, rep.getReplication scope ≠ 0
  | cur, [], h => .inl h
  | cur, scope :: scopes, h => by
    simp only [isValidFrom] at h
    split_ifs at h with h0 hlt
    · rcases exists_of_isValidFrom h with hcur | ⟨s, hs, hr⟩
      · exact .inl hcur
      · exact .inr ⟨s, List.mem_cons_of_mem _ hs, hr⟩
    · exact .inr ⟨scope, List.mem_cons_self, h0⟩

/-- A valid replication property gives a factor at some scope. -/
lemma exists_of_isValid {rep : ReplicationProperty} (h : rep.isValid = true) :
    ∃ scope ∈ replicationScopes, rep.getReplication scope ≠ 0 := by
  rcases exists_of_isValidFrom h with h | h
  · cases h
  · exact h

end ReplicationProperty

/-- What the configuration says of a node's service (`NodeServiceDiscovery`): its location. -/
structure NodeServiceDiscovery where
  location : Option NodeLocation
  deriving DecidableEq

/-- The nodes configuration (`configuration::nodes::NodesConfiguration`): the nodes' service
discovery and the storage membership. -/
structure NodesConfiguration where
  service_discovery : Finmap (fun _ : NodeIndex => NodeServiceDiscovery)
  storage_membership : Membership.StorageMembership

namespace NodesConfiguration

/-- `NodesConfiguration::getNodeServiceDiscovery`. -/
def getNodeServiceDiscovery (nc : NodesConfiguration) (node : NodeIndex) :
    Option NodeServiceDiscovery :=
  nc.service_discovery.lookup node

/-- `NodesConfiguration::getStorageMembership`. -/
def getStorageMembership (nc : NodesConfiguration) : Membership.StorageMembership :=
  nc.storage_membership

end NodesConfiguration

end LogDevice.Configuration
