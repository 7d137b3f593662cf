import LogDevice.Configuration.Location
import LogDevice.Lib.AList

/-!
# Failure-domain node sets

Model of `FailureDomainNodeSet<AttrType>` (`common/FailureDomainNodeSet{.h,-inl.h}`): the shards
of a storage set, each with an authoritative status and an optional attribute, grouped into
failure domains at every scope the replication property names and at an implicit `SHARD` scope
where every shard is its own domain. For each scope the structure keeps, per domain, the number
of shards, of `AUTHORITATIVE_EMPTY` shards and of shards per attribute (all of them and the fully
authoritative ones), and over the domains the number of empty ones, of complete ones per
attribute (`n_full`) and the domains holding each attribute (`replicate_set`). All of them are
moved by one at a time in `addShard`, `setShardAttribute`, `setShardAuthoritativeStatus` and
`resetAttributeCounters`; `isFmajority`, `isCompleteSet`, `canReplicate` and `countShards` read
them.

The hash maps of the source are unordered. Those the code iterates over are `AList`s here, and
every such iteration adds up counts or updates each key on its own, so no result depends on the
order; those it only looks up are `Finmap`s. A `FailureDomainState*` in `shard_map` and in
`replicate_set` is modelled by the name of its domain, and the domain of a shard at the `SHARD`
scope, the string `shard.toString()` in the source, by the `ShardID` itself (`toString` is one to
one). The `size_t` counters are natural numbers: the code only decrements a counter it has
checked to be positive, and the one `size_t` subtraction that can wrap, `replication - 1` in
`isFmajority` at a factor of 0, is written out where it stands. `isFmajority`, `isCompleteSet`
and `canReplicate` are templates over `AttrPred`; an attribute value instead of a predicate
selects the other overloads of `countCompleteDomains` and `canReplicateAtScope`, which read
`n_full` and `replicate_set` (`AttrPred.value`). The debug-only `checkConsistency` is left out.
-/

namespace LogDevice.FailureDomain

open LogDevice.Configuration LogDevice.Lib

set_option linter.unusedSectionVars false

/-- The answer of `isFmajority` (`enum class FmajorityResult`). -/
inductive FmajorityResult where
  | NONE
  | AUTHORITATIVE_COMPLETE
  | AUTHORITATIVE_INCOMPLETE
  | NON_AUTHORITATIVE
  deriving DecidableEq, Repr, Inhabited

/-- `FailureDomainNodeSet::isFully`: the shard's data is complete, whether or not it is up. -/
def isFully (st : AuthoritativeStatus) : Bool :=
  st == .FULLY_AUTHORITATIVE || st == .UNAVAILABLE

/-- What `isFmajority`, `isCompleteSet` and `canReplicate` are asked about: a predicate over
attributes (`attr_pred_t`), or one attribute value (an `AttrType`, which selects the overloads
that read the aggregated counters). -/
inductive AttrPred (α : Type) where
  | pred (p : α → Bool)
  | value (a : α)

section Counters

variable {κ : Type} [DecidableEq κ]

/-- `++m[k]` on a map of counters. -/
def incr (m : AList (fun _ : κ => Nat)) (k : κ) : AList (fun _ : κ => Nat) :=
  m.insert k ((m.lookup k).getD 0 + 1)

/-- `if (--m[k] == 0) m.erase(k)` on a map of counters. -/
def decrErase (m : AList (fun _ : κ => Nat)) (k : κ) : AList (fun _ : κ => Nat) :=
  let c := (m.lookup k).getD 0 - 1
  if c = 0 then m.erase k else m.insert k c

@[simp] lemma getD_lookup_incr (m : AList (fun _ : κ => Nat)) (k k' : κ) :
    ((incr m k).lookup k').getD 0 = (m.lookup k').getD 0 + if k' = k then 1 else 0 := by
  unfold incr
  rw [AList.getD_lookup_insert]
  split_ifs with h
  · rw [h]
  · rfl

@[simp] lemma getD_lookup_decrErase (m : AList (fun _ : κ => Nat)) (k k' : κ) :
    ((decrErase m k).lookup k').getD 0 = (m.lookup k').getD 0 - if k' = k then 1 else 0 := by
  unfold decrErase
  dsimp only
  by_cases h : k' = k
  · subst h
    rw [if_pos rfl]
    split_ifs with hc
    · rw [AList.lookup_erase, Option.getD_none]
      omega
    · rw [AList.getD_lookup_insert, if_pos rfl]
  · rw [if_neg h, Nat.sub_zero]
    split_ifs
    · rw [AList.lookup_erase_ne h]
    · rw [AList.getD_lookup_insert, if_neg h]

end Counters

/-- The shards of a domain with one attribute (`FailureDomainNodeSet::Count`): all of them, and
those that are fully authoritative. -/
structure Count where
  all : Nat := 0
  full_only : Nat := 0
  deriving DecidableEq, Repr

/-- A failure domain (`FailureDomainNodeSet::FailureDomainState`). -/
structure FailureDomainState (α : Type) where
  n_shards : Nat := 0
  n_empty : Nat := 0
  shards_attr : AList (fun _ : α => Count) := ∅

/-- The domains at one scope (`FailureDomainNodeSet::ScopeState`), named by `δ`. -/
structure ScopeState (α δ : Type) where
  domains : AList (fun _ : δ => FailureDomainState α) := ∅
  shard_map : Finmap (fun _ : ShardID => δ) := ∅
  replication : Nat := 0
  n_empty : Nat := 0
  n_full : AList (fun _ : α => Nat) := ∅
  replicate_set : AList (fun _ : α => List δ) := ∅

/-- `class FailureDomainNodeSet<AttrType>`. -/
structure FailureDomainNodeSet (α : Type) where
  scopes_ : AList (fun _ : NodeLocationScope => ScopeState α String) := ∅
  shard_scope_ : ScopeState α ShardID := {}
  shard_attribute_ : Finmap (fun _ : ShardID => α) := ∅
  shard_authoritative_ : Finmap (fun _ : ShardID => AuthoritativeStatus) := ∅
  authoritative_count_ : AuthoritativeStatus → Nat := fun _ => 0
  attribute_count_ : AList (fun _ : α => Nat) := ∅

variable {α δ : Type} [DecidableEq α] [DecidableEq δ]

namespace FailureDomainState

/-- `fd.shards_attr[attr]`, read. -/
def count (fd : FailureDomainState α) (attr : α) : Count :=
  (fd.shards_attr.lookup attr).getD {}

/-- `fd.shards_attr[attr] = c`. -/
def setCount (fd : FailureDomainState α) (attr : α) (c : Count) : FailureDomainState α :=
  { fd with shards_attr := fd.shards_attr.insert attr c }

variable {fd : FailureDomainState α}

@[simp] lemma setCount_n_shards (a : α) (c : Count) : (fd.setCount a c).n_shards = fd.n_shards :=
  rfl

@[simp] lemma setCount_n_empty (a : α) (c : Count) : (fd.setCount a c).n_empty = fd.n_empty :=
  rfl

lemma count_setCount (a a' : α) (c : Count) :
    (fd.setCount a c).count a' = if a' = a then c else fd.count a' :=
  AList.getD_lookup_insert a a' c {}

lemma count_erase (a a' : α) :
    ({ fd with shards_attr := fd.shards_attr.erase a } : FailureDomainState α).count a' =
      if a' = a then {} else fd.count a' := by
  unfold count
  split_ifs with h
  · rw [h, AList.lookup_erase, Option.getD_none]
  · rw [AList.lookup_erase_ne h]

end FailureDomainState

/-- `FailureDomainNodeSet::domainIsComplete`: every shard of the domain that is not empty is
fully authoritative with the attribute, and there is one. -/
def domainIsComplete (fd : FailureDomainState α) (attr : α) : Bool :=
  (fd.count attr).full_only > 0 && fd.n_shards == (fd.count attr).full_only + fd.n_empty

namespace ScopeState

variable {scope : ScopeState α δ} {x : ShardID} {a : α} {s prev status : AuthoritativeStatus}
  {d₀ : δ}

/-- `scope.domains[d]`, read. -/
def domain (scope : ScopeState α δ) (d : δ) : FailureDomainState α :=
  (scope.domains.lookup d).getD {}

/-- The body of `addShard`'s loop at one scope: the shard joins the domain `domain_name`. -/
def addShardToScope (state : ScopeState α δ) (shard : ShardID) (domain_name : δ) :
    ScopeState α δ :=
  let fd := state.domain domain_name
  { state with
    domains := state.domains.insert domain_name { fd with n_shards := fd.n_shards + 1 }
    shard_map := state.shard_map.insert shard domain_name }

@[simp] lemma addShardToScope_shard_map (d : δ) :
    (scope.addShardToScope x d).shard_map = scope.shard_map.insert x d := rfl

@[simp] lemma addShardToScope_n_empty (d : δ) : (scope.addShardToScope x d).n_empty = scope.n_empty :=
  rfl

@[simp] lemma addShardToScope_replication (d : δ) :
    (scope.addShardToScope x d).replication = scope.replication := rfl

@[simp] lemma addShardToScope_n_full (d : δ) : (scope.addShardToScope x d).n_full = scope.n_full :=
  rfl

@[simp] lemma addShardToScope_replicate_set (d : δ) :
    (scope.addShardToScope x d).replicate_set = scope.replicate_set := rfl

lemma addShardToScope_domain (d d' : δ) :
    (scope.addShardToScope x d).domain d' =
      if d' = d then { scope.domain d with n_shards := (scope.domain d).n_shards + 1 }
      else scope.domain d' := by
  unfold addShardToScope domain
  exact AList.getD_lookup_insert d d' _ _

lemma addShardToScope_keys (d : δ) :
    (scope.addShardToScope x d).domains.keys.toFinset = insert d scope.domains.keys.toFinset :=
  AList.keys_toFinset_insert d _

/-- The body of `addAttr` at one scope: the shard, of status `status`, takes the attribute
`attr`. -/
def addAttrAtScope (scope : ScopeState α δ) (shard : ShardID) (attr : α)
    (status : AuthoritativeStatus) : ScopeState α δ :=
  match scope.shard_map.lookup shard with
  | none => scope
  | some d =>
    let fd := scope.domain d
    let attr_count := fd.count attr
    let all := attr_count.all + 1
    -- the first shard of the domain with the attribute puts the domain in `replicate_set`
    let replicate_set :=
      if all = 1 then
        scope.replicate_set.insert attr (((scope.replicate_set.lookup attr).getD []).insert d)
      else scope.replicate_set
    if isFully status then
      let fd := fd.setCount attr { all := all, full_only := attr_count.full_only + 1 }
      { scope with
        domains := scope.domains.insert d fd
        replicate_set := replicate_set
        n_full := if domainIsComplete fd attr then incr scope.n_full attr else scope.n_full }
    else
      { scope with
        domains := scope.domains.insert d (fd.setCount attr { attr_count with all := all })
        replicate_set := replicate_set }

lemma addAttrAtScope_of_lookup_eq_none (h : scope.shard_map.lookup x = none) :
    scope.addAttrAtScope x a s = scope := by
  simp [addAttrAtScope, h]

@[simp] lemma addAttrAtScope_shard_map : (scope.addAttrAtScope x a s).shard_map = scope.shard_map := by
  unfold addAttrAtScope
  split <;> (try split) <;> rfl

@[simp] lemma addAttrAtScope_replication :
    (scope.addAttrAtScope x a s).replication = scope.replication := by
  unfold addAttrAtScope
  split <;> (try split) <;> rfl

@[simp] lemma addAttrAtScope_n_empty : (scope.addAttrAtScope x a s).n_empty = scope.n_empty := by
  unfold addAttrAtScope
  split <;> (try split) <;> rfl

/-- The shard's domain counts one more shard with the attribute. -/
lemma addAttrAtScope_domain (h : scope.shard_map.lookup x = some d₀) (d : δ) :
    (scope.addAttrAtScope x a s).domain d =
      if d = d₀ then
        (scope.domain d₀).setCount a
          { all := ((scope.domain d₀).count a).all + 1
            full_only := ((scope.domain d₀).count a).full_only + if isFully s then 1 else 0 }
      else scope.domain d := by
  unfold addAttrAtScope
  rw [h]
  dsimp only
  cases isFully s <;> simp [domain, AList.getD_lookup_insert]

@[simp] lemma addAttrAtScope_domain_n_shards (d : δ) :
    ((scope.addAttrAtScope x a s).domain d).n_shards = (scope.domain d).n_shards := by
  cases h : scope.shard_map.lookup x with
  | none => rw [addAttrAtScope_of_lookup_eq_none h]
  | some d₀ =>
    rw [addAttrAtScope_domain h]
    by_cases hd : d = d₀
    · rw [if_pos hd, hd, FailureDomainState.setCount_n_shards]
    · rw [if_neg hd]

@[simp] lemma addAttrAtScope_domain_n_empty (d : δ) :
    ((scope.addAttrAtScope x a s).domain d).n_empty = (scope.domain d).n_empty := by
  cases h : scope.shard_map.lookup x with
  | none => rw [addAttrAtScope_of_lookup_eq_none h]
  | some d₀ =>
    rw [addAttrAtScope_domain h]
    by_cases hd : d = d₀
    · rw [if_pos hd, hd, FailureDomainState.setCount_n_empty]
    · rw [if_neg hd]

lemma addAttrAtScope_domain_count (h : scope.shard_map.lookup x = some d₀) (d : δ) (a' : α) :
    ((scope.addAttrAtScope x a s).domain d).count a' =
      if d = d₀ ∧ a' = a then
        { all := ((scope.domain d₀).count a).all + 1
          full_only := ((scope.domain d₀).count a).full_only + if isFully s then 1 else 0 }
      else (scope.domain d).count a' := by
  rw [addAttrAtScope_domain h]
  by_cases hd : d = d₀
  · subst hd
    rw [if_pos rfl, FailureDomainState.count_setCount]
    by_cases ha : a' = a <;> simp [ha]
  · simp [hd]

lemma addAttrAtScope_keys (h : scope.shard_map.lookup x = some d₀) :
    (scope.addAttrAtScope x a s).domains.keys.toFinset = insert d₀ scope.domains.keys.toFinset := by
  unfold addAttrAtScope
  rw [h]
  dsimp only
  split <;> exact AList.keys_toFinset_insert _ _

/-- `n_full` counts the shard's domain once more when a fully authoritative shard makes it
complete. -/
lemma addAttrAtScope_n_full (h : scope.shard_map.lookup x = some d₀) :
    (scope.addAttrAtScope x a s).n_full =
      if isFully s && domainIsComplete ((scope.addAttrAtScope x a s).domain d₀) a then
        incr scope.n_full a
      else scope.n_full := by
  rw [addAttrAtScope_domain h, if_pos rfl]
  unfold addAttrAtScope
  rw [h]
  dsimp only
  cases isFully s <;> rfl

/-- The shard's domain joins the domains of the attribute when it is its first shard with it. -/
lemma addAttrAtScope_replicate_set (h : scope.shard_map.lookup x = some d₀) :
    (scope.addAttrAtScope x a s).replicate_set =
      if ((scope.domain d₀).count a).all = 0 then
        scope.replicate_set.insert a (((scope.replicate_set.lookup a).getD []).insert d₀)
      else scope.replicate_set := by
  unfold addAttrAtScope
  rw [h]
  dsimp only
  cases isFully s <;> simp only [Nat.add_eq_right] <;> rfl

/-- The body of `removeAttr` at one scope: the shard, of status `status`, loses the attribute
`attr`. -/
def removeAttrAtScope (scope : ScopeState α δ) (shard : ShardID) (attr : α)
    (status : AuthoritativeStatus) : ScopeState α δ :=
  match scope.shard_map.lookup shard with
  | none => scope
  | some d =>
    let fd := scope.domain d
    let attr_count := fd.count attr
    -- a complete domain stops being complete when a fully authoritative shard leaves
    let n_full :=
      if isFully status && domainIsComplete fd attr then decrErase scope.n_full attr
      else scope.n_full
    let full_only :=
      if isFully status then attr_count.full_only - 1 else attr_count.full_only
    let all := attr_count.all - 1
    if all = 0 then
      let replicate_set := ((scope.replicate_set.lookup attr).getD []).erase d
      { scope with
        n_full := n_full
        replicate_set :=
          if replicate_set.isEmpty then scope.replicate_set.erase attr
          else scope.replicate_set.insert attr replicate_set
        domains := scope.domains.insert d { fd with shards_attr := fd.shards_attr.erase attr } }
    else
      { scope with
        n_full := n_full
        domains := scope.domains.insert d (fd.setCount attr { all := all, full_only := full_only }) }

lemma removeAttrAtScope_of_lookup_eq_none (h : scope.shard_map.lookup x = none) :
    scope.removeAttrAtScope x a s = scope := by
  simp [removeAttrAtScope, h]

@[simp] lemma removeAttrAtScope_shard_map :
    (scope.removeAttrAtScope x a s).shard_map = scope.shard_map := by
  unfold removeAttrAtScope
  split
  · rfl
  · dsimp only
    split <;> rfl

@[simp] lemma removeAttrAtScope_replication :
    (scope.removeAttrAtScope x a s).replication = scope.replication := by
  unfold removeAttrAtScope
  split
  · rfl
  · dsimp only
    split <;> rfl

@[simp] lemma removeAttrAtScope_n_empty :
    (scope.removeAttrAtScope x a s).n_empty = scope.n_empty := by
  unfold removeAttrAtScope
  split
  · rfl
  · dsimp only
    split <;> rfl

/-- The shard's domain counts one shard less with the attribute, and forgets the attribute when
none is left. -/
lemma removeAttrAtScope_domain (h : scope.shard_map.lookup x = some d₀) (d : δ) :
    (scope.removeAttrAtScope x a s).domain d =
      if d = d₀ then
        if ((scope.domain d₀).count a).all - 1 = 0 then
          { scope.domain d₀ with shards_attr := (scope.domain d₀).shards_attr.erase a }
        else
          (scope.domain d₀).setCount a
            { all := ((scope.domain d₀).count a).all - 1
              full_only := ((scope.domain d₀).count a).full_only - if isFully s then 1 else 0 }
      else scope.domain d := by
  unfold removeAttrAtScope
  rw [h]
  dsimp only
  split <;> cases isFully s <;> simp [domain, AList.getD_lookup_insert, *]

@[simp] lemma removeAttrAtScope_domain_n_shards (d : δ) :
    ((scope.removeAttrAtScope x a s).domain d).n_shards = (scope.domain d).n_shards := by
  cases h : scope.shard_map.lookup x with
  | none => rw [removeAttrAtScope_of_lookup_eq_none h]
  | some d₀ =>
    rw [removeAttrAtScope_domain h]
    split_ifs with hd <;> simp [hd]

@[simp] lemma removeAttrAtScope_domain_n_empty (d : δ) :
    ((scope.removeAttrAtScope x a s).domain d).n_empty = (scope.domain d).n_empty := by
  cases h : scope.shard_map.lookup x with
  | none => rw [removeAttrAtScope_of_lookup_eq_none h]
  | some d₀ =>
    rw [removeAttrAtScope_domain h]
    split_ifs with hd <;> simp [hd]

lemma removeAttrAtScope_domain_count (h : scope.shard_map.lookup x = some d₀) (d : δ) (a' : α) :
    ((scope.removeAttrAtScope x a s).domain d).count a' =
      if d = d₀ ∧ a' = a then
        if ((scope.domain d₀).count a).all - 1 = 0 then {}
        else
          { all := ((scope.domain d₀).count a).all - 1
            full_only := ((scope.domain d₀).count a).full_only - if isFully s then 1 else 0 }
      else (scope.domain d).count a' := by
  rw [removeAttrAtScope_domain h]
  by_cases hd : d = d₀
  · subst hd
    rw [if_pos rfl]
    split_ifs <;>
      simp_all [FailureDomainState.count_erase, FailureDomainState.count_setCount]
  · simp [hd]

lemma removeAttrAtScope_keys (h : scope.shard_map.lookup x = some d₀) :
    (scope.removeAttrAtScope x a s).domains.keys.toFinset =
      insert d₀ scope.domains.keys.toFinset := by
  unfold removeAttrAtScope
  rw [h]
  dsimp only
  split <;> exact AList.keys_toFinset_insert _ _

/-- A fully authoritative shard leaving a complete domain makes `n_full` count it once less. -/
lemma removeAttrAtScope_n_full (h : scope.shard_map.lookup x = some d₀) :
    (scope.removeAttrAtScope x a s).n_full =
      if isFully s && domainIsComplete (scope.domain d₀) a then decrErase scope.n_full a
      else scope.n_full := by
  unfold removeAttrAtScope
  rw [h]
  dsimp only
  split <;> rfl

/-- The last shard of the domain with the attribute takes the domain out of the attribute's
domains, and the attribute out of the map when no domain is left. -/
lemma removeAttrAtScope_replicate_set (h : scope.shard_map.lookup x = some d₀) :
    (scope.removeAttrAtScope x a s).replicate_set =
      if ((scope.domain d₀).count a).all - 1 = 0 then
        if (((scope.replicate_set.lookup a).getD []).erase d₀).isEmpty then
          scope.replicate_set.erase a
        else scope.replicate_set.insert a (((scope.replicate_set.lookup a).getD []).erase d₀)
      else scope.replicate_set := by
  unfold removeAttrAtScope
  rw [h]
  dsimp only
  split <;> rfl

/-- The first loop of `setShardAuthoritativeStatusAtScope`: which attributes the domain is
complete for before the change. -/
def wasComplete (fd : FailureDomainState α) : AList (fun _ : α => Bool) :=
  fd.shards_attr.entries.foldl (fun was_complete it_attr =>
    was_complete.insert it_attr.1 (domainIsComplete fd it_attr.1)) ∅

/-- The domain's counters of empty shards after the shard goes from `prev` to `status`, with the
scope's count of empty domains. -/
def setEmptyAtScope (scope : ScopeState α δ) (fd : FailureDomainState α)
    (prev status : AuthoritativeStatus) : FailureDomainState α × Nat :=
  if status = .AUTHORITATIVE_EMPTY then
    let fd := { fd with n_empty := fd.n_empty + 1 }
    -- all shards are now empty, the whole domain is empty
    (fd, if fd.n_empty = fd.n_shards then scope.n_empty + 1 else scope.n_empty)
  else if prev = .AUTHORITATIVE_EMPTY then
    let fd := { fd with n_empty := fd.n_empty - 1 }
    -- the whole domain is now not empty
    (fd, if fd.n_empty = fd.n_shards - 1 then scope.n_empty - 1 else scope.n_empty)
  else (fd, scope.n_empty)

@[simp] lemma setEmptyAtScope_n_shards (fd : FailureDomainState α) :
    (scope.setEmptyAtScope fd prev status).1.n_shards = fd.n_shards := by
  unfold setEmptyAtScope
  split_ifs <;> rfl

@[simp] lemma setEmptyAtScope_shards_attr (fd : FailureDomainState α) :
    (scope.setEmptyAtScope fd prev status).1.shards_attr = fd.shards_attr := by
  unfold setEmptyAtScope
  split_ifs <;> rfl

lemma setEmptyAtScope_n_empty (fd : FailureDomainState α) :
    (scope.setEmptyAtScope fd prev status).1.n_empty =
      if status = .AUTHORITATIVE_EMPTY then fd.n_empty + 1
      else if prev = .AUTHORITATIVE_EMPTY then fd.n_empty - 1
      else fd.n_empty := by
  unfold setEmptyAtScope
  split_ifs <;> rfl

/-- `full_only` of the shard's attribute after the shard goes from `prev` to `status`. -/
def setFullAtScope (fd : FailureDomainState α) (prev status : AuthoritativeStatus)
    (attr : Option α) : FailureDomainState α :=
  match attr with
  | none => fd
  | some a =>
    if isFully prev && !isFully status then
      fd.setCount a { fd.count a with full_only := (fd.count a).full_only - 1 }
    else if !isFully prev && isFully status then
      fd.setCount a { fd.count a with full_only := (fd.count a).full_only + 1 }
    else fd

@[simp] lemma setFullAtScope_n_shards (fd : FailureDomainState α) (attr : Option α) :
    (setFullAtScope fd prev status attr).n_shards = fd.n_shards := by
  unfold setFullAtScope
  split <;> (try split_ifs) <;> rfl

@[simp] lemma setFullAtScope_n_empty (fd : FailureDomainState α) (attr : Option α) :
    (setFullAtScope fd prev status attr).n_empty = fd.n_empty := by
  unfold setFullAtScope
  split <;> (try split_ifs) <;> rfl

/-- The new status keeps every attribute the domain counts. -/
lemma mem_setFullAtScope {fd : FailureDomainState α} {a' : α} (h : a' ∈ fd.shards_attr)
    (attr : Option α) : a' ∈ (setFullAtScope fd prev status attr).shards_attr := by
  unfold setFullAtScope
  split
  · exact h
  · split_ifs <;> simp [FailureDomainState.setCount, AList.mem_insert, h]

/-- The shard's attribute counts it as fully authoritative as its new status says. -/
lemma count_setFullAtScope (fd : FailureDomainState α) (attr : Option α) (a' : α) :
    (setFullAtScope fd prev status attr).count a' =
      if attr = some a' then
        { fd.count a' with
          full_only := (fd.count a').full_only + (if isFully status then 1 else 0) -
            (if isFully prev then 1 else 0) }
      else fd.count a' := by
  unfold setFullAtScope
  cases attr with
  | none => simp
  | some a =>
    by_cases ha : a = a'
    · subst ha
      cases isFully prev <;> cases isFully status <;> simp [FailureDomainState.count_setCount]
    · have ha' : a' ≠ a := fun h => ha h.symm
      cases isFully prev <;> cases isFully status <;>
        simp [FailureDomainState.count_setCount, ha, ha']

/-- The second loop of `setShardAuthoritativeStatusAtScope`: `n_full` follows every attribute
for which the domain became complete or stopped being complete. -/
def updateFull (n_full : AList (fun _ : α => Nat)) (was_complete : AList (fun _ : α => Bool))
    (fd : FailureDomainState α) : AList (fun _ : α => Nat) :=
  fd.shards_attr.entries.foldl (fun n_full it_attr =>
    let a := it_attr.1
    let is_complete := domainIsComplete fd a
    let was := (was_complete.lookup a).getD false
    if was && !is_complete then decrErase n_full a
    else if !was && is_complete then incr n_full a
    else n_full) n_full

/-- `FailureDomainNodeSet::setShardAuthoritativeStatusAtScope`. -/
def setShardAuthoritativeStatusAtScope (scope : ScopeState α δ) (shard : ShardID)
    (prev status : AuthoritativeStatus) (attr : Option α) : ScopeState α δ :=
  match scope.shard_map.lookup shard with
  | none => scope
  | some d =>
    let fd := scope.domain d
    let was_complete := wasComplete fd
    let (fd, n_empty) := scope.setEmptyAtScope fd prev status
    let fd := setFullAtScope fd prev status attr
    { scope with
      domains := scope.domains.insert d fd
      n_empty := n_empty
      n_full := updateFull scope.n_full was_complete fd }

lemma setShardAuthoritativeStatusAtScope_of_lookup_eq_none (attr : Option α)
    (h : scope.shard_map.lookup x = none) :
    scope.setShardAuthoritativeStatusAtScope x prev status attr = scope := by
  simp [setShardAuthoritativeStatusAtScope, h]

@[simp] lemma setShardAuthoritativeStatusAtScope_shard_map (attr : Option α) :
    (scope.setShardAuthoritativeStatusAtScope x prev status attr).shard_map = scope.shard_map := by
  unfold setShardAuthoritativeStatusAtScope
  split <;> rfl

@[simp] lemma setShardAuthoritativeStatusAtScope_replication (attr : Option α) :
    (scope.setShardAuthoritativeStatusAtScope x prev status attr).replication =
      scope.replication := by
  unfold setShardAuthoritativeStatusAtScope
  split <;> rfl

lemma setShardAuthoritativeStatusAtScope_domain (attr : Option α)
    (h : scope.shard_map.lookup x = some d₀) (d : δ) :
    (scope.setShardAuthoritativeStatusAtScope x prev status attr).domain d =
      if d = d₀ then
        setFullAtScope (scope.setEmptyAtScope (scope.domain d₀) prev status).1 prev status attr
      else scope.domain d := by
  unfold setShardAuthoritativeStatusAtScope
  rw [h]
  simp [domain, AList.getD_lookup_insert]

@[simp] lemma setShardAuthoritativeStatusAtScope_domain_n_shards (attr : Option α) (d : δ) :
    ((scope.setShardAuthoritativeStatusAtScope x prev status attr).domain d).n_shards =
      (scope.domain d).n_shards := by
  cases h : scope.shard_map.lookup x with
  | none => rw [setShardAuthoritativeStatusAtScope_of_lookup_eq_none attr h]
  | some d₀ =>
    rw [setShardAuthoritativeStatusAtScope_domain attr h]
    split_ifs with hd <;> simp [hd]

lemma setShardAuthoritativeStatusAtScope_domain_n_empty (attr : Option α)
    (h : scope.shard_map.lookup x = some d₀) (d : δ) :
    ((scope.setShardAuthoritativeStatusAtScope x prev status attr).domain d).n_empty =
      if d = d₀ then
        if status = .AUTHORITATIVE_EMPTY then (scope.domain d₀).n_empty + 1
        else if prev = .AUTHORITATIVE_EMPTY then (scope.domain d₀).n_empty - 1
        else (scope.domain d₀).n_empty
      else (scope.domain d).n_empty := by
  rw [setShardAuthoritativeStatusAtScope_domain attr h]
  split_ifs with hd <;> simp [setEmptyAtScope_n_empty, *]

lemma setShardAuthoritativeStatusAtScope_domain_count (attr : Option α)
    (h : scope.shard_map.lookup x = some d₀) (d : δ) (a' : α) :
    ((scope.setShardAuthoritativeStatusAtScope x prev status attr).domain d).count a' =
      if d = d₀ ∧ attr = some a' then
        { (scope.domain d₀).count a' with
          full_only := ((scope.domain d₀).count a').full_only + (if isFully status then 1 else 0) -
            (if isFully prev then 1 else 0) }
      else (scope.domain d).count a' := by
  rw [setShardAuthoritativeStatusAtScope_domain attr h]
  by_cases hd : d = d₀
  · subst hd
    rw [if_pos rfl, count_setFullAtScope]
    simp [FailureDomainState.count]
  · simp [hd]

lemma setShardAuthoritativeStatusAtScope_n_empty (attr : Option α)
    (h : scope.shard_map.lookup x = some d₀) :
    (scope.setShardAuthoritativeStatusAtScope x prev status attr).n_empty =
      (scope.setEmptyAtScope (scope.domain d₀) prev status).2 := by
  unfold setShardAuthoritativeStatusAtScope
  rw [h]

lemma setShardAuthoritativeStatusAtScope_keys (attr : Option α)
    (h : scope.shard_map.lookup x = some d₀) :
    (scope.setShardAuthoritativeStatusAtScope x prev status attr).domains.keys.toFinset =
      insert d₀ scope.domains.keys.toFinset := by
  unfold setShardAuthoritativeStatusAtScope
  rw [h]
  exact AList.keys_toFinset_insert _ _

@[simp] lemma setShardAuthoritativeStatusAtScope_replicate_set (attr : Option α) :
    (scope.setShardAuthoritativeStatusAtScope x prev status attr).replicate_set =
      scope.replicate_set := by
  unfold setShardAuthoritativeStatusAtScope
  split <;> rfl

lemma setShardAuthoritativeStatusAtScope_n_full (attr : Option α)
    (h : scope.shard_map.lookup x = some d₀) :
    (scope.setShardAuthoritativeStatusAtScope x prev status attr).n_full =
      updateFull scope.n_full (wasComplete (scope.domain d₀))
        (setFullAtScope (scope.setEmptyAtScope (scope.domain d₀) prev status).1 prev status attr) := by
  unfold setShardAuthoritativeStatusAtScope
  rw [h]

/-- The body of `resetAttributeCounters` at one scope. -/
def resetAttributeCountersAtScope (scope : ScopeState α δ) : ScopeState α δ :=
  { scope with
    n_full := ∅
    replicate_set := ∅
    domains := scope.domains.mapVal fun _ fd => { fd with shards_attr := ∅ } }

@[simp] lemma resetAttributeCountersAtScope_shard_map :
    scope.resetAttributeCountersAtScope.shard_map = scope.shard_map := rfl

@[simp] lemma resetAttributeCountersAtScope_replication :
    scope.resetAttributeCountersAtScope.replication = scope.replication := rfl

@[simp] lemma resetAttributeCountersAtScope_n_empty :
    scope.resetAttributeCountersAtScope.n_empty = scope.n_empty := rfl

@[simp] lemma resetAttributeCountersAtScope_n_full :
    scope.resetAttributeCountersAtScope.n_full = ∅ := rfl

@[simp] lemma resetAttributeCountersAtScope_replicate_set :
    scope.resetAttributeCountersAtScope.replicate_set = ∅ := rfl

lemma resetAttributeCountersAtScope_domain (d : δ) :
    scope.resetAttributeCountersAtScope.domain d = { scope.domain d with shards_attr := ∅ } := by
  unfold resetAttributeCountersAtScope domain
  rw [AList.lookup_mapVal]
  cases scope.domains.lookup d <;> rfl

lemma resetAttributeCountersAtScope_keys :
    scope.resetAttributeCountersAtScope.domains.keys = scope.domains.keys :=
  AList.keys_mapVal _

/-- The fully authoritative shards of a domain whose attribute satisfies `pred`: the inner loop of
`countCompleteDomains`. -/
def numFull (pred : α → Bool) (domain : FailureDomainState α) : Nat :=
  domain.shards_attr.entries.foldl (fun num_shards att_kv =>
    if pred att_kv.1 then num_shards + att_kv.2.full_only else num_shards) 0

/-- `FailureDomainNodeSet::countCompleteDomains`: the domains all of whose shards that are not
empty are fully authoritative with an attribute that satisfies the predicate, and that have one;
for an attribute value, the counter `n_full` kept for it. -/
def countCompleteDomains (q : AttrPred α) (scope : ScopeState α δ) : Nat :=
  match q with
  | .pred pred =>
    scope.domains.entries.foldl (fun num_complete_domains domain_kv =>
      let num_shards := numFull pred domain_kv.2
      -- num_shards > 0 is required to ensure the domain is not empty
      if num_shards > 0 && num_shards ≥ domain_kv.2.n_shards - domain_kv.2.n_empty then
        num_complete_domains + 1
      else num_complete_domains) 0
  | .value attr => (scope.n_full.lookup attr).getD 0

/-- The test `isFmajority` applies to one scope: all but `replication - 1` of the domains that are
not empty are complete. -/
def fmajorityAtScope (q : AttrPred α) (scope : ScopeState α δ) : Bool :=
  let n_non_empty := scope.domains.entries.length - scope.n_empty
  let f_majority :=
    -- `replication - 1` is a `size_t`: at a factor of 0 it wraps to `SIZE_MAX`, which no count
    -- of domains reaches, and the threshold is then 0
    if scope.replication ≠ 0 ∧ n_non_empty ≥ scope.replication - 1 then
      n_non_empty - scope.replication + 1
    else 0
  decide (scope.countCompleteDomains q ≥ f_majority)

/-- The merging loop of `canReplicateAtScope`, with its early return: `true` once `replication`
distinct domains are seen. -/
def replicateFrom (replication : Nat) : List δ → List δ → Bool
  | [], _ => false
  | fd :: fds, set =>
    let set := set.insert fd
    if set.length ≥ replication then true else replicateFrom replication fds set

/-- `FailureDomainNodeSet::canReplicateAtScope`: `replication` domains hold a shard whose
attribute satisfies the predicate; for an attribute value, hold a shard with it. -/
def canReplicateAtScope (q : AttrPred α) (scope : ScopeState α δ) : Bool :=
  match q with
  | .pred pred =>
    replicateFrom scope.replication
      ((scope.replicate_set.entries.filter fun kv => pred kv.1).flatMap fun kv => kv.2) []
  | .value attr =>
    match scope.replicate_set.lookup attr with
    | some fds => decide (fds.length ≥ scope.replication)
    | none => false

end ScopeState

/-- The domain of a shard at a scope, as `addShard` names it: the node at `NODE`, else the
location's domain at the scope, and none when the location does not reach the scope. -/
def domainName (nc : NodesConfiguration) (shard : ShardID) (scope : NodeLocationScope) :
    Option String :=
  if scope = .NODE then some (toString shard.node)
  else
    match (nc.getNodeServiceDiscovery shard.node).bind (·.location) with
    | some location =>
      if location.scopeSpecified scope then some (location.getDomain scope none) else none
    | none => none

/-- The constructor's loop over the scopes, from `REGION` down to `NODE`: a scope is kept when its
factor is given and larger than those of the larger scopes. The second component is the largest
factor, `shard_replication`. -/
def initScopes (rep : ReplicationProperty) :
    AList (fun _ : NodeLocationScope => ScopeState α String) × Nat :=
  replicationScopes.reverse.foldl (fun (acc : AList _ × Nat) scope =>
    let replication := rep.getReplication scope
    if replication ≠ 0 ∧ replication > acc.2 then
      (acc.1.insert scope { replication := replication }, replication)
    else acc) (∅, 0)

namespace FailureDomainNodeSet

/-- `FailureDomainNodeSet::forEachScope`: `fn` at the `SHARD` scope and at every other scope. -/
def forEachScope (n : FailureDomainNodeSet α)
    (fn : ∀ {δ : Type} [DecidableEq δ], ScopeState α δ → ScopeState α δ) :
    FailureDomainNodeSet α :=
  { n with
    shard_scope_ := fn n.shard_scope_
    scopes_ := n.scopes_.mapVal fun _ scope => fn scope }

section ForEachScope

variable {n : FailureDomainNodeSet α}
  (fn : ∀ {δ : Type} [DecidableEq δ], ScopeState α δ → ScopeState α δ)

@[simp] lemma forEachScope_shard_scope_ : (n.forEachScope fn).shard_scope_ = fn n.shard_scope_ :=
  rfl

lemma lookup_forEachScope (scope : NodeLocationScope) :
    (n.forEachScope fn).scopes_.lookup scope = (n.scopes_.lookup scope).map fun st => fn st :=
  AList.lookup_mapVal _ _

@[simp] lemma forEachScope_shard_attribute_ :
    (n.forEachScope fn).shard_attribute_ = n.shard_attribute_ := rfl

@[simp] lemma forEachScope_shard_authoritative_ :
    (n.forEachScope fn).shard_authoritative_ = n.shard_authoritative_ := rfl

@[simp] lemma forEachScope_authoritative_count_ :
    (n.forEachScope fn).authoritative_count_ = n.authoritative_count_ := rfl

@[simp] lemma forEachScope_attribute_count_ :
    (n.forEachScope fn).attribute_count_ = n.attribute_count_ := rfl

end ForEachScope

/-- `FailureDomainNodeSet::anyScope`. -/
def anyScope (n : FailureDomainNodeSet α)
    (fn : ∀ {δ : Type} [DecidableEq δ], ScopeState α δ → Bool) : Bool :=
  fn n.shard_scope_ || n.scopes_.entries.any fun it => fn it.2

/-- `FailureDomainNodeSet::allScopes`, with the scope it fails at (`INVALID` for the `SHARD`
scope or when every scope passes). -/
def allScopes (n : FailureDomainNodeSet α)
    (fn : ∀ {δ : Type} [DecidableEq δ], ScopeState α δ → Bool) : Bool × NodeLocationScope :=
  if !fn n.shard_scope_ then (false, .INVALID)
  else
    match n.scopes_.entries.find? fun it => !fn it.2 with
    | some it => (false, it.1)
    | none => (true, .INVALID)

/-- `FailureDomainNodeSet::addShard`: the shard joins its domain at every scope its node's
location reaches, and its own domain at the `SHARD` scope, fully authoritative. -/
def addShard (n : FailureDomainNodeSet α) (shard : ShardID) (nc : NodesConfiguration) :
    FailureDomainNodeSet α :=
  { n with
    scopes_ := n.scopes_.mapVal fun scope state =>
      match domainName nc shard scope with
      | some domain_name => state.addShardToScope shard domain_name
      -- the node has no location at this scope: it is left out of the scope
      | none => state
    shard_scope_ := n.shard_scope_.addShardToScope shard shard
    authoritative_count_ := Function.update n.authoritative_count_ .FULLY_AUTHORITATIVE
      (n.authoritative_count_ .FULLY_AUTHORITATIVE + 1)
    shard_authoritative_ := n.shard_authoritative_.insert shard .FULLY_AUTHORITATIVE }

/-- The `FailureDomainNodeSet` constructor: the scopes with their factors, then every shard of the
storage set that readers must hear from. -/
def create (storage_set : List ShardID) (nodes_configuration : NodesConfiguration)
    (rep : ReplicationProperty) : FailureDomainNodeSet α :=
  let (scopes_, shard_replication) := initScopes rep
  let n : FailureDomainNodeSet α :=
    { scopes_ := scopes_, shard_scope_ := { replication := shard_replication } }
  (nodes_configuration.getStorageMembership.readerView storage_set).foldl
    (fun n shard => n.addShard shard nodes_configuration) n

/-- `FailureDomainNodeSet::addAttr`. -/
def addAttr (n : FailureDomainNodeSet α) (shard : ShardID) (attr : α)
    (status : AuthoritativeStatus) : FailureDomainNodeSet α :=
  n.forEachScope fun scope => scope.addAttrAtScope shard attr status

/-- `FailureDomainNodeSet::removeAttr`. -/
def removeAttr (n : FailureDomainNodeSet α) (shard : ShardID) (attr : α)
    (status : AuthoritativeStatus) : FailureDomainNodeSet α :=
  n.forEachScope fun scope => scope.removeAttrAtScope shard attr status

/-- `FailureDomainNodeSet::setShardAttribute`; a shard outside the storage set is ignored. -/
def setShardAttribute (n : FailureDomainNodeSet α) (shard : ShardID) (attr : α) :
    FailureDomainNodeSet α :=
  match n.shard_authoritative_.lookup shard with
  | none => n
  | some status =>
    match n.shard_attribute_.lookup shard with
    | none =>
      let n := { n with shard_attribute_ := n.shard_attribute_.insert shard attr }
      ({ n with attribute_count_ := incr n.attribute_count_ attr }).addAttr shard attr status
    | some old_attr =>
      -- the shard already has this attribute: nothing to do
      if old_attr = attr then n
      else
        let n := { n with
          attribute_count_ := decrErase n.attribute_count_ old_attr
          shard_attribute_ := n.shard_attribute_.insert shard attr }
        let n := n.removeAttr shard old_attr status
        ({ n with attribute_count_ := incr n.attribute_count_ attr }).addAttr shard attr status

/-- `FailureDomainNodeSet::setShardAuthoritativeStatus`; a shard outside the storage set is
ignored. -/
def setShardAuthoritativeStatus (n : FailureDomainNodeSet α) (shard : ShardID)
    (status : AuthoritativeStatus) : FailureDomainNodeSet α :=
  match n.shard_authoritative_.lookup shard with
  | none => n
  | some prev =>
    if prev = status then n
    else
      let attr := n.shard_attribute_.lookup shard
      let authoritative_count_ :=
        Function.update n.authoritative_count_ prev (n.authoritative_count_ prev - 1)
      let n := { n with
        shard_authoritative_ := n.shard_authoritative_.insert shard status
        authoritative_count_ :=
          Function.update authoritative_count_ status (authoritative_count_ status + 1) }
      n.forEachScope fun scope => scope.setShardAuthoritativeStatusAtScope shard prev status attr

/-- `FailureDomainNodeSet::resetAttributeCounters`: every shard loses its attribute. -/
def resetAttributeCounters (n : FailureDomainNodeSet α) : FailureDomainNodeSet α :=
  let n := n.forEachScope fun scope => scope.resetAttributeCountersAtScope
  { n with shard_attribute_ := ∅, attribute_count_ := ∅ }

/-- `FailureDomainNodeSet::getShardAttribute`. -/
def getShardAttribute (n : FailureDomainNodeSet α) (shard : ShardID) : Option α :=
  n.shard_attribute_.lookup shard

/-- `FailureDomainNodeSet::getShardAuthoritativeStatus`, for a shard of the storage set (the
source asserts it is one). -/
def getShardAuthoritativeStatus (n : FailureDomainNodeSet α) (shard : ShardID) :
    AuthoritativeStatus :=
  (n.shard_authoritative_.lookup shard).getD .FULLY_AUTHORITATIVE

@[simp] lemma getShardAttribute_forEachScope {n : FailureDomainNodeSet α}
    (fn : ∀ {δ : Type} [DecidableEq δ], ScopeState α δ → ScopeState α δ) :
    (n.forEachScope fn).getShardAttribute = n.getShardAttribute := rfl

@[simp] lemma getShardAuthoritativeStatus_forEachScope {n : FailureDomainNodeSet α}
    (fn : ∀ {δ : Type} [DecidableEq δ], ScopeState α δ → ScopeState α δ) :
    (n.forEachScope fn).getShardAuthoritativeStatus = n.getShardAuthoritativeStatus := rfl

/-- `FailureDomainNodeSet::containsShard`. -/
def containsShard (n : FailureDomainNodeSet α) (shard : ShardID) : Bool :=
  decide (shard ∈ n.shard_authoritative_)

/-- `FailureDomainNodeSet::numShards(status)`. -/
def numShards (n : FailureDomainNodeSet α) (status : AuthoritativeStatus) : Nat :=
  n.authoritative_count_ status

/-- `FailureDomainNodeSet::countShards`: the shards whose attribute satisfies the predicate, or
has the value. -/
def countShards (n : FailureDomainNodeSet α) (q : AttrPred α) : Nat :=
  match q with
  | .pred pred =>
    n.attribute_count_.entries.foldl (fun res kv => if pred kv.1 then res + kv.2 else res) 0
  | .value attr => (n.attribute_count_.lookup attr).getD 0

/-- `FailureDomainNodeSet::isCompleteSet`: every fully authoritative shard, up or not, has an
attribute that satisfies the predicate. -/
def isCompleteSet (n : FailureDomainNodeSet α) (q : AttrPred α) : Bool :=
  let n_shards := n.shard_scope_.countCompleteDomains q
  let n_fully := n.numShards .FULLY_AUTHORITATIVE + n.numShards .UNAVAILABLE
  n_shards == n_fully

/-- `FailureDomainNodeSet::isFmajority`: some scope has an f-majority of complete domains. -/
def isFmajority (n : FailureDomainNodeSet α) (q : AttrPred α) : FmajorityResult :=
  -- we have an f-majority if we have a f-majority for at least one scope
  let f_maj := n.anyScope fun scope => scope.fmajorityAtScope q
  if f_maj then
    if n.isCompleteSet q then .AUTHORITATIVE_COMPLETE else .AUTHORITATIVE_INCOMPLETE
  else if n.isCompleteSet q then .NON_AUTHORITATIVE else .NONE

/-- `FailureDomainNodeSet::canReplicate`, with the scope it fails at. -/
def canReplicate (n : FailureDomainNodeSet α) (q : AttrPred α) : Bool × NodeLocationScope :=
  n.allScopes fun scope => scope.canReplicateAtScope q

/-- The calls a user of the node set makes after building it. -/
inductive Op (α : Type) where
  | setShardAttribute (shard : ShardID) (attr : α)
  | setShardAuthoritativeStatus (shard : ShardID) (status : AuthoritativeStatus)
  | resetAttributeCounters

/-- One call. -/
def apply (n : FailureDomainNodeSet α) : Op α → FailureDomainNodeSet α
  | .setShardAttribute shard attr => n.setShardAttribute shard attr
  | .setShardAuthoritativeStatus shard status => n.setShardAuthoritativeStatus shard status
  | .resetAttributeCounters => n.resetAttributeCounters

/-- A sequence of calls. -/
def applyOps (n : FailureDomainNodeSet α) (ops : List (Op α)) : FailureDomainNodeSet α :=
  ops.foldl apply n

end FailureDomainNodeSet

end LogDevice.FailureDomain
