import LogDevice.FailureDomain.Aggregates

/-!
# The answers grow with the shards that hold an attribute

`isFmajority` and `canReplicate` for an attribute value `a` count, at every scope, the domains
complete for `a` and the domains holding `a`. Take two node sets over the same shards, in the same
domains with the same factors and the same statuses, where every shard holding `a` in the first
holds it in the second (`AttrLe a n' n`). Then the second has at every scope at least the
complete domains and the domains holding `a` of the first, so an f-majority or a copyset for `a`
in the first is one in the second (`AttrLe.isFmajority`, `AttrLe.canReplicate`). That needs the
counters of both in agreement with their shards (`Accurate`), as the constructor leaves them and
every call keeps them.

The relation holds of a node set and itself, and the calls keep it when made alike on both sides,
when they give `a` to a shard of the second alone or another attribute to a shard of the first
alone (`AttrLe.setShardAttribute`, `AttrLe.setShardAttribute_left`,
`AttrLe.setShardAttribute_right`, `AttrLe.setShardAuthoritativeStatus`). What no call changes is
the node set's `skeleton`: its shards, and the shard map and factor of every scope.
-/

namespace LogDevice.FailureDomain

open LogDevice.Configuration LogDevice.Lib

set_option linter.unusedSectionVars false

variable {α δ : Type} [DecidableEq α] [DecidableEq δ]

namespace ScopeState

/-- What no call changes of a scope: the domain of each shard, and the factor. -/
def shape (scope : ScopeState α δ) : Finmap (fun _ : ShardID => δ) × Nat :=
  (scope.shard_map, scope.replication)

variable {st st' : ScopeState α δ} {shards : Finset ShardID}
  {status : ShardID → AuthoritativeStatus} {attr attr' : ShardID → Option α} {a : α}

lemma shape_eq (hmap : st'.shard_map = st.shard_map) (hrep : st'.replication = st.replication) :
    st'.shape = st.shape := by
  rw [shape, shape, hmap, hrep]

namespace Counts

/-- Two scopes that put the shards in the same domains have the same domains. -/
lemma keys_eq (h : st.Counts shards status attr) (h' : st'.Counts shards status attr')
    (hmap : st'.shard_map = st.shard_map) :
    st'.domains.keys.toFinset = st.domains.keys.toFinset := by
  ext d
  rw [h'.mem_domains, h.mem_domains, hmap]

/-- With the same statuses they have as many domains that are not empty. -/
lemma non_empty_eq (h : st.Counts shards status attr) (h' : st'.Counts shards status attr')
    (hmap : st'.shard_map = st.shard_map) :
    st'.domains.entries.length - st'.n_empty = st.domains.entries.length - st.n_empty := by
  rw [← h.card_nonEmptyDomains, ← h'.card_nonEmptyDomains, nonEmptyDomains, nonEmptyDomains,
    h.keys_eq h' hmap]
  congr 1
  refine Finset.filter_congr fun d _ => ?_
  rw [h'.n_empty, h.n_empty, h'.n_shards, h.n_shards, hmap]

end Counts

/-- A domain complete for `a` stays complete when more of its shards hold `a`. -/
lemma completeFor_mono (hmap : st'.shard_map = st.shard_map)
    (hattr : ∀ x, attr' x = some a → attr x = some a) {d : δ}
    (hd : st'.CompleteFor shards status attr' d a) : st.CompleteFor shards status attr d a := by
  obtain ⟨⟨x, hx, hxd, hxa, hfull⟩, hall⟩ := hd
  refine ⟨⟨x, hx, hmap ▸ hxd, hattr x hxa, hfull⟩, fun y hy hyd hne => ?_⟩
  obtain ⟨hya, hyf⟩ := hall y hy (hmap.symm ▸ hyd) hne
  exact ⟨hattr y hya, hyf⟩

namespace Recounted

variable (h : st.Recounted shards status attr) (h' : st'.Recounted shards status attr')
  (hshape : st'.shape = st.shape) (hattr : ∀ x, attr' x = some a → attr x = some a)
include h h' hshape hattr

/-- With fewer shards holding `a`, a scope has no more domains complete for `a`. -/
lemma countCompleteDomains_le :
    st'.countCompleteDomains (.value a) ≤ st.countCompleteDomains (.value a) := by
  have hmap : st'.shard_map = st.shard_map := congrArg Prod.fst hshape
  show (st'.n_full.lookup a).getD 0 ≤ (st.n_full.lookup a).getD 0
  rw [h'.n_full, h.n_full, h.counts.keys_eq h'.counts hmap]
  refine Finset.card_le_card fun d hd => ?_
  rw [Finset.mem_filter] at hd ⊢
  exact ⟨hd.1, completeFor_mono hmap hattr hd.2⟩

/-- With fewer shards holding `a`, an f-majority for `a` at a scope stays one. -/
lemma fmajorityAtScope_le (hmaj : st'.fmajorityAtScope (.value a) = true) :
    st.fmajorityAtScope (.value a) = true := by
  have hmap : st'.shard_map = st.shard_map := congrArg Prod.fst hshape
  have hrep : st'.replication = st.replication := congrArg Prod.snd hshape
  unfold fmajorityAtScope at hmaj ⊢
  dsimp only at hmaj ⊢
  rw [decide_eq_true_eq] at hmaj ⊢
  -- the threshold is the same: as many non-empty domains and the same factor
  rw [h.counts.non_empty_eq h'.counts hmap, hrep] at hmaj
  exact hmaj.trans (countCompleteDomains_le h h' hshape hattr)

/-- With fewer shards holding `a`, a scope that has enough domains holding `a` still has. -/
lemma canReplicateAtScope_le (hcan : st'.canReplicateAtScope (.value a) = true) :
    st.canReplicateAtScope (.value a) = true := by
  have hmap : st'.shard_map = st.shard_map := congrArg Prod.fst hshape
  have hrep : st'.replication = st.replication := congrArg Prod.snd hshape
  -- every domain that holds `a` in `st'` holds it in `st`
  have hsub : ∀ d, d ∈ (st'.replicate_set.lookup a).getD [] →
      d ∈ (st.replicate_set.lookup a).getD [] := fun d hd => by
    obtain ⟨x, hx, hxd, hxa⟩ := (h'.replicate_set a d).mp hd
    exact (h.replicate_set a d).mpr ⟨x, hx, hmap ▸ hxd, hattr x hxa⟩
  unfold canReplicateAtScope at hcan ⊢
  dsimp only at hcan ⊢
  cases hl' : st'.replicate_set.lookup a with
  | none =>
    rw [hl'] at hcan
    cases hcan
  | some fds' =>
    rw [hl'] at hcan hsub
    rw [Option.getD_some] at hsub
    obtain ⟨d, hd⟩ := List.exists_mem_of_ne_nil fds' (h'.ne_nil a fds' hl')
    cases hl : st.replicate_set.lookup a with
    | none =>
      rw [hl, Option.getD_none] at hsub
      exact absurd (hsub d hd) List.not_mem_nil
    | some fds =>
      rw [hl, Option.getD_some] at hsub
      -- the domains of `st'` are distinct, and all among those of `st`
      have hnd : fds'.Nodup := by simpa [hl'] using h'.nodup a
      have hle := (hnd.subperm hsub).length_le
      dsimp only
      rw [decide_eq_true_eq] at hcan ⊢
      omega

end Recounted

end ScopeState

namespace FailureDomainNodeSet

/-- What no call changes of a node set: its shards, and the shape of the `SHARD` scope and of the
other scopes. -/
def skeleton (n : FailureDomainNodeSet α) :
    Finset ShardID × (Finmap (fun _ : ShardID => ShardID) × Nat) ×
      (NodeLocationScope → Option (Finmap (fun _ : ShardID => String) × Nat)) :=
  (n.shards, n.shard_scope_.shape, fun scope => (n.scopes_.lookup scope).map ScopeState.shape)

variable {n n' : FailureDomainNodeSet α} {x : ShardID} {a : α}

/-- A step applied to every scope that keeps each scope's shape keeps the skeleton. -/
lemma skeleton_forEachScope (fn : ∀ {δ : Type} [DecidableEq δ], ScopeState α δ → ScopeState α δ)
    (hfn : ∀ {δ : Type} [DecidableEq δ] (st : ScopeState α δ), (fn st).shape = st.shape) :
    (n.forEachScope fn).skeleton = n.skeleton := by
  simp only [skeleton, shards_forEachScope, forEachScope_shard_scope_, lookup_forEachScope,
    Option.map_map, Function.comp_def, hfn]

lemma skeleton_congr (hshards : n'.shards = n.shards) (hshard_scope : n'.shard_scope_ = n.shard_scope_)
    (hscopes : n'.scopes_ = n.scopes_) : n'.skeleton = n.skeleton := by
  rw [skeleton, skeleton, hshards, hshard_scope, hscopes]

lemma skeleton_setShardAttribute (x : ShardID) (a : α) :
    (n.setShardAttribute x a).skeleton = n.skeleton := by
  have hadd : ∀ (m : FailureDomainNodeSet α) (s : AuthoritativeStatus),
      (m.addAttr x a s).skeleton = m.skeleton := fun m s =>
    skeleton_forEachScope _ fun _ =>
      ScopeState.shape_eq ScopeState.addAttrAtScope_shard_map ScopeState.addAttrAtScope_replication
  unfold setShardAttribute
  cases n.shard_authoritative_.lookup x with
  | none => rfl
  | some status =>
    dsimp only
    cases n.shard_attribute_.lookup x with
    | none => exact hadd _ status
    | some old =>
      dsimp only
      split_ifs
      · rfl
      · -- the shard leaves its old attribute's counters, then joins the new one's
        refine (hadd _ status).trans ?_
        show (FailureDomainNodeSet.removeAttr { n with
          attribute_count_ := decrErase n.attribute_count_ old
          shard_attribute_ := n.shard_attribute_.insert x a } x old status).skeleton = n.skeleton
        exact skeleton_forEachScope _ fun _ => ScopeState.shape_eq
          ScopeState.removeAttrAtScope_shard_map ScopeState.removeAttrAtScope_replication

lemma skeleton_setShardAuthoritativeStatus (x : ShardID) (s : AuthoritativeStatus) :
    (n.setShardAuthoritativeStatus x s).skeleton = n.skeleton := by
  have hshards := shards_setShardAuthoritativeStatus (n := n) (x := x) s
  revert hshards
  unfold setShardAuthoritativeStatus
  cases n.shard_authoritative_.lookup x with
  | none => exact fun _ => rfl
  | some prev =>
    dsimp only
    split_ifs
    · exact fun _ => rfl
    · intro hshards
      rw [shards_forEachScope] at hshards
      refine (skeleton_forEachScope _ fun _ => ScopeState.shape_eq
        (ScopeState.setShardAuthoritativeStatusAtScope_shard_map _)
        (ScopeState.setShardAuthoritativeStatusAtScope_replication _)).trans ?_
      exact skeleton_congr hshards rfl rfl

/-! ### What the calls do to the shards' attributes and statuses -/

/-- `setShardAttribute` gives the attribute to a shard of the node set, and to no other. -/
lemma getShardAttribute_setShardAttribute (x : ShardID) (a : α) (y : ShardID) :
    (n.setShardAttribute x a).getShardAttribute y =
      if y = x ∧ x ∈ n.shards then some a else n.getShardAttribute y := by
  unfold setShardAttribute
  cases hl : n.shard_authoritative_.lookup x with
  | none =>
    -- a shard outside the node set is ignored
    have hx : x ∉ n.shards := fun hx => Finmap.lookup_eq_none.mp hl (mem_shards.mp hx)
    exact (if_neg fun h => hx h.2).symm
  | some status =>
    have hx : x ∈ n.shards := mem_shards.mpr (Finmap.mem_of_lookup_eq_some hl)
    -- where the attribute changes, it is stored in `shard_attribute_`
    have hinsert : (n.shard_attribute_.insert x a).lookup y =
        if y = x ∧ x ∈ n.shards then some a else n.getShardAttribute y := by
      rw [Finmap.lookup_insert_eq_ite]
      simp only [hx, and_true]
      rfl
    dsimp only
    cases ha : n.shard_attribute_.lookup x with
    | none => exact hinsert
    | some old =>
      dsimp only
      by_cases hold : old = a
      · rw [if_pos hold]
        by_cases hyx : y = x
        · -- the shard already has the attribute
          rw [if_pos ⟨hyx, hx⟩, hyx, ← hold]
          exact ha
        · exact (if_neg fun h => hyx h.1).symm
      · rw [if_neg hold]
        exact hinsert

lemma getShardAuthoritativeStatus_setShardAttribute (x : ShardID) (a : α) :
    (n.setShardAttribute x a).getShardAuthoritativeStatus = n.getShardAuthoritativeStatus := by
  unfold setShardAttribute
  cases n.shard_authoritative_.lookup x with
  | none => rfl
  | some status =>
    dsimp only
    cases n.shard_attribute_.lookup x with
    | none => rfl
    | some old =>
      dsimp only
      split_ifs <;> rfl

/-- `setShardAuthoritativeStatus` gives the status to a shard of the node set, and to no
other. -/
lemma getShardAuthoritativeStatus_setShardAuthoritativeStatus (x : ShardID)
    (s : AuthoritativeStatus) (y : ShardID) :
    (n.setShardAuthoritativeStatus x s).getShardAuthoritativeStatus y =
      if y = x ∧ x ∈ n.shards then s else n.getShardAuthoritativeStatus y := by
  unfold setShardAuthoritativeStatus
  cases hl : n.shard_authoritative_.lookup x with
  | none =>
    have hx : x ∉ n.shards := fun hx => Finmap.lookup_eq_none.mp hl (mem_shards.mp hx)
    exact (if_neg fun h => hx h.2).symm
  | some prev =>
    have hx : x ∈ n.shards := mem_shards.mpr (Finmap.mem_of_lookup_eq_some hl)
    dsimp only
    by_cases hps : prev = s
    · rw [if_pos hps]
      by_cases hyx : y = x
      · -- the shard already has the status
        rw [if_pos ⟨hyx, hx⟩, hyx]
        show (n.shard_authoritative_.lookup x).getD _ = s
        rw [hl, Option.getD_some, hps]
      · exact (if_neg fun h => hyx h.1).symm
    · rw [if_neg hps]
      show ((n.shard_authoritative_.insert x s).lookup y).getD _ = _
      rw [Finmap.getD_lookup_insert]
      simp only [hx, and_true]
      rfl

lemma getShardAttribute_setShardAuthoritativeStatus (x : ShardID) (s : AuthoritativeStatus) :
    (n.setShardAuthoritativeStatus x s).getShardAttribute = n.getShardAttribute := by
  unfold setShardAuthoritativeStatus
  cases n.shard_authoritative_.lookup x with
  | none => rfl
  | some prev =>
    dsimp only
    split_ifs <;> rfl

/-! ### Node sets with counters in agreement -/

/-- The counters and the aggregates of every scope agree with the shards. -/
def Accurate (n : FailureDomainNodeSet α) : Prop :=
  n.Consistent ∧ n.ScopesAggregated

lemma accurate_create {storage_set : List ShardID} {nc : NodesConfiguration}
    {rep : ReplicationProperty} (hnodup : storage_set.Nodup) :
    (create storage_set nc rep : FailureDomainNodeSet α).Accurate :=
  ⟨(create_consistent_placed hnodup).1, create_scopesAggregated hnodup⟩

lemma Accurate.setShardAttribute (h : n.Accurate) (x : ShardID) (a : α) :
    (n.setShardAttribute x a).Accurate :=
  ⟨h.1.setShardAttribute x a, h.2.setShardAttribute h.1 x a⟩

lemma Accurate.setShardAuthoritativeStatus (h : n.Accurate) (x : ShardID)
    (s : AuthoritativeStatus) : (n.setShardAuthoritativeStatus x s).Accurate :=
  ⟨h.1.setShardAuthoritativeStatus x s, h.2.setShardAuthoritativeStatus h.1 x s⟩

lemma Accurate.recounted_shard (h : n.Accurate) :
    n.shard_scope_.Recounted n.shards n.getShardAuthoritativeStatus n.getShardAttribute :=
  h.1.scopes.1.recounted h.2.1

lemma Accurate.recounted {scope : NodeLocationScope} {st : ScopeState α String} (h : n.Accurate)
    (hst : n.scopes_.lookup scope = some st) :
    st.Recounted n.shards n.getShardAuthoritativeStatus n.getShardAttribute :=
  (h.1.scopes.2 scope st hst).recounted (h.2.2 scope st hst)

/-! ### Scopes that pass the tests -/

lemma anyScope_of_shard {fn : ∀ {δ : Type} [DecidableEq δ], ScopeState α δ → Bool}
    (h : fn n.shard_scope_ = true) : n.anyScope fn = true := by
  unfold anyScope
  dsimp only
  rw [h, Bool.true_or]

lemma anyScope_of_lookup {fn : ∀ {δ : Type} [DecidableEq δ], ScopeState α δ → Bool}
    {scope : NodeLocationScope} {st : ScopeState α String}
    (hst : n.scopes_.lookup scope = some st) (h : fn st = true) : n.anyScope fn = true := by
  unfold anyScope
  dsimp only
  rw [Bool.or_eq_true, List.any_eq_true]
  exact .inr ⟨⟨scope, st⟩, AList.mem_lookup_iff.mp hst, h⟩

/-- `allScopes` passes exactly when the `SHARD` scope and every other scope pass. -/
lemma allScopes_fst_eq_true {fn : ∀ {δ : Type} [DecidableEq δ], ScopeState α δ → Bool} :
    (n.allScopes fn).1 = true ↔
      fn n.shard_scope_ = true ∧ ∀ scope st, n.scopes_.lookup scope = some st → fn st = true := by
  unfold allScopes
  dsimp only
  by_cases hs : fn n.shard_scope_ = true
  · simp only [hs, Bool.not_true, Bool.false_eq_true, if_false, true_and]
    cases hf : n.scopes_.entries.find? (fun it => !fn it.2) with
    | none =>
      -- no scope fails
      have hall := List.find?_eq_none.mp hf
      refine iff_of_true rfl fun scope st hst => ?_
      simpa using hall ⟨scope, st⟩ (AList.mem_lookup_iff.mp hst)
    | some it =>
      -- the first scope that fails
      have hfail := List.find?_some hf
      refine iff_of_false Bool.false_ne_true fun hall => ?_
      have hpass := hall it.1 it.2 (AList.mem_lookup_iff.mpr (List.mem_of_find?_eq_some hf))
      rw [hpass] at hfail
      exact Bool.false_ne_true hfail
  · -- the `SHARD` scope fails
    simp [hs]

/-- `isFmajority` answers that there is an f-majority exactly when some scope passes the test. -/
lemma isFmajority_authoritative_iff {q : AttrPred α} :
    (n.isFmajority q = .AUTHORITATIVE_COMPLETE ∨ n.isFmajority q = .AUTHORITATIVE_INCOMPLETE) ↔
      n.anyScope (fun scope => scope.fmajorityAtScope q) = true := by
  refine ⟨anyScope_of_isFmajority, fun hmaj => ?_⟩
  unfold isFmajority
  dsimp only
  rw [if_pos hmaj]
  split_ifs
  · exact .inl rfl
  · exact .inr rfl

/-! ### The relation -/

/-- `n'` is `n` with no more shards holding `a`: the same skeleton and statuses, and every shard
holding `a` in `n'` holds it in `n`. -/
structure AttrLe (a : α) (n' n : FailureDomainNodeSet α) : Prop where
  skeleton : n'.skeleton = n.skeleton
  status : n'.getShardAuthoritativeStatus = n.getShardAuthoritativeStatus
  attr : ∀ x, n'.getShardAttribute x = some a → n.getShardAttribute x = some a

namespace AttrLe

lemma refl (a : α) (n : FailureDomainNodeSet α) : AttrLe a n n :=
  ⟨rfl, rfl, fun _ h => h⟩

variable (h : AttrLe a n' n)
include h

lemma shards : n'.shards = n.shards :=
  congrArg Prod.fst h.skeleton

lemma shard_shape : n'.shard_scope_.shape = n.shard_scope_.shape :=
  congrArg (fun k => k.2.1) h.skeleton

/-- The scopes of `n'` are those of `n`, with the same shapes. -/
lemma lookup_scopes_iff (scope : NodeLocationScope) :
    (n'.scopes_.lookup scope).map ScopeState.shape = (n.scopes_.lookup scope).map ScopeState.shape :=
  congrFun (congrArg (fun k => k.2.2) h.skeleton) scope

lemma exists_lookup {scope : NodeLocationScope} {st' : ScopeState α String}
    (hst' : n'.scopes_.lookup scope = some st') :
    ∃ st, n.scopes_.lookup scope = some st ∧ st'.shape = st.shape := by
  have hmap := h.lookup_scopes_iff scope
  rw [hst', Option.map_some] at hmap
  obtain ⟨st, hst, heq⟩ := Option.map_eq_some_iff.mp hmap.symm
  exact ⟨st, hst, heq.symm⟩

lemma exists_lookup' {scope : NodeLocationScope} {st : ScopeState α String}
    (hst : n.scopes_.lookup scope = some st) :
    ∃ st', n'.scopes_.lookup scope = some st' ∧ st'.shape = st.shape := by
  have hmap := h.lookup_scopes_iff scope
  rw [hst, Option.map_some] at hmap
  obtain ⟨st', hst', heq⟩ := Option.map_eq_some_iff.mp hmap
  exact ⟨st', hst', heq⟩

/-- `n'` counted over the shards and statuses of `n`. -/
lemma recounted_shard (hn' : n'.Accurate) :
    n'.shard_scope_.Recounted n.shards n.getShardAuthoritativeStatus n'.getShardAttribute := by
  rw [← h.shards, ← h.status]
  exact hn'.recounted_shard

lemma recounted {scope : NodeLocationScope} {st' : ScopeState α String} (hn' : n'.Accurate)
    (hst' : n'.scopes_.lookup scope = some st') :
    st'.Recounted n.shards n.getShardAuthoritativeStatus n'.getShardAttribute := by
  rw [← h.shards, ← h.status]
  exact hn'.recounted hst'

/-- With no more shards holding `a`, an f-majority for `a` in `n'` is one in `n`. -/
lemma isFmajority (hn : n.Accurate) (hn' : n'.Accurate)
    (hmaj : n'.isFmajority (.value a) = .AUTHORITATIVE_COMPLETE ∨
      n'.isFmajority (.value a) = .AUTHORITATIVE_INCOMPLETE) :
    n.isFmajority (.value a) = .AUTHORITATIVE_COMPLETE ∨
      n.isFmajority (.value a) = .AUTHORITATIVE_INCOMPLETE := by
  rw [isFmajority_authoritative_iff] at hmaj ⊢
  rcases anyScope_eq_true hmaj with hshard | ⟨scope, st', hst', hpass⟩
  · -- the `SHARD` scope
    exact anyScope_of_shard (hn.recounted_shard.fmajorityAtScope_le (h.recounted_shard hn')
      h.shard_shape h.attr hshard)
  · -- a scope the constructor kept, kept in both
    obtain ⟨st, hst, hshape⟩ := h.exists_lookup hst'
    exact anyScope_of_lookup hst ((hn.recounted hst).fmajorityAtScope_le (h.recounted hn' hst')
      hshape h.attr hpass)

/-- With no more shards holding `a`, a copyset for `a` in `n'` is one in `n`. -/
lemma canReplicate (hn : n.Accurate) (hn' : n'.Accurate)
    (hcan : (n'.canReplicate (.value a)).1 = true) : (n.canReplicate (.value a)).1 = true := by
  unfold FailureDomainNodeSet.canReplicate at hcan ⊢
  obtain ⟨hshard, hscopes⟩ := allScopes_fst_eq_true.mp hcan
  refine allScopes_fst_eq_true.mpr ⟨hn.recounted_shard.canReplicateAtScope_le
    (h.recounted_shard hn') h.shard_shape h.attr hshard, fun scope st hst => ?_⟩
  obtain ⟨st', hst', hshape⟩ := h.exists_lookup' hst
  exact (hn.recounted hst).canReplicateAtScope_le (h.recounted hn' hst') hshape h.attr
    (hscopes scope st' hst')

/-- The same attribute given to a shard on both sides. -/
lemma setShardAttribute (x : ShardID) (b : α) :
    AttrLe a (n'.setShardAttribute x b) (n.setShardAttribute x b) := by
  refine ⟨?_, ?_, fun y hy => ?_⟩
  · rw [skeleton_setShardAttribute, skeleton_setShardAttribute]
    exact h.skeleton
  · rw [getShardAuthoritativeStatus_setShardAttribute,
      getShardAuthoritativeStatus_setShardAttribute]
    exact h.status
  · rw [getShardAttribute_setShardAttribute] at hy ⊢
    rw [h.shards] at hy
    split_ifs at hy ⊢
    · exact hy
    · exact h.attr y hy

/-- `a` given to a shard of `n` alone. -/
lemma setShardAttribute_left (x : ShardID) : AttrLe a n' (n.setShardAttribute x a) := by
  refine ⟨h.skeleton.trans (skeleton_setShardAttribute x a).symm,
    h.status.trans (getShardAuthoritativeStatus_setShardAttribute x a).symm, fun y hy => ?_⟩
  rw [getShardAttribute_setShardAttribute]
  split_ifs
  · rfl
  · exact h.attr y hy

/-- Another attribute given to a shard of `n'` alone. -/
lemma setShardAttribute_right (x : ShardID) {b : α} (hb : b ≠ a) :
    AttrLe a (n'.setShardAttribute x b) n := by
  refine ⟨(skeleton_setShardAttribute x b).trans h.skeleton,
    (getShardAuthoritativeStatus_setShardAttribute x b).trans h.status, fun y hy => ?_⟩
  rw [getShardAttribute_setShardAttribute] at hy
  split_ifs at hy
  · exact absurd (Option.some.inj hy) hb
  · exact h.attr y hy

/-- The same status given to a shard on both sides. -/
lemma setShardAuthoritativeStatus (x : ShardID) (s : AuthoritativeStatus) :
    AttrLe a (n'.setShardAuthoritativeStatus x s) (n.setShardAuthoritativeStatus x s) := by
  refine ⟨?_, funext fun y => ?_, fun y hy => ?_⟩
  · rw [skeleton_setShardAuthoritativeStatus, skeleton_setShardAuthoritativeStatus]
    exact h.skeleton
  · rw [getShardAuthoritativeStatus_setShardAuthoritativeStatus,
      getShardAuthoritativeStatus_setShardAuthoritativeStatus, h.shards, h.status]
  · rw [getShardAttribute_setShardAuthoritativeStatus] at hy ⊢
    exact h.attr y hy

/-- A body that gives `a` to a shard under a condition: on the `n'` side only if on the `n`
side. -/
lemma ite_setShardAttribute {p p' : Prop} [Decidable p] [Decidable p'] (hp : p' → p)
    (x : ShardID) :
    AttrLe a (if p' then n'.setShardAttribute x a else n')
      (if p then n.setShardAttribute x a else n) := by
  by_cases hp' : p'
  · rw [if_pos hp', if_pos (hp hp')]
    exact h.setShardAttribute x a
  · rw [if_neg hp']
    split_ifs
    · exact h.setShardAttribute_left x
    · exact h

/-- A body that gives `a` to a shard under a condition, on the `n'` side only if on the `n` side,
and otherwise another attribute alike on both sides where `q` holds. -/
lemma ite_ite_setShardAttribute {p p' q : Prop} [Decidable p] [Decidable p'] [Decidable q]
    (hp : p' → p) (x : ShardID) {b : α} (hb : b ≠ a) :
    AttrLe a
      (if p' then n'.setShardAttribute x a
        else if q then n'.setShardAttribute x b else n')
      (if p then n.setShardAttribute x a
        else if q then n.setShardAttribute x b else n) := by
  by_cases hp' : p'
  · rw [if_pos hp', if_pos (hp hp')]
    exact h.setShardAttribute x a
  · rw [if_neg hp']
    by_cases hpn : p
    · -- `a` on the `n` side alone: the other side's `b` is not `a`
      rw [if_pos hpn]
      split_ifs
      · exact (h.setShardAttribute_left x).setShardAttribute_right x hb
      · exact h.setShardAttribute_left x
    · rw [if_neg hpn]
      split_ifs
      · exact h.setShardAttribute x b
      · exact h

end AttrLe

end FailureDomainNodeSet

end LogDevice.FailureDomain
