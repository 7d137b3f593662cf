import LogDevice.FailureDomain.Monotone

/-!
# `canReplicate` finds a copyset

`canReplicate(pred)` checks every scope the node set keeps on its own: at each, enough domains
hold a shard whose attribute satisfies the predicate, and at the `SHARD` scope, enough shards do.
What it stands for is one copyset that meets every replication factor at once. The two agree on
every node set the constructor builds and the calls leave (`canReplicate_iff_copyset`), given
that the nodes have locations at the scopes with a factor and that the domains are nested, a
domain at a smaller scope lying in one domain at each larger scope: the shards that satisfy the
predicate are such a copyset whenever the checks pass.

A scope the constructor drops (its factor is not above that of a larger scope) is not checked; a
larger scope it kept, with a factor at least as large, covers it (`covered_initScopes`), and by
the nesting a copyset spans at least as many domains at the smaller scope. The proof of that
covering follows the constructor's loop from the largest scope down (`CoverInv`).
-/

namespace LogDevice.FailureDomain

open LogDevice.Configuration LogDevice.Lib

set_option linter.unusedSectionVars false

variable {α δ : Type} [DecidableEq α] [DecidableEq δ]

namespace ScopeState

variable {scope : ScopeState α δ} {shards : Finset ShardID} {status : ShardID → AuthoritativeStatus}
  {attr : ShardID → Option α} {pred : α → Bool}

/-- The merging loop of `canReplicateAtScope` from a set of distinct domains: it answers whether
the list has a domain and the domains seen with those of the list number at least
`replication`. -/
lemma replicateFrom_eq_true_iff (r : Nat) : ∀ (l set : List δ), set.Nodup →
    (replicateFrom r l set = true ↔ l ≠ [] ∧ r ≤ (set.toFinset ∪ l.toFinset).card)
  | [], set, _ => by simp [replicateFrom]
  | d :: l, set, hnd => by
    have hnd' : (set.insert d).Nodup := hnd.insert
    have hins : (set.insert d).toFinset = insert d set.toFinset := by
      ext
      simp
    have hlen : (set.insert d).length = (insert d set.toFinset).card := by
      rw [← List.toFinset_card_of_nodup hnd', hins]
    have hunion : ∀ l' : List δ,
        (set.insert d).toFinset ∪ l'.toFinset = set.toFinset ∪ (d :: l').toFinset := fun l' => by
      rw [hins, List.toFinset_cons, Finset.insert_union, Finset.union_insert]
    unfold replicateFrom
    dsimp only
    split_ifs with hr
    · -- the early return: the domains merged so far are enough
      refine iff_of_true rfl ⟨List.cons_ne_nil d l, ?_⟩
      rw [← hunion l, hins]
      exact (hlen ▸ hr).trans (Finset.card_le_card Finset.subset_union_left)
    · rw [replicateFrom_eq_true_iff r l _ hnd', hunion l]
      cases l with
      | nil =>
        -- no domain left, and the merged set is short
        have hshort : ¬r ≤ (set.toFinset ∪ [d].toFinset).card := by
          rw [← hunion [], List.toFinset_nil, Finset.union_empty, hins, ← hlen]
          omega
        exact iff_of_false (fun h => h.1 rfl) (fun h => hshort h.2)
      | cons d' l => simp

/-- The domains of a scope that hold a shard, among `shards`, whose attribute satisfies the
predicate. -/
def domainsWith (scope : ScopeState α δ) (shards : Finset ShardID) (attr : ShardID → Option α)
    (pred : α → Bool) : Finset δ :=
  (shards.filter fun x => (attr x).any pred).biUnion fun x => (scope.shard_map.lookup x).toFinset

lemma mem_domainsWith {d : δ} :
    d ∈ scope.domainsWith shards attr pred ↔
      ∃ x ∈ shards, scope.shard_map.lookup x = some d ∧ (attr x).any pred = true := by
  simp only [domainsWith, Finset.mem_biUnion, Finset.mem_filter, Option.mem_toFinset,
    Option.mem_def, and_assoc]
  exact exists_congr fun x => ⟨fun ⟨hx, hany, hd⟩ => ⟨hx, hd, hany⟩,
    fun ⟨hx, hd, hany⟩ => ⟨hx, hany, hd⟩⟩

/-- Where the aggregates are recounted, the domains `canReplicateAtScope` merges for a predicate
are those that hold a shard whose attribute satisfies it. -/
lemma Recounted.mem_flatMap_iff (h : scope.Recounted shards status attr) (pred : α → Bool)
    (d : δ) :
    d ∈ (scope.replicate_set.entries.filter fun kv => pred kv.1).flatMap (fun kv => kv.2) ↔
      d ∈ scope.domainsWith shards attr pred := by
  rw [mem_domainsWith, List.mem_flatMap]
  constructor
  · rintro ⟨⟨a, fds⟩, hkv, hd⟩
    obtain ⟨hmem, hpred⟩ := List.mem_filter.mp hkv
    have hlookup : scope.replicate_set.lookup a = some fds := AList.mem_lookup_iff.mpr hmem
    obtain ⟨x, hx, hmap, hattr⟩ := (h.replicate_set a d).mp (by rw [hlookup]; exact hd)
    exact ⟨x, hx, hmap, by rw [hattr]; exact hpred⟩
  · rintro ⟨x, hx, hmap, hany⟩
    obtain ⟨a, hattr, hpred⟩ := (Option.any_eq_true pred _).mp hany
    have hd := (h.replicate_set a d).mpr ⟨x, hx, hmap, hattr⟩
    cases hl : scope.replicate_set.lookup a with
    | none => rw [hl] at hd; cases hd
    | some fds =>
      rw [hl] at hd
      exact ⟨⟨a, fds⟩, List.mem_filter.mpr ⟨AList.mem_lookup_iff.mp hl, hpred⟩, hd⟩

/-- Where the aggregates are recounted, a scope with a factor can replicate on the shards whose
attribute satisfies a predicate exactly when at least that many domains hold one. -/
lemma Recounted.canReplicateAtScope_pred_iff (h : scope.Recounted shards status attr)
    (hr : scope.replication ≠ 0) (pred : α → Bool) :
    scope.canReplicateAtScope (.pred pred) = true ↔
      scope.replication ≤ (scope.domainsWith shards attr pred).card := by
  have hfin : ((scope.replicate_set.entries.filter fun kv => pred kv.1).flatMap
      fun kv => kv.2).toFinset = scope.domainsWith shards attr pred := by
    ext d
    rw [List.mem_toFinset]
    exact h.mem_flatMap_iff pred d
  unfold canReplicateAtScope
  rw [replicateFrom_eq_true_iff _ _ [] List.nodup_nil, List.toFinset_nil, Finset.empty_union, hfin]
  -- a positive factor met needs a domain to merge
  refine ⟨And.right, fun hle => ⟨fun hnil => hr ?_, hle⟩⟩
  rw [← hfin, hnil, List.toFinset_nil, Finset.card_empty] at hle
  omega

/-- Where every shard lies in the domain `f` names, and every shard with an attribute that
satisfies the predicate in one, the domains that hold such a shard are as many as the values of
`f` on those shards. -/
lemma card_domainsWith {f : ShardID → Option δ}
    (hmap : ∀ x ∈ shards, scope.shard_map.lookup x = f x)
    (hsome : ∀ x ∈ shards, (attr x).any pred = true → (f x).isSome = true) :
    (scope.domainsWith shards attr pred).card =
      ((shards.filter fun x => (attr x).any pred).image f).card := by
  have himage : (shards.filter fun x => (attr x).any pred).image f =
      (scope.domainsWith shards attr pred).image some := by
    ext o
    simp only [Finset.mem_image, mem_domainsWith, Finset.mem_filter]
    constructor
    · rintro ⟨x, ⟨hx, hany⟩, rfl⟩
      obtain ⟨d, hd⟩ := Option.isSome_iff_exists.mp (hsome x hx hany)
      exact ⟨d, ⟨x, hx, (hmap x hx).trans hd, hany⟩, hd.symm⟩
    · rintro ⟨d, ⟨x, hx, hd, hany⟩, rfl⟩
      exact ⟨x, ⟨hx, hany⟩, (hmap x hx).symm.trans hd⟩
  rw [himage, Finset.card_image_of_injective _ (Option.some_injective δ)]

end ScopeState

/-! ### The scopes the constructor keeps -/

/-- The constructor's loop over the scopes, from the largest down, after the scopes `seen`: every
scope kept was seen; the running factor is 0 or at most a kept scope's; it is at least every
factor seen; and every scope seen with a factor is covered by a kept scope as large or larger
with a factor at least its own. -/
structure CoverInv (rep : ReplicationProperty) (seen : List NodeLocationScope)
    (acc : AList (fun _ : NodeLocationScope => ScopeState α String) × Nat) : Prop where
  seen_of_lookup : ∀ scope st, acc.1.lookup scope = some st → scope ∈ seen
  running : acc.2 = 0 ∨ ∃ scope st, acc.1.lookup scope = some st ∧ acc.2 ≤ st.replication
  le_running : ∀ scope ∈ seen, rep.getReplication scope ≤ acc.2
  covered : ∀ scope ∈ seen, rep.getReplication scope ≠ 0 →
    ∃ scope' st, acc.1.lookup scope' = some st ∧ scope.toNat ≤ scope'.toNat ∧
      rep.getReplication scope ≤ st.replication

namespace CoverInv

variable {rep : ReplicationProperty} {seen : List NodeLocationScope}
  {acc : AList (fun _ : NodeLocationScope => ScopeState α String) × Nat}

/-- One step of the loop, on a scope smaller than every scope seen. -/
lemma step (h : CoverInv rep seen acc) (scope : NodeLocationScope)
    (hlt : ∀ s ∈ seen, scope.toNat < s.toNat) :
    CoverInv rep (seen ++ [scope])
      (let replication := rep.getReplication scope
       if replication ≠ 0 ∧ replication > acc.2 then
         (acc.1.insert scope { replication := replication }, replication)
       else acc) := by
  have hnew : ∀ scope' st, acc.1.lookup scope' = some st → scope' ≠ scope := fun scope' st hst heq =>
    Nat.lt_irrefl _ (heq ▸ hlt scope' (h.seen_of_lookup scope' st hst))
  dsimp only
  by_cases hr : rep.getReplication scope ≠ 0 ∧ rep.getReplication scope > acc.2
  · -- the scope is kept, and its factor is the new running one
    rw [if_pos hr]
    refine ⟨fun s st hst => ?_, .inr ⟨scope, _, AList.lookup_insert _, le_rfl⟩, fun s hs => ?_,
      fun s hs hs0 => ?_⟩
    · by_cases hs : s = scope
      · exact List.mem_append_right _ (List.mem_singleton.mpr hs)
      · rw [AList.lookup_insert_ne hs] at hst
        exact List.mem_append_left _ (h.seen_of_lookup s st hst)
    · rcases List.mem_append.mp hs with hs | hs
      · exact (h.le_running s hs).trans hr.2.le
      · rw [List.mem_singleton.mp hs]
    · rcases List.mem_append.mp hs with hs | hs
      · obtain ⟨scope', st, hst, hle, hrep⟩ := h.covered s hs hs0
        exact ⟨scope', st, by rw [AList.lookup_insert_ne (hnew scope' st hst)]; exact hst, hle, hrep⟩
      · rw [List.mem_singleton.mp hs]
        exact ⟨scope, _, AList.lookup_insert _, le_rfl, le_rfl⟩
  · -- the scope is dropped: its factor is at most the running one
    rw [if_neg hr]
    have hle : rep.getReplication scope ≤ acc.2 := by omega
    refine ⟨fun s st hst => List.mem_append_left _ (h.seen_of_lookup s st hst), h.running,
      fun s hs => ?_, fun s hs hs0 => ?_⟩
    · rcases List.mem_append.mp hs with hs | hs
      · exact h.le_running s hs
      · rw [List.mem_singleton.mp hs]
        exact hle
    · rcases List.mem_append.mp hs with hs | hs
      · exact h.covered s hs hs0
      · rw [List.mem_singleton.mp hs] at hs0 ⊢
        rcases h.running with h0 | ⟨scope', st, hst, hrun⟩
        · omega
        · exact ⟨scope', st, hst, (hlt scope' (h.seen_of_lookup scope' st hst)).le,
            hle.trans hrun⟩

end CoverInv

/-- Every scope with a factor is covered by a scope the constructor keeps, as large or larger,
with a factor at least its own. -/
lemma covered_initScopes (rep : ReplicationProperty) :
    ∀ scope ∈ replicationScopes, rep.getReplication scope ≠ 0 →
      ∃ scope' st, (initScopes rep : AList (fun _ : NodeLocationScope => ScopeState α String) ×
        Nat).1.lookup scope' = some st ∧ scope.toNat ≤ scope'.toNat ∧
          rep.getReplication scope ≤ st.replication := by
  have hinv : CoverInv rep replicationScopes.reverse
      (initScopes rep : AList (fun _ : NodeLocationScope => ScopeState α String) × Nat) := by
    unfold initScopes
    refine foldl_invariant_prefix (CoverInv rep) _ _ [] _ (fun pre a suf acc hl h => ?_)
      ⟨fun _ _ h => by simp at h, .inl rfl, fun _ h => by simp at h, fun _ h => by simp at h⟩
    -- the loop visits the scopes from the largest down
    have hpw : (pre ++ a :: suf).Pairwise (fun a b => b.toNat < a.toNat) := by
      rw [← hl]
      decide
    rw [List.nil_append] at h ⊢
    exact h.step a fun s hs => (List.pairwise_append.mp hpw).2.2 s hs a List.mem_cons_self
  intro scope hscope hr
  exact hinv.covered scope (List.mem_reverse.mpr hscope) hr

namespace FailureDomainNodeSet

variable {n : FailureDomainNodeSet α} {storage_set : List ShardID} {nc : NodesConfiguration}
  {rep : ReplicationProperty} {ops : List (Op α)}

/-- The factor of every scope the node set keeps. -/
def factors (n : FailureDomainNodeSet α) (scope : NodeLocationScope) : Option Nat :=
  (n.scopes_.lookup scope).map ScopeState.replication

lemma factors_of_skeleton {n' : FailureDomainNodeSet α} (h : n'.skeleton = n.skeleton) :
    n'.factors = n.factors := by
  funext scope
  have hshape := congrArg (Option.map Prod.snd) (congrFun (congrArg (fun k => k.2.2) h) scope)
  simpa only [factors, skeleton, Option.map_map, Function.comp_def, ScopeState.shape] using hshape

lemma factors_forEachScope (fn : ∀ {δ : Type} [DecidableEq δ], ScopeState α δ → ScopeState α δ)
    (hfn : ∀ {δ : Type} [DecidableEq δ] (st : ScopeState α δ), (fn st).replication = st.replication) :
    (n.forEachScope fn).factors = n.factors := by
  funext scope
  simp only [factors, lookup_forEachScope, Option.map_map, Function.comp_def, hfn]

lemma factors_addShard (x : ShardID) : (n.addShard x nc).factors = n.factors := by
  funext scope
  simp only [factors, addShard, AList.lookup_mapVal, Option.map_map]
  congr 1
  funext st
  -- a shard joins a domain of the scope, or the scope is left as it is: the factor stays
  simp only [Function.comp_apply]
  split <;> rfl

/-- No call changes the scopes kept or their factors. -/
lemma factors_apply (op : Op α) : (n.apply op).factors = n.factors := by
  cases op with
  | setShardAttribute x a => exact factors_of_skeleton (skeleton_setShardAttribute x a)
  | setShardAuthoritativeStatus x st =>
    exact factors_of_skeleton (skeleton_setShardAuthoritativeStatus x st)
  | resetAttributeCounters =>
    exact factors_forEachScope _ fun _ => ScopeState.resetAttributeCountersAtScope_replication

lemma factors_applyOps (ops : List (Op α)) : (n.applyOps ops).factors = n.factors := by
  induction ops generalizing n with
  | nil => rfl
  | cons op ops ih => exact ih.trans (factors_apply op)

/-- The constructor keeps the scopes and factors `initScopes` chose. -/
lemma factors_create :
    (create storage_set nc rep : FailureDomainNodeSet α).factors = fun scope =>
      ((initScopes rep : AList (fun _ : NodeLocationScope => ScopeState α String) × Nat).1.lookup
        scope).map ScopeState.replication := by
  rw [create_eq_foldl]
  exact foldl_rel (fun m m' : FailureDomainNodeSet α => m'.factors = m.factors) (fun _ => rfl)
    (fun _ _ _ h₁₂ h₂₃ => h₂₃.trans h₁₂) _ (fun _ x => factors_addShard x) _ _

/-- After the constructor and any calls, every scope with a factor is covered by a scope the node
set keeps, as large or larger, with a factor at least its own. -/
lemma covered_of_applyOps (hn : n = (create storage_set nc rep : FailureDomainNodeSet α).applyOps ops) :
    ∀ scope ∈ replicationScopes, rep.getReplication scope ≠ 0 →
      ∃ scope' st, n.scopes_.lookup scope' = some st ∧ scope.toNat ≤ scope'.toNat ∧
        rep.getReplication scope ≤ st.replication := by
  intro scope hscope hr
  obtain ⟨scope', st, hst, hle, hrep⟩ := covered_initScopes (α := α) rep scope hscope hr
  have hf : n.factors scope' = some st.replication := by
    rw [hn, factors_applyOps, factors_create]
    exact congrArg (Option.map ScopeState.replication) hst
  obtain ⟨st', hst', hrep'⟩ := Option.map_eq_some_iff.mp hf
  exact ⟨scope', st', hst', hle, hrep' ▸ hrep⟩

/-- What the constructor and the calls leave: the aggregates of every scope recounted from the
shards, and the shards placed. -/
lemma recounted_placed_of_applyOps
    (hn : n = (create storage_set nc rep : FailureDomainNodeSet α).applyOps ops)
    (hnodup : storage_set.Nodup) :
    n.shard_scope_.Recounted n.shards n.getShardAuthoritativeStatus n.getShardAttribute ∧
      (∀ scope st, n.scopes_.lookup scope = some st →
        st.Recounted n.shards n.getShardAuthoritativeStatus n.getShardAttribute) ∧
      n.Placed nc rep := by
  have h₀ : (create storage_set nc rep : FailureDomainNodeSet α).Consistent ∧
      (create storage_set nc rep : FailureDomainNodeSet α).Placed nc rep :=
    create_consistent_placed hnodup
  have hc : n.Consistent := hn ▸ h₀.1.applyOps ops
  have ha : n.ScopesAggregated := hn ▸ (create_scopesAggregated hnodup).applyOps h₀.1 ops
  exact ⟨hc.scopes.1.recounted ha.1,
    fun scope st hst => (hc.scopes.2 scope st hst).recounted (ha.2 scope st hst),
    hn ▸ h₀.2.applyOps ops⟩

/-- The copyset law: after the constructor, given a valid replication property as it requires, and
any sequence of calls, where every node has a location at the scopes with a factor and the domains
are nested, `canReplicate` for a predicate passes exactly when some set of shards of the node set,
each with an attribute that satisfies the predicate, whatever its status, has at least the
`SHARD` scope's factor of shards and spans at every replication scope at least the factor given
for it of domains. -/
theorem canReplicate_iff_copyset
    (hn : n = (create storage_set nc rep : FailureDomainNodeSet α).applyOps ops)
    (hnodup : storage_set.Nodup) (hvalid : rep.isValid = true)
    (hlabels : ∀ x ∈ n.shards, ∀ scope ∈ replicationScopes, rep.getReplication scope ≠ 0 →
      (domainName nc x scope).isSome = true)
    (hnested : ∀ x ∈ n.shards, ∀ y ∈ n.shards, ∀ scope ∈ replicationScopes,
      ∀ scope' ∈ replicationScopes, rep.getReplication scope ≠ 0 → rep.getReplication scope' ≠ 0 →
        scope.toNat ≤ scope'.toNat → domainName nc x scope = domainName nc y scope →
          domainName nc x scope' = domainName nc y scope')
    (pred : α → Bool) :
    (n.canReplicate (.pred pred)).1 = true ↔
      ∃ C ⊆ n.shards, (∀ x ∈ C, ∃ a, n.getShardAttribute x = some a ∧ pred a = true) ∧
        n.shard_scope_.replication ≤ C.card ∧
        ∀ scope ∈ replicationScopes,
          rep.getReplication scope ≤ (C.image fun x => domainName nc x scope).card := by
  obtain ⟨hshard, hscopes, hp⟩ := recounted_placed_of_applyOps hn hnodup
  -- the shards with an attribute that satisfies the predicate
  set P := n.shards.filter fun x => (n.getShardAttribute x).any pred with hP
  have hPany : ∀ x, x ∈ P ↔ x ∈ n.shards ∧ ∃ a, n.getShardAttribute x = some a ∧ pred a = true :=
    fun x => by rw [hP, Finset.mem_filter, Option.any_eq_true]
  -- a valid property gives a factor, and the `SHARD` scope's is the largest
  have hshard_rep : n.shard_scope_.replication ≠ 0 := by
    obtain ⟨scope, hscope, hr⟩ := ReplicationProperty.exists_of_isValid hvalid
    have := hp.le_shard_replication scope hscope
    omega
  have hshard_iff : n.shard_scope_.canReplicateAtScope (.pred pred) = true ↔
      n.shard_scope_.replication ≤ P.card := by
    rw [hshard.canReplicateAtScope_pred_iff hshard_rep,
      ScopeState.card_domainsWith (f := some) hp.shard_map (fun _ _ _ => rfl),
      Finset.card_image_of_injective _ (Option.some_injective _)]
  have hscope_iff : ∀ scope st, n.scopes_.lookup scope = some st →
      (st.canReplicateAtScope (.pred pred) = true ↔
        rep.getReplication scope ≤ (P.image fun x => domainName nc x scope).card) := by
    intro scope st hst
    obtain ⟨hmem, hrep, hpos, hmap⟩ := hp.scopes scope st hst
    rw [(hscopes scope st hst).canReplicateAtScope_pred_iff (hrep ▸ hpos),
      ScopeState.card_domainsWith hmap fun x hx _ => hlabels x hx scope hmem hpos, hrep]
  rw [canReplicate, allScopes_fst_eq_true, hshard_iff]
  constructor
  · -- the shards with the attribute are the copyset
    rintro ⟨hs, hall⟩
    refine ⟨P, Finset.filter_subset _ _, fun x hx => ((hPany x).mp hx).2, hs,
      fun scope hscope => ?_⟩
    by_cases hr : rep.getReplication scope = 0
    · rw [hr]
      exact Nat.zero_le _
    -- a scope kept, as large or larger, with a factor at least this one's
    obtain ⟨scope', st, hst, hle, hrle⟩ := covered_of_applyOps hn scope hscope hr
    obtain ⟨hmem', hrep', hpos', -⟩ := hp.scopes scope' st hst
    have hspan' := (hscope_iff scope' st hst).mp (hall scope' st hst)
    calc rep.getReplication scope ≤ rep.getReplication scope' := hrep' ▸ hrle
      _ ≤ (P.image fun x => domainName nc x scope').card := hspan'
      _ ≤ (P.image fun x => domainName nc x scope).card :=
        Count.card_image_le_card_image P fun x hx y hy =>
          hnested x ((hPany x).mp hx).1 y ((hPany y).mp hy).1 scope hscope scope' hmem' hr hpos' hle
  · -- a copyset has its shards among those with the attribute
    rintro ⟨C, hCs, hCattr, hCcard, hspan⟩
    have hCP : C ⊆ P := fun x hx => (hPany x).mpr ⟨hCs hx, hCattr x hx⟩
    refine ⟨hCcard.trans (Finset.card_le_card hCP), fun scope st hst => (hscope_iff scope st hst).mpr ?_⟩
    exact (hspan scope (hp.scopes scope st hst).1).trans
      (Finset.card_le_card (Finset.image_subset_image hCP))

theorem canReplicate_iff_copyset_three :
    (threeNodeSet.canReplicate (.pred id)).1 = true ↔
      ∃ C ⊆ threeNodeSet.shards,
        (∀ x ∈ C, ∃ a, threeNodeSet.getShardAttribute x = some a ∧ id a = true) ∧
        threeNodeSet.shard_scope_.replication ≤ C.card ∧
        ∀ scope ∈ replicationScopes,
          (⟨fun s => if s = .NODE then 2 else 0⟩ : ReplicationProperty).getReplication scope ≤
            (C.image fun x => domainName threeNodes x scope).card :=
  canReplicate_iff_copyset rfl (by decide) (by decide) (by decide +kernel) (by decide +kernel) id

end FailureDomainNodeSet

end LogDevice.FailureDomain
