import LogDevice.FailureDomain.Counts

/-!
# The node set's counters agree with its shards after every run

`FailureDomainNodeSet.Consistent n` says that every counter of the node set is what counting its
shards gives: the counters of every scope (`ScopeState.Counts`), the number of shards of each
status (`authoritative_count_`) and of each attribute (`attribute_count_`). Every call keeps it
(`Consistent.apply`), so it holds after any sequence of calls (`Consistent.applyOps`): the
counters the source moves by one at a time never drift from a recount, which is what its debug
check `checkConsistency` asserts.

`Placed n nc rep` records where the constructor put the shards: each in its own domain at the
`SHARD` scope and, at every other scope, in the domain its node's location names there, with the
replication factors of the scopes the constructor kept. No call moves a shard or changes a factor
(`Placed.apply`). The constructor establishes both from a storage set without repeated shards
(`create_consistent_placed`), by induction over its loop, during which every shard is fully
authoritative and has no attribute (`Fresh`).
-/
namespace LogDevice.FailureDomain

open LogDevice.Configuration LogDevice.Lib

set_option linter.unusedSectionVars false

variable {α : Type} [DecidableEq α]

namespace FailureDomainNodeSet

/-- The shards of the node set: those it keeps a status for. -/
def shards (n : FailureDomainNodeSet α) : Finset ShardID :=
  n.shard_authoritative_.keys

/-- Every scope of the node set, the `SHARD` scope included, has counters that agree with the
given shards, statuses and attributes. -/
def ScopesCount (n : FailureDomainNodeSet α) (shards : Finset ShardID)
    (status : ShardID → AuthoritativeStatus) (attr : ShardID → Option α) : Prop :=
  n.shard_scope_.Counts shards status attr ∧
    ∀ scope st, n.scopes_.lookup scope = some st → st.Counts shards status attr

/-- The counters of the node set agree with a count of its shards. -/
structure Consistent (n : FailureDomainNodeSet α) : Prop where
  scopes : n.ScopesCount n.shards n.getShardAuthoritativeStatus n.getShardAttribute
  attr_mem : ∀ x a, n.getShardAttribute x = some a → x ∈ n.shards
  authoritative_count : ∀ st, n.authoritative_count_ st =
    (n.shards.filter fun x => n.getShardAuthoritativeStatus x = st).card
  attribute_count : ∀ a, (n.attribute_count_.lookup a).getD 0 =
    (n.shards.filter fun x => n.getShardAttribute x = some a).card

variable {n : FailureDomainNodeSet α} {x : ShardID}

@[simp] lemma shards_forEachScope
    (fn : ∀ {δ : Type} [DecidableEq δ], ScopeState α δ → ScopeState α δ) :
    (n.forEachScope fn).shards = n.shards := rfl

lemma mem_shards : x ∈ n.shards ↔ x ∈ n.shard_authoritative_ :=
  Finmap.mem_keys

/-- A step applied to every scope that keeps each scope's counters in agreement keeps them all. -/
lemma ScopesCount.forEachScope {shards shards' : Finset ShardID}
    {status status' : ShardID → AuthoritativeStatus} {attr attr' : ShardID → Option α}
    (h : n.ScopesCount shards status attr)
    (fn : ∀ {δ : Type} [DecidableEq δ], ScopeState α δ → ScopeState α δ)
    (hfn : ∀ {δ : Type} [DecidableEq δ] (st : ScopeState α δ),
      st.Counts shards status attr → (fn st).Counts shards' status' attr') :
    (n.forEachScope fn).ScopesCount shards' status' attr' := by
  refine ⟨hfn _ h.1, fun scope st hst => ?_⟩
  rw [lookup_forEachScope, Option.map_eq_some_iff] at hst
  obtain ⟨st₀, h₀, rfl⟩ := hst
  exact hfn _ (h.2 scope st₀ h₀)

/-- `removeAttr` keeps the scopes' counters in agreement, with the shard's attribute gone. -/
lemma ScopesCount.removeAttr {shards : Finset ShardID} {status : ShardID → AuthoritativeStatus}
    {attr : ShardID → Option α} (h : n.ScopesCount shards status attr) (hx : x ∈ shards) {a : α}
    (hattr : attr x = some a) :
    (n.removeAttr x a (status x)).ScopesCount shards status
      (fun y => if y = x then none else attr y) :=
  h.forEachScope _ fun _ hst =>
    hst.removeAttrAtScope hx hattr (by rw [if_pos rfl]) (fun y hy => by rw [if_neg hy])

/-! ### The calls keep the counters -/

/-- `setShardAuthoritativeStatus` keeps the counters in agreement. -/
lemma Consistent.setShardAuthoritativeStatus (hc : n.Consistent) (x : ShardID)
    (s : AuthoritativeStatus) : (n.setShardAuthoritativeStatus x s).Consistent := by
  unfold FailureDomainNodeSet.setShardAuthoritativeStatus
  cases hl : n.shard_authoritative_.lookup x with
  | none => exact hc
  | some prev =>
    dsimp only
    split_ifs with hps
    · exact hc
    · have hx : x ∈ n.shards := mem_shards.mpr (Finmap.mem_of_lookup_eq_some hl)
      have hprev : n.getShardAuthoritativeStatus x = prev := by
        simp [getShardAuthoritativeStatus, hl]
      set n' := ({ n with
        shard_authoritative_ := n.shard_authoritative_.insert x s
        authoritative_count_ := Function.update
          (Function.update n.authoritative_count_ prev (n.authoritative_count_ prev - 1)) s
          (Function.update n.authoritative_count_ prev (n.authoritative_count_ prev - 1) s + 1) } :
        FailureDomainNodeSet α)
      have hshards : n'.shards = n.shards := by
        simp only [n', shards, Finmap.keys_insert]
        exact Finset.insert_eq_of_mem hx
      have hstatus : ∀ y, n'.getShardAuthoritativeStatus y =
          if y = x then s else n.getShardAuthoritativeStatus y := fun y =>
        Finmap.getD_lookup_insert x y s _
      have hattr : n'.getShardAttribute = n.getShardAttribute := rfl
      have hscopes : n'.ScopesCount n.shards n.getShardAuthoritativeStatus n.getShardAttribute :=
        hc.scopes
      refine ⟨?_, ?_, ?_, ?_⟩
      · rw [shards_forEachScope, getShardAuthoritativeStatus_forEachScope,
          getShardAttribute_forEachScope, hshards, hattr]
        exact hscopes.forEachScope _ fun st hst =>
          hst.setShardAuthoritativeStatusAtScope hx hprev hps (by rw [hstatus, if_pos rfl])
            (fun y hy => by rw [hstatus, if_neg hy])
      · rw [shards_forEachScope, getShardAttribute_forEachScope, hshards, hattr]
        exact hc.attr_mem
      · -- one shard leaves the count of `prev` and joins that of `s`
        intro st
        have hu := Count.card_filter_update (s := n.shards)
          (p := fun y => n.getShardAuthoritativeStatus y = st)
          (q := fun y => n'.getShardAuthoritativeStatus y = st) x
          (fun y _ hyx => by rw [hstatus, if_neg hyx])
        rw [← hc.authoritative_count] at hu
        simp only [hx, true_and, hprev] at hu
        rw [hstatus x, if_pos rfl] at hu
        simp only [@eq_comm _ prev st, @eq_comm _ s st] at hu
        have hcount : n'.authoritative_count_ = Function.update
            (Function.update n.authoritative_count_ prev (n.authoritative_count_ prev - 1)) s
            (Function.update n.authoritative_count_ prev (n.authoritative_count_ prev - 1) s + 1) :=
          rfl
        rw [shards_forEachScope, getShardAuthoritativeStatus_forEachScope,
          forEachScope_authoritative_count_, hshards, hcount]
        by_cases h1 : st = s <;> by_cases h2 : st = prev
        · exact absurd (h2.symm.trans h1) hps
        all_goals simp only [Function.update_apply, h1, h2, hps, Ne.symm hps, if_true, if_false]
          at hu ⊢
        all_goals omega
      · rw [shards_forEachScope, getShardAttribute_forEachScope, forEachScope_attribute_count_,
          hshards, hattr]
        exact hc.attribute_count

/-- `setShardAttribute` keeps the counters in agreement. -/
lemma Consistent.setShardAttribute (hc : n.Consistent) (x : ShardID) (a : α) :
    (n.setShardAttribute x a).Consistent := by
  unfold FailureDomainNodeSet.setShardAttribute
  cases hl : n.shard_authoritative_.lookup x with
  | none => exact hc
  | some status =>
    have hx : x ∈ n.shards := mem_shards.mpr (Finmap.mem_of_lookup_eq_some hl)
    have hstatus : n.getShardAuthoritativeStatus x = status := by
      simp [getShardAuthoritativeStatus, hl]
    dsimp only
    cases ha : n.shard_attribute_.lookup x with
    | none =>
      dsimp only
      have hnone : n.getShardAttribute x = none := ha
      set n' : FailureDomainNodeSet α := { n with
        shard_attribute_ := n.shard_attribute_.insert x a
        attribute_count_ := incr n.attribute_count_ a }
      have hattr' : ∀ y, n'.getShardAttribute y = if y = x then some a else n.getShardAttribute y :=
        fun y => Finmap.lookup_insert_eq_ite x y a
      have hscopes : n'.ScopesCount n.shards n.getShardAuthoritativeStatus n.getShardAttribute :=
        hc.scopes
      refine ⟨?_, ?_, hc.authoritative_count, ?_⟩
      · rw [addAttr, shards_forEachScope, getShardAuthoritativeStatus_forEachScope,
          getShardAttribute_forEachScope]
        exact hscopes.forEachScope _ fun st hst => by
          rw [← hstatus]
          exact hst.addAttrAtScope hx hnone (by rw [hattr', if_pos rfl])
            (fun y hy => by rw [hattr', if_neg hy])
      · intro y a' hy
        rw [addAttr, getShardAttribute_forEachScope, hattr'] at hy
        split_ifs at hy with hyx
        · exact hyx ▸ hx
        · exact hc.attr_mem y a' hy
      · -- `x` joins the count of `a`
        intro a'
        have hu := Count.card_filter_update (s := n.shards)
          (p := fun y => n.getShardAttribute y = some a')
          (q := fun y => n'.getShardAttribute y = some a') x
          (fun y _ hyx => by rw [hattr', if_neg hyx])
        rw [← hc.attribute_count] at hu
        simp only [hx, true_and, hnone, reduceCtorEq, if_false, Nat.add_zero] at hu
        rw [hattr' x, if_pos rfl] at hu
        rw [addAttr, forEachScope_attribute_count_, shards_forEachScope,
          getShardAttribute_forEachScope]
        change ((incr n.attribute_count_ a).lookup a').getD 0 = _
        rw [getD_lookup_incr, show n'.shards = n.shards from rfl, hu]
        by_cases h : a' = a
        · simp [h]
        · simp [h, Ne.symm h]
    | some old =>
      dsimp only
      have hold : n.getShardAttribute x = some old := ha
      split_ifs with heq
      · exact hc
      · -- `x` leaves the count of `old`, then joins that of `a`
        set n₁ : FailureDomainNodeSet α := { n with
          attribute_count_ := decrErase n.attribute_count_ old
          shard_attribute_ := n.shard_attribute_.insert x a }
        set n₂ := n₁.removeAttr x old status
        have hattr₁ : ∀ y, n₁.getShardAttribute y =
            if y = x then some a else n.getShardAttribute y :=
          fun y => Finmap.lookup_insert_eq_ite x y a
        have hscopes : n₁.ScopesCount n.shards n.getShardAuthoritativeStatus n.getShardAttribute :=
          hc.scopes
        -- between the two steps `x` has no attribute at any scope
        have hmid : n₂.ScopesCount n.shards n.getShardAuthoritativeStatus
            (fun y => if y = x then none else n.getShardAttribute y) := by
          have h := hscopes.removeAttr hx hold
          rwa [hstatus] at h
        have hmid' : ({ n₂ with attribute_count_ := incr n₂.attribute_count_ a } :
            FailureDomainNodeSet α).ScopesCount n.shards n.getShardAuthoritativeStatus
              (fun y => if y = x then none else n.getShardAttribute y) := hmid
        refine ⟨?_, ?_, hc.authoritative_count, ?_⟩
        · rw [addAttr, shards_forEachScope, getShardAuthoritativeStatus_forEachScope,
            getShardAttribute_forEachScope]
          exact hmid'.forEachScope _ fun st hst => by
            rw [← hstatus]
            exact hst.addAttrAtScope hx (by rw [if_pos rfl])
              (by show n₁.getShardAttribute x = some a; rw [hattr₁, if_pos rfl])
              (fun y hy => by
                show n₁.getShardAttribute y = if y = x then none else n.getShardAttribute y
                rw [hattr₁, if_neg hy, if_neg hy])
        · intro y a' hy
          rw [addAttr, getShardAttribute_forEachScope] at hy
          change n₁.getShardAttribute y = some a' at hy
          rw [hattr₁] at hy
          split_ifs at hy with hyx
          · exact hyx ▸ hx
          · exact hc.attr_mem y a' hy
        · intro a'
          have hu := Count.card_filter_update (s := n.shards)
            (p := fun y => n.getShardAttribute y = some a')
            (q := fun y => n₁.getShardAttribute y = some a') x
            (fun y _ hyx => by rw [hattr₁, if_neg hyx])
          rw [← hc.attribute_count] at hu
          simp only [hx, true_and, hold] at hu
          rw [hattr₁ x, if_pos rfl] at hu
          simp only [Option.some_inj, @eq_comm _ old a', @eq_comm _ a a'] at hu
          -- the count of `old` had `x` in it
          have hpos : a' = old → 0 < (n.attribute_count_.lookup a').getD 0 := by
            rintro rfl
            rw [hc.attribute_count]
            exact Finset.card_pos.mpr ⟨x, Finset.mem_filter.mpr ⟨hx, hold⟩⟩
          rw [addAttr, forEachScope_attribute_count_, shards_forEachScope,
            getShardAttribute_forEachScope]
          change ((incr (decrErase n.attribute_count_ old) a).lookup a').getD 0 =
            (n.shards.filter fun y => n₁.getShardAttribute y = some a').card
          rw [getD_lookup_incr, getD_lookup_decrErase]
          by_cases h1 : a' = a <;> by_cases h2 : a' = old
          · exact absurd (h2.symm.trans h1) heq
          all_goals simp only [h1, h2, heq, Ne.symm heq, if_true, if_false] at hu hpos ⊢
          all_goals omega

/-- `resetAttributeCounters` keeps the counters in agreement. -/
lemma Consistent.resetAttributeCounters (hc : n.Consistent) :
    n.resetAttributeCounters.Consistent := by
  have hnone : n.resetAttributeCounters.getShardAttribute = fun _ => none := by
    funext y
    exact Finmap.lookup_empty y
  refine ⟨?_, ?_, hc.authoritative_count, ?_⟩
  · rw [hnone]
    exact hc.scopes.forEachScope _ fun st hst => hst.resetAttributeCountersAtScope fun _ => rfl
  · intro y a hy
    rw [hnone] at hy
    cases hy
  · intro a
    rw [hnone]
    change ((∅ : AList fun _ : α => Nat).lookup a).getD 0 = _
    simp

/-- Every call keeps the counters in agreement. -/
lemma Consistent.apply (hc : n.Consistent) : ∀ op : Op α, (n.apply op).Consistent
  | .setShardAttribute x a => hc.setShardAttribute x a
  | .setShardAuthoritativeStatus x s => hc.setShardAuthoritativeStatus x s
  | .resetAttributeCounters => hc.resetAttributeCounters

/-- The counters agree after any sequence of calls. -/
lemma Consistent.applyOps (hc : n.Consistent) (ops : List (Op α)) :
    (n.applyOps ops).Consistent := by
  induction ops generalizing n with
  | nil => exact hc
  | cons op ops ih => exact ih (hc.apply op)

/-! ### Where the shards are -/

/-- Where the constructor put the shards: each in its own domain at the `SHARD` scope, whose
factor is one of those given, and, at every scope it kept, in the domain its node's location names
there, with the factor given for the scope. -/
structure Placed (n : FailureDomainNodeSet α) (nc : NodesConfiguration)
    (rep : ReplicationProperty) : Prop where
  shard_map : ∀ x ∈ n.shards, n.shard_scope_.shard_map.lookup x = some x
  shard_replication : n.shard_scope_.replication = 0 ∨
    ∃ scope ∈ replicationScopes, n.shard_scope_.replication = rep.getReplication scope
  le_shard_replication : ∀ scope ∈ replicationScopes,
    rep.getReplication scope ≤ n.shard_scope_.replication
  scopes : ∀ scope st, n.scopes_.lookup scope = some st →
    scope ∈ replicationScopes ∧ st.replication = rep.getReplication scope ∧
      rep.getReplication scope ≠ 0 ∧ ∀ x ∈ n.shards, st.shard_map.lookup x = domainName nc x scope

variable {nc : NodesConfiguration} {rep : ReplicationProperty}

/-- A step applied to every scope that moves no shard and keeps the factor keeps the shards
placed. -/
lemma Placed.forEachScope (h : n.Placed nc rep)
    (fn : ∀ {δ : Type} [DecidableEq δ], ScopeState α δ → ScopeState α δ)
    (hmap : ∀ {δ : Type} [DecidableEq δ] (st : ScopeState α δ), (fn st).shard_map = st.shard_map)
    (hrep : ∀ {δ : Type} [DecidableEq δ] (st : ScopeState α δ),
      (fn st).replication = st.replication) :
    (n.forEachScope fn).Placed nc rep := by
  refine ⟨?_, ?_, ?_, fun scope st hst => ?_⟩
  · rw [shards_forEachScope, forEachScope_shard_scope_, hmap]
    exact h.shard_map
  · rw [forEachScope_shard_scope_, hrep]
    exact h.shard_replication
  · rw [forEachScope_shard_scope_, hrep]
    exact h.le_shard_replication
  · rw [lookup_forEachScope, Option.map_eq_some_iff] at hst
    obtain ⟨st₀, h₀, rfl⟩ := hst
    rw [hmap, hrep, shards_forEachScope]
    exact h.scopes scope st₀ h₀

/-- Whether the shards are placed depends on the scopes and the shards only. -/
lemma Placed.congr (h : n.Placed nc rep) {n' : FailureDomainNodeSet α} (hshards : n'.shards = n.shards)
    (hshard_scope : n'.shard_scope_ = n.shard_scope_) (hscopes : n'.scopes_ = n.scopes_) :
    n'.Placed nc rep := by
  refine ⟨?_, ?_, ?_, ?_⟩
  · rw [hshards, hshard_scope]
    exact h.shard_map
  · rw [hshard_scope]
    exact h.shard_replication
  · rw [hshard_scope]
    exact h.le_shard_replication
  · rw [hscopes, hshards]
    exact h.scopes

/-- `setShardAuthoritativeStatus` records the status of a shard of the node set only. -/
lemma shards_setShardAuthoritativeStatus (s : AuthoritativeStatus) :
    (n.setShardAuthoritativeStatus x s).shards = n.shards := by
  unfold FailureDomainNodeSet.setShardAuthoritativeStatus
  cases hl : n.shard_authoritative_.lookup x with
  | none => rfl
  | some prev =>
    dsimp only
    split_ifs
    · rfl
    · show (n.shard_authoritative_.insert x s).keys = n.shards
      rw [Finmap.keys_insert]
      exact Finset.insert_eq_of_mem (mem_shards.mpr (Finmap.mem_of_lookup_eq_some hl))

/-- `addAttr` moves no shard. -/
lemma Placed.addAttr (h : n.Placed nc rep) (x : ShardID) (a : α) (s : AuthoritativeStatus) :
    (n.addAttr x a s).Placed nc rep :=
  Placed.forEachScope h _ (fun _ => ScopeState.addAttrAtScope_shard_map)
    (fun _ => ScopeState.addAttrAtScope_replication)

/-- `removeAttr` moves no shard. -/
lemma Placed.removeAttr (h : n.Placed nc rep) (x : ShardID) (a : α) (s : AuthoritativeStatus) :
    (n.removeAttr x a s).Placed nc rep :=
  Placed.forEachScope h _ (fun _ => ScopeState.removeAttrAtScope_shard_map)
    (fun _ => ScopeState.removeAttrAtScope_replication)

/-- `setShardAttribute` moves no shard. -/
lemma Placed.setShardAttribute (h : n.Placed nc rep) (x : ShardID) (a : α) :
    (n.setShardAttribute x a).Placed nc rep := by
  unfold FailureDomainNodeSet.setShardAttribute
  cases n.shard_authoritative_.lookup x with
  | none => exact h
  | some status =>
    dsimp only
    cases n.shard_attribute_.lookup x with
    | none =>
      dsimp only
      refine Placed.addAttr ?_ x a status
      exact h.congr rfl rfl rfl
    | some old =>
      dsimp only
      split_ifs
      · exact h
      · -- the shard leaves the attribute's counters, then joins the new one's
        have h₁ : ({ n with
            attribute_count_ := decrErase n.attribute_count_ old
            shard_attribute_ := n.shard_attribute_.insert x a } :
              FailureDomainNodeSet α).Placed nc rep :=
          h.congr rfl rfl rfl
        refine Placed.addAttr ?_ x a status
        exact (h₁.removeAttr x old status).congr rfl rfl rfl

/-- `setShardAuthoritativeStatus` moves no shard. -/
lemma Placed.setShardAuthoritativeStatus (h : n.Placed nc rep) (x : ShardID)
    (s : AuthoritativeStatus) : (n.setShardAuthoritativeStatus x s).Placed nc rep := by
  have hshards := shards_setShardAuthoritativeStatus (n := n) (x := x) s
  revert hshards
  unfold FailureDomainNodeSet.setShardAuthoritativeStatus
  cases n.shard_authoritative_.lookup x with
  | none => exact fun _ => h
  | some prev =>
    dsimp only
    split_ifs
    · exact fun _ => h
    · intro hshards
      rw [shards_forEachScope] at hshards
      refine Placed.forEachScope ?_ _
        (fun _ => ScopeState.setShardAuthoritativeStatusAtScope_shard_map _)
        (fun _ => ScopeState.setShardAuthoritativeStatusAtScope_replication _)
      exact h.congr hshards rfl rfl

/-- `resetAttributeCounters` moves no shard. -/
lemma Placed.resetAttributeCounters (h : n.Placed nc rep) :
    n.resetAttributeCounters.Placed nc rep := by
  unfold FailureDomainNodeSet.resetAttributeCounters
  exact (Placed.forEachScope h _ (fun _ => ScopeState.resetAttributeCountersAtScope_shard_map)
    (fun _ => ScopeState.resetAttributeCountersAtScope_replication)).congr rfl rfl rfl

/-- No call moves a shard or changes a factor. -/
lemma Placed.apply (h : n.Placed nc rep) : ∀ op : Op α, (n.apply op).Placed nc rep
  | .setShardAttribute x a => h.setShardAttribute x a
  | .setShardAuthoritativeStatus x s => h.setShardAuthoritativeStatus x s
  | .resetAttributeCounters => h.resetAttributeCounters

/-- The shards stay where the constructor put them after any sequence of calls. -/
lemma Placed.applyOps (h : n.Placed nc rep) (ops : List (Op α)) :
    (n.applyOps ops).Placed nc rep := by
  induction ops generalizing n with
  | nil => exact h
  | cons op ops ih => exact ih (h.apply op)

/-! ### The constructor -/

/-- The scopes the constructor keeps are new, among those a factor is given for, with a factor
given for them. -/
lemma lookup_initScopes (rep : ReplicationProperty) :
    ∀ scope (st : ScopeState α String), (initScopes rep).1.lookup scope = some st →
      scope ∈ replicationScopes ∧ st = { replication := rep.getReplication scope } ∧
        rep.getReplication scope ≠ 0 := by
  unfold initScopes
  refine foldl_invariant (fun acc : AList (fun _ : NodeLocationScope => ScopeState α String) × Nat =>
      ∀ scope st, acc.1.lookup scope = some st →
        scope ∈ replicationScopes ∧ st = { replication := rep.getReplication scope } ∧
          rep.getReplication scope ≠ 0) _ _ (fun acc scope hscope hacc => ?_) _
    (fun _ _ h => by simp at h)
  dsimp only
  split_ifs with hr
  · intro scope' st' h'
    by_cases hs : scope' = scope
    · subst hs
      rw [AList.lookup_insert, Option.some_inj] at h'
      exact ⟨List.mem_reverse.mp hscope, h'.symm, hr.1⟩
    · rw [AList.lookup_insert_ne hs] at h'
      exact hacc scope' st' h'
  · exact hacc

/-- The `SHARD` scope's factor is one of those given, or none is. -/
lemma initScopes_snd (rep : ReplicationProperty) :
    (initScopes rep : AList (fun _ : NodeLocationScope => ScopeState α String) × Nat).2 = 0 ∨
      ∃ scope ∈ replicationScopes,
        (initScopes rep : AList (fun _ : NodeLocationScope => ScopeState α String) × Nat).2 =
          rep.getReplication scope := by
  unfold initScopes
  refine foldl_invariant (fun acc : AList (fun _ : NodeLocationScope => ScopeState α String) × Nat =>
      acc.2 = 0 ∨ ∃ scope ∈ replicationScopes, acc.2 = rep.getReplication scope) _ _
    (fun acc scope hscope hacc => ?_) _ (.inl rfl)
  dsimp only
  split_ifs
  · exact .inr ⟨scope, List.mem_reverse.mp hscope, rfl⟩
  · exact hacc

/-- The `SHARD` scope's factor is the largest one given: the constructor's loop keeps a running
maximum of the factors. -/
lemma le_initScopes_snd (rep : ReplicationProperty) :
    ∀ scope ∈ replicationScopes, rep.getReplication scope ≤
      (initScopes rep : AList (fun _ : NodeLocationScope => ScopeState α String) × Nat).2 := by
  intro scope hscope
  unfold initScopes
  refine foldl_ge_of_step Prod.snd rep.getReplication _ (fun acc s => ?_) (fun acc s => ?_) _ _
    scope (List.mem_reverse.mpr hscope)
  · dsimp only
    split_ifs with h
    · exact le_of_lt h.2
    · exact le_rfl
  · dsimp only
    split_ifs with h
    · exact le_rfl
    · omega

/-- The node set while the constructor fills it: every shard is fully authoritative and none has
an attribute. -/
structure Fresh (n : FailureDomainNodeSet α) : Prop where
  status : ∀ y, n.getShardAuthoritativeStatus y = .FULLY_AUTHORITATIVE
  attr : ∀ y, n.getShardAttribute y = none

lemma shards_addShard : (n.addShard x nc).shards = insert x n.shards :=
  Finmap.keys_insert _ _

lemma Fresh.addShard (hf : n.Fresh) (x : ShardID) (nc : NodesConfiguration) :
    (n.addShard x nc).Fresh where
  status y := by
    show ((n.shard_authoritative_.insert x _).lookup y).getD _ = _
    rw [Finmap.getD_lookup_insert]
    split_ifs
    · rfl
    · exact hf.status y
  attr := hf.attr

/-- A shard not yet in the node set joins it: `addShard` keeps the counters in agreement while
the node set is built. -/
lemma Consistent.addShard (hc : n.Consistent) (hf : n.Fresh) (hx : x ∉ n.shards)
    (nc : NodesConfiguration) : (n.addShard x nc).Consistent := by
  have hstatus : (n.addShard x nc).getShardAuthoritativeStatus = n.getShardAuthoritativeStatus :=
    funext fun y => ((hf.addShard x nc).status y).trans (hf.status y).symm
  have hattr : (n.addShard x nc).getShardAttribute = n.getShardAttribute := rfl
  -- no shard is empty while the node set is built
  have hempty : ∀ y ∈ insert x n.shards,
      n.getShardAuthoritativeStatus y ≠ .AUTHORITATIVE_EMPTY := fun y _ => by
    rw [hf.status y]
    decide
  refine ⟨?_, ?_, fun st => ?_, fun a => ?_⟩
  · rw [shards_addShard, hstatus, hattr]
    refine ⟨hc.scopes.1.addShardToScope hx hempty (hf.attr x) x, fun scope st hst => ?_⟩
    change (n.scopes_.mapVal _).lookup scope = some st at hst
    rw [AList.lookup_mapVal, Option.map_eq_some_iff] at hst
    obtain ⟨st₀, h₀, rfl⟩ := hst
    have h := hc.scopes.2 scope st₀ h₀
    -- a node with no location at the scope leaves its shard out of it
    cases hd : domainName nc x scope with
    | none =>
      dsimp only
      exact h.insert_of_lookup_eq_none hx
    | some d =>
      dsimp only
      exact h.addShardToScope hx hempty (hf.attr x) d
  · intro y a hy
    rw [hattr, hf.attr y] at hy
    cases hy
  · change Function.update n.authoritative_count_ .FULLY_AUTHORITATIVE
      (n.authoritative_count_ .FULLY_AUTHORITATIVE + 1) st = _
    rw [shards_addShard, hstatus, Count.card_filter_insert hx, ← hc.authoritative_count,
      hf.status x, Function.update_apply]
    by_cases h : st = .FULLY_AUTHORITATIVE
    · simp [h]
    · simp [h, Ne.symm h]
  · change (n.attribute_count_.lookup a).getD 0 = _
    rw [shards_addShard, hattr, Count.card_filter_insert hx, hf.attr x, hc.attribute_count]
    simp

/-- `addShard` puts a new shard in its domain at every scope. -/
lemma Placed.addShard (h : n.Placed nc rep) (hc : n.Consistent) (hx : x ∉ n.shards) :
    (n.addShard x nc).Placed nc rep := by
  refine ⟨fun y hy => ?_, h.shard_replication, h.le_shard_replication, fun scope st hst => ?_⟩
  · change (n.shard_scope_.shard_map.insert x x).lookup y = some y
    rw [Finmap.lookup_insert_eq_ite]
    split_ifs with hyx
    · rw [hyx]
    · rw [shards_addShard, Finset.mem_insert] at hy
      exact h.shard_map y (hy.resolve_left hyx)
  · change (n.scopes_.mapVal _).lookup scope = some st at hst
    rw [AList.lookup_mapVal, Option.map_eq_some_iff] at hst
    obtain ⟨st₀, h₀, rfl⟩ := hst
    obtain ⟨hmem, hrep, hpos, hmap⟩ := h.scopes scope st₀ h₀
    have hnone := (hc.scopes.2 scope st₀ h₀).lookup_eq_none hx
    rw [shards_addShard]
    cases hd : domainName nc x scope with
    | none =>
      dsimp only
      refine ⟨hmem, hrep, hpos, fun y hy => ?_⟩
      rcases Finset.mem_insert.mp hy with rfl | hy
      · rw [hnone, hd]
      · exact hmap y hy
    | some d =>
      dsimp only
      refine ⟨hmem, hrep, hpos, fun y hy => ?_⟩
      rw [ScopeState.addShardToScope_shard_map, Finmap.lookup_insert_eq_ite]
      split_ifs with hyx
      · rw [hyx, hd]
      · exact hmap y ((Finset.mem_insert.mp hy).resolve_left hyx)

/-- The constructor's loop over the shards, from a node set being built that has none of them. -/
lemma foldl_addShard : ∀ (l : List ShardID) (n : FailureDomainNodeSet α), l.Nodup →
    (∀ x ∈ l, x ∉ n.shards) → n.Consistent → n.Fresh → n.Placed nc rep →
    let n' := l.foldl (fun n shard => n.addShard shard nc) n
    n'.Consistent ∧ n'.Fresh ∧ n'.Placed nc rep
  | [], _, _, _, hc, hf, hp => ⟨hc, hf, hp⟩
  | x :: l, n, hnd, hout, hc, hf, hp => by
    rw [List.nodup_cons] at hnd
    have hx := hout x List.mem_cons_self
    refine foldl_addShard l (n.addShard x nc) hnd.2 (fun y hy => ?_) (hc.addShard hf hx nc)
      (hf.addShard x nc) (hp.addShard hc hx)
    rw [shards_addShard, Finset.mem_insert, not_or]
    exact ⟨fun hyx => hnd.1 (hyx ▸ hy), hout y (List.mem_cons_of_mem x hy)⟩

/-- The constructor is its loop over the shards, from the scopes `initScopes` keeps. -/
lemma create_eq_foldl (storage_set : List ShardID) :
    (create storage_set nc rep : FailureDomainNodeSet α) =
      (nc.getStorageMembership.readerView storage_set).foldl (fun n shard => n.addShard shard nc)
        { scopes_ := (initScopes rep).1
          shard_scope_ := { replication :=
            (initScopes rep : AList (fun _ : NodeLocationScope => ScopeState α String) × Nat).2 } } :=
  rfl

/-- The constructor builds a node set whose counters agree with its shards, each fully
authoritative, with no attribute and placed in its domains, from a storage set without repeated
shards. -/
theorem create_consistent_fresh_placed {storage_set : List ShardID} (hnodup : storage_set.Nodup) :
    (create storage_set nc rep : FailureDomainNodeSet α).Consistent ∧
      (create storage_set nc rep : FailureDomainNodeSet α).Fresh ∧
      (create storage_set nc rep : FailureDomainNodeSet α).Placed nc rep := by
  set n₀ : FailureDomainNodeSet α :=
    { scopes_ := (initScopes rep).1
      shard_scope_ := { replication :=
        (initScopes rep : AList (fun _ : NodeLocationScope => ScopeState α String) × Nat).2 } }
  -- the node set before any shard
  have hshards₀ : n₀.shards = ∅ := Finmap.keys_empty
  have hattr₀ : ∀ y, n₀.getShardAttribute y = none := fun y => Finmap.lookup_empty y
  have hc₀ : n₀.Consistent := by
    refine ⟨?_, fun y a h => ?_, fun st => ?_, fun a => ?_⟩
    · rw [hshards₀]
      refine ⟨ScopeState.counts_empty _ _ _, fun scope st hst => ?_⟩
      rw [(lookup_initScopes rep scope st hst).2.1]
      exact ScopeState.counts_empty _ _ _
    · rw [hattr₀] at h
      cases h
    · rw [hshards₀]
      rfl
    · rw [hshards₀]
      rfl
  have hp₀ : n₀.Placed nc rep := by
    refine ⟨fun y hy => ?_, initScopes_snd rep, le_initScopes_snd rep, fun scope st hst => ?_⟩
    · rw [hshards₀] at hy
      cases hy
    · obtain ⟨hmem, rfl, hpos⟩ := lookup_initScopes rep scope st hst
      refine ⟨hmem, rfl, hpos, fun y hy => ?_⟩
      rw [hshards₀] at hy
      cases hy
  have hcreate : (create storage_set nc rep : FailureDomainNodeSet α) = _ :=
    create_eq_foldl storage_set
  rw [hcreate]
  exact foldl_addShard _ n₀ (hnodup.filter _)
    (fun y _ => by rw [hshards₀]; exact Finset.notMem_empty y) hc₀ ⟨fun _ => rfl, hattr₀⟩ hp₀

/-- The constructor builds a node set whose counters agree with its shards, each placed in its
domains, from a storage set without repeated shards. -/
theorem create_consistent_placed {storage_set : List ShardID} (hnodup : storage_set.Nodup) :
    (create storage_set nc rep : FailureDomainNodeSet α).Consistent ∧
      (create storage_set nc rep : FailureDomainNodeSet α).Placed nc rep := by
  have h : (create storage_set nc rep : FailureDomainNodeSet α).Consistent ∧
      (create storage_set nc rep : FailureDomainNodeSet α).Fresh ∧
      (create storage_set nc rep : FailureDomainNodeSet α).Placed nc rep :=
    create_consistent_fresh_placed hnodup
  exact ⟨h.1, h.2.2⟩

end FailureDomainNodeSet

end LogDevice.FailureDomain
