import LogDevice.FailureDomain.Fmajority

/-!
# The aggregates over the domains agree with the shards

`checkConsistencyAtScope` recomputes the counters of a scope from its shards in two steps: per
domain, the counts that `ScopeState.Counts` states, and then over the domains, the number of
empty domains, the complete domains per attribute (`n_full`) and the domains that hold each
attribute (`replicate_set`). `ScopeState.Aggregated` is the second step, stated over the
per-domain counters. Every operation at a scope keeps it (`Aggregated.addAttrAtScope`,
`Aggregated.removeAttrAtScope`, `Aggregated.setShardAuthoritativeStatusAtScope`,
`Aggregated.resetAttributeCountersAtScope`), the constructor starts from it, and with `Counts` it
says what the source's check compares (`Counts.recounted`).

The overloads that take an attribute value read `n_full` and `replicate_set` in constant time;
where the aggregates agree they answer as the predicate overloads do for `(· == a)`
(`countCompleteDomains_value`, `canReplicateAtScope_value`).
-/

namespace LogDevice.FailureDomain

open LogDevice.Configuration LogDevice.Lib

set_option linter.unusedSectionVars false

variable {α δ : Type} [DecidableEq α] [DecidableEq δ]

section Counters

variable {κ : Type} [DecidableEq κ]

/-- A map of counters stores no zero: a counter that drops to zero is erased, as the source's
maps keep no key with nothing counted. -/
def NoZero (m : AList (fun _ : κ => Nat)) : Prop :=
  ∀ k v, m.lookup k = some v → 0 < v

lemma NoZero.empty : NoZero (∅ : AList (fun _ : κ => Nat)) :=
  fun _ _ h => by simp at h

lemma NoZero.incr {m : AList (fun _ : κ => Nat)} (hm : NoZero m) (k : κ) :
    NoZero (incr m k) := by
  intro k' v hv
  unfold FailureDomain.incr at hv
  by_cases hk : k' = k
  · subst hk
    rw [AList.lookup_insert, Option.some_inj] at hv
    omega
  · rw [AList.lookup_insert_ne hk] at hv
    exact hm k' v hv

lemma NoZero.decrErase {m : AList (fun _ : κ => Nat)} (hm : NoZero m) (k : κ) :
    NoZero (decrErase m k) := by
  intro k' v hv
  unfold FailureDomain.decrErase at hv
  dsimp only at hv
  split_ifs at hv with h0
  · -- the counter reached zero and its key went
    by_cases hk : k' = k
    · subst hk
      rw [AList.lookup_erase] at hv
      cases hv
    · rw [AList.lookup_erase_ne hk] at hv
      exact hm k' v hv
  · by_cases hk : k' = k
    · subst hk
      rw [AList.lookup_insert, Option.some_inj] at hv
      omega
    · rw [AList.lookup_insert_ne hk] at hv
      exact hm k' v hv

end Counters

/-- Whether a domain is complete for an attribute depends on the attribute's fully authoritative
shards, the domain's shards and its empty shards only. -/
lemma domainIsComplete_congr {fd fd' : FailureDomainState α} {a : α}
    (hc : (fd'.count a).full_only = (fd.count a).full_only) (hs : fd'.n_shards = fd.n_shards)
    (he : fd'.n_empty = fd.n_empty) : domainIsComplete fd' a = domainIsComplete fd a := by
  unfold domainIsComplete
  rw [hc, hs, he]

/-- A domain with fewer fully authoritative and empty shards than shards is not complete. -/
lemma domainIsComplete_of_lt {fd : FailureDomainState α} {a : α}
    (h : (fd.count a).full_only + fd.n_empty < fd.n_shards) : domainIsComplete fd a = false := by
  unfold domainIsComplete
  simp only [Bool.and_eq_false_iff, decide_eq_false_iff_not, beq_eq_false_iff_ne]
  exact .inr (by omega)

/-- A domain with no fully authoritative shard of the attribute is not complete for it. -/
lemma domainIsComplete_of_full_only_eq_zero {fd : FailureDomainState α} {a : α}
    (h : (fd.count a).full_only = 0) : domainIsComplete fd a = false := by
  simp [domainIsComplete, h]

namespace ScopeState

/-- The inner loop of `countCompleteDomains` for the predicate `(· == a)` reads the counter of
`a` alone. -/
lemma numFull_beq (fd : FailureDomainState α) (a : α) :
    numFull (· == a) fd = (fd.count a).full_only := by
  unfold numFull
  rw [foldl_add_ite, Nat.zero_add,
    AList.sum_entries {} fun a' (c : Count) => if a' == a then c.full_only else 0]
  simp only [beq_iff_eq]
  rw [Finset.sum_ite_eq']
  split_ifs with ha
  · rfl
  · -- no counter for `a`: it reads as zero
    rw [List.mem_toFinset, ← AList.mem_keys, ← AList.lookup_eq_none] at ha
    simp [FailureDomainState.count, ha]

/-- A domain is complete for an attribute, as `checkConsistencyAtScope` recounts it from the
shards: it has a fully authoritative shard with the attribute, and every shard of it that is not
empty is one. -/
def CompleteFor (scope : ScopeState α δ) (shards : Finset ShardID)
    (status : ShardID → AuthoritativeStatus) (attr : ShardID → Option α) (d : δ) (a : α) :
    Prop :=
  (∃ x ∈ shards, scope.shard_map.lookup x = some d ∧ attr x = some a ∧
      isFully (status x) = true) ∧
    ∀ x ∈ shards, scope.shard_map.lookup x = some d → status x ≠ .AUTHORITATIVE_EMPTY →
      attr x = some a ∧ isFully (status x) = true

instance (scope : ScopeState α δ) (shards : Finset ShardID)
    (status : ShardID → AuthoritativeStatus) (attr : ShardID → Option α) (d : δ) (a : α) :
    Decidable (scope.CompleteFor shards status attr d a) :=
  inferInstanceAs (Decidable (_ ∧ _))

/-- Step 2 of `checkConsistencyAtScope`, over the per-domain counters: `n_full` counts the
complete domains of each attribute, and `replicate_set` lists, without repetition, the domains
with a shard of the attribute, keeping no empty list. -/
structure Aggregated (scope : ScopeState α δ) : Prop where
  n_full : ∀ a, (scope.n_full.lookup a).getD 0 =
    (scope.domains.keys.toFinset.filter fun d => domainIsComplete (scope.domain d) a = true).card
  replicate_set : ∀ a d, d ∈ (scope.replicate_set.lookup a).getD [] ↔
    d ∈ scope.domains.keys.toFinset ∧ 0 < ((scope.domain d).count a).all
  nodup : ∀ a, ((scope.replicate_set.lookup a).getD []).Nodup
  ne_nil : ∀ a fds, scope.replicate_set.lookup a = some fds → fds ≠ []
  n_full_pos : NoZero scope.n_full

/-- The domains with an attribute, as the source's check collects them: the completeness of
each domain and the shards of each attribute are recounted from the shards. -/
structure Recounted (scope : ScopeState α δ) (shards : Finset ShardID)
    (status : ShardID → AuthoritativeStatus) (attr : ShardID → Option α) : Prop where
  counts : scope.Counts shards status attr
  n_full : ∀ a, (scope.n_full.lookup a).getD 0 =
    (scope.domains.keys.toFinset.filter fun d => scope.CompleteFor shards status attr d a).card
  replicate_set : ∀ a d, d ∈ (scope.replicate_set.lookup a).getD [] ↔
    ∃ x ∈ shards, scope.shard_map.lookup x = some d ∧ attr x = some a
  nodup : ∀ a, ((scope.replicate_set.lookup a).getD []).Nodup
  ne_nil : ∀ a fds, scope.replicate_set.lookup a = some fds → fds ≠ []
  n_full_pos : NoZero scope.n_full

/-- A step that changes one domain `d₀` of a scope and keeps its domains moves the count of the
domains complete for an attribute by the change of that domain. -/
lemma card_complete_update {sc sc' : ScopeState α δ} {d₀ : δ}
    (hK : sc'.domains.keys.toFinset = sc.domains.keys.toFinset)
    (hd₀ : d₀ ∈ sc.domains.keys.toFinset) (hoff : ∀ d, d ≠ d₀ → sc'.domain d = sc.domain d)
    (a : α) :
    (sc'.domains.keys.toFinset.filter fun d => domainIsComplete (sc'.domain d) a = true).card +
        (if domainIsComplete (sc.domain d₀) a = true then 1 else 0) =
      (sc.domains.keys.toFinset.filter fun d => domainIsComplete (sc.domain d) a = true).card +
        (if domainIsComplete (sc'.domain d₀) a = true then 1 else 0) := by
  have hu := Count.card_filter_update (s := sc.domains.keys.toFinset)
    (p := fun d => domainIsComplete (sc.domain d) a = true)
    (q := fun d => domainIsComplete (sc'.domain d) a = true) d₀ (fun d _ hd => by rw [hoff d hd])
  rw [hK]
  simpa only [hd₀, true_and] using hu

variable {scope : ScopeState α δ} {shards : Finset ShardID}
  {status : ShardID → AuthoritativeStatus} {attr : ShardID → Option α} {x : ShardID}

namespace Counts

variable (h : scope.Counts shards status attr)
include h

/-- The shards of a domain are its fully authoritative shards with the attribute, its empty
shards, and the others. -/
lemma full_only_add_n_empty_add (d : δ) (a : α) :
    ((scope.domain d).count a).full_only + (scope.domain d).n_empty +
        (shards.filter fun x => scope.shard_map.lookup x = some d ∧
          status x ≠ .AUTHORITATIVE_EMPTY ∧ ¬ (attr x = some a ∧ isFully (status x) = true)).card =
      (scope.domain d).n_shards := by
  have h₁ := Finset.card_filter_add_card_filter_not
    (s := shards.filter fun x => scope.shard_map.lookup x = some d)
    (fun x => status x = .AUTHORITATIVE_EMPTY)
  have h₂ := Finset.card_filter_add_card_filter_not
    (s := shards.filter fun x => scope.shard_map.lookup x = some d ∧
      status x ≠ .AUTHORITATIVE_EMPTY)
    (fun x => attr x = some a ∧ isFully (status x) = true)
  simp only [Finset.filter_filter, ← ne_eq] at h₁ h₂
  -- a fully authoritative shard is not empty, so the first part of `h₂` is the counter's set
  have hfull : (shards.filter fun x => (scope.shard_map.lookup x = some d ∧
      status x ≠ .AUTHORITATIVE_EMPTY) ∧ attr x = some a ∧ isFully (status x) = true) =
      shards.filter fun x => scope.shard_map.lookup x = some d ∧ attr x = some a ∧
        isFully (status x) = true :=
    Finset.filter_congr fun y _ =>
      ⟨fun ⟨⟨hd, _⟩, ha⟩ => ⟨hd, ha⟩, fun ⟨hd, ha⟩ => ⟨⟨hd, ne_of_isFully ha.2⟩, ha⟩⟩
  have hbad : (shards.filter fun x => (scope.shard_map.lookup x = some d ∧
      status x ≠ .AUTHORITATIVE_EMPTY) ∧ ¬ (attr x = some a ∧ isFully (status x) = true)) =
      shards.filter fun x => scope.shard_map.lookup x = some d ∧
        status x ≠ .AUTHORITATIVE_EMPTY ∧ ¬ (attr x = some a ∧ isFully (status x) = true) :=
    Finset.filter_congr fun y _ => and_assoc
  rw [hfull, hbad] at h₂
  rw [h.full_only, h.n_empty, h.n_shards]
  omega

/-- The counters say a domain is complete exactly when the shards do. -/
lemma domainIsComplete_iff (d : δ) (a : α) :
    domainIsComplete (scope.domain d) a = true ↔ scope.CompleteFor shards status attr d a := by
  have hsum := h.full_only_add_n_empty_add d a
  have hex : 0 < ((scope.domain d).count a).full_only ↔ ∃ x ∈ shards,
      scope.shard_map.lookup x = some d ∧ attr x = some a ∧ isFully (status x) = true := by
    rw [h.full_only, Finset.card_pos, Finset.filter_nonempty_iff]
  have hbad : (shards.filter fun x => scope.shard_map.lookup x = some d ∧
      status x ≠ .AUTHORITATIVE_EMPTY ∧ ¬ (attr x = some a ∧ isFully (status x) = true)).card = 0 ↔
      ∀ x ∈ shards, scope.shard_map.lookup x = some d → status x ≠ .AUTHORITATIVE_EMPTY →
        attr x = some a ∧ isFully (status x) = true := by
    rw [Finset.card_eq_zero, Finset.filter_eq_empty_iff]
    exact forall₂_congr fun y _ => by tauto
  unfold domainIsComplete CompleteFor
  simp only [Bool.and_eq_true, decide_eq_true_eq, beq_iff_eq, gt_iff_lt]
  rw [← hex, ← hbad]
  omega

/-- A shard that is not empty and not fully authoritative with the attribute keeps its domain
from being complete for it. -/
lemma not_complete {d : δ} {a : α} (hx : x ∈ shards) (hd : scope.shard_map.lookup x = some d)
    (hne : status x ≠ .AUTHORITATIVE_EMPTY) (hnot : ¬ (attr x = some a ∧ isFully (status x) = true)) :
    domainIsComplete (scope.domain d) a = false :=
  Bool.eq_false_iff.mpr fun hc => hnot (((h.domainIsComplete_iff d a).mp hc).2 x hx hd hne)

/-- A domain holds a shard of the attribute exactly when its counter of the attribute is not
zero. -/
lemma all_pos_iff (d : δ) (a : α) : 0 < ((scope.domain d).count a).all ↔
    ∃ x ∈ shards, scope.shard_map.lookup x = some d ∧ attr x = some a := by
  rw [h.all, Finset.card_pos, Finset.filter_nonempty_iff]

/-- For the predicate `(· == a)`, the domains `countCompleteDomains` counts are those the
counters of `a` say are complete. -/
lemma completeDomains_beq (a : α) :
    scope.completeDomains (· == a) =
      scope.domains.keys.toFinset.filter fun d => domainIsComplete (scope.domain d) a = true := by
  refine Finset.filter_congr fun d _ => ?_
  have hle := h.numFull_le (· == a) d
  rw [numFull_beq] at hle ⊢
  unfold domainIsComplete
  simp only [Bool.and_eq_true, decide_eq_true_eq, beq_iff_eq, gt_iff_lt, ge_iff_le]
  omega

/-- With the per-domain counters right, step 2 of the check over them is the check over the
shards. -/
lemma recounted (hagg : scope.Aggregated) : scope.Recounted shards status attr where
  counts := h
  n_full a := by
    rw [hagg.n_full a]
    congr 1
    exact Finset.filter_congr fun d _ => h.domainIsComplete_iff d a
  replicate_set a d := by
    rw [hagg.replicate_set a d, h.all_pos_iff d a]
    constructor
    · exact fun hd => hd.2
    · rintro ⟨y, hy, hyd, hya⟩
      exact ⟨(h.mem_domains d).mpr ⟨y, hyd⟩, y, hy, hyd, hya⟩
  nodup := hagg.nodup
  ne_nil := hagg.ne_nil
  n_full_pos := hagg.n_full_pos

end Counts

/-- What the first loop of `setShardAuthoritativeStatusAtScope` records of an attribute: whether
the domain was complete for it. -/
lemma getD_lookup_wasComplete (fd : FailureDomainState α) (a : α) :
    ((wasComplete fd).lookup a).getD false = domainIsComplete fd a := by
  have hfold : wasComplete fd = fd.shards_attr.keys.foldl
      (fun was_complete k => was_complete.insert k (domainIsComplete fd k)) ∅ := by
    unfold wasComplete
    rw [AList.keys, List.keys, List.foldl_map]
  rw [hfold, foldl_update (fun (m : AList fun _ : α => Bool) k => (m.lookup k).getD false) _
    (fun k _ => domainIsComplete fd k) (fun m k => by rw [AList.getD_lookup_insert, if_pos rfl])
    (fun m k k' hk => by rw [AList.getD_lookup_insert, if_neg hk]) _ fd.shards_attr.keys_nodup]
  split_ifs with ha
  · rfl
  · -- the domain keeps no counter for the attribute: it reads as zero
    rw [← AList.mem_keys, ← AList.lookup_eq_none] at ha
    rw [domainIsComplete_of_full_only_eq_zero (by simp [FailureDomainState.count, ha])]
    rfl

/-- The second loop of `setShardAuthoritativeStatusAtScope`, over the attributes of the domain. -/
lemma updateFull_eq_foldl (n_full : AList (fun _ : α => Nat))
    (was_complete : AList (fun _ : α => Bool)) (fd : FailureDomainState α) :
    updateFull n_full was_complete fd = fd.shards_attr.keys.foldl
      (fun m k =>
        if (was_complete.lookup k).getD false && !domainIsComplete fd k then decrErase m k
        else if !(was_complete.lookup k).getD false && domainIsComplete fd k then incr m k
        else m) n_full := by
  unfold updateFull
  rw [AList.keys, List.keys, List.foldl_map]

/-- The second loop of `setShardAuthoritativeStatusAtScope` stores no zero. -/
lemma NoZero.updateFull {n_full : AList (fun _ : α => Nat)} (h : NoZero n_full)
    (was_complete : AList (fun _ : α => Bool)) (fd : FailureDomainState α) :
    NoZero (updateFull n_full was_complete fd) := by
  rw [updateFull_eq_foldl]
  refine foldl_invariant NoZero _ _ (fun m k _ hm => ?_) _ h
  split_ifs
  · exact hm.decrErase k
  · exact hm.incr k
  · exact hm

/-- The second loop of `setShardAuthoritativeStatusAtScope` moves the counter of each attribute
of the domain on its own. -/
lemma getD_lookup_updateFull (n_full : AList (fun _ : α => Nat))
    (was_complete : AList (fun _ : α => Bool)) (fd : FailureDomainState α) (a : α) :
    ((updateFull n_full was_complete fd).lookup a).getD 0 =
      if a ∈ fd.shards_attr.keys then
        if (was_complete.lookup a).getD false && !domainIsComplete fd a then
          (n_full.lookup a).getD 0 - 1
        else if !(was_complete.lookup a).getD false && domainIsComplete fd a then
          (n_full.lookup a).getD 0 + 1
        else (n_full.lookup a).getD 0
      else (n_full.lookup a).getD 0 := by
  rw [updateFull_eq_foldl, foldl_update (fun (m : AList fun _ : α => Nat) k => (m.lookup k).getD 0) _
    (fun k v =>
      if (was_complete.lookup k).getD false && !domainIsComplete fd k then v - 1
      else if !(was_complete.lookup k).getD false && domainIsComplete fd k then v + 1 else v)
    (fun m k => by split_ifs <;> simp)
    (fun m k k' hk => by split_ifs <;> simp [hk]) _ fd.shards_attr.keys_nodup]

/-- The merging loop of `canReplicateAtScope`, over domains without repeats and not yet seen,
answers whether it has any and, with those seen, at least `replication` domains. -/
lemma replicateFrom_eq (r : Nat) : ∀ (l set : List δ), l.Nodup → (∀ d ∈ l, d ∉ set) →
    replicateFrom r l set = decide (l ≠ [] ∧ r ≤ set.length + l.length)
  | [], set, _, _ => by simp [replicateFrom]
  | d :: l, set, hnd, hout => by
    rw [List.nodup_cons] at hnd
    unfold replicateFrom
    rw [List.insert_of_not_mem (hout d List.mem_cons_self)]
    dsimp only
    split_ifs with hr
    · -- the early return
      simp only [List.length_cons] at hr
      refine (decide_eq_true ⟨List.cons_ne_nil d l, ?_⟩).symm
      rw [List.length_cons]
      omega
    · -- every domain of the list is new to the merged set
      have hout' : ∀ d' ∈ l, d' ∉ d :: set := fun d' hd' hmem => by
        rcases List.mem_cons.mp hmem with rfl | hmem
        · exact hnd.1 hd'
        · exact hout d' (List.mem_cons_of_mem d hd') hmem
      rw [replicateFrom_eq r l (d :: set) hnd.2 hout', decide_eq_decide]
      simp only [List.length_cons] at hr ⊢
      cases l with
      | nil =>
        simp only [ne_eq, not_true_eq_false, false_and, false_iff, not_and]
        intro _
        simp only [List.length_nil]
        omega
      | cons d' l =>
        simp only [List.length_cons, ne_eq, reduceCtorEq, not_false_eq_true, true_and]
        omega

namespace Aggregated

/-- A scope none of whose shards has an attribute, with nothing aggregated: the constructor's
scopes. -/
lemma of_no_attr (h : scope.Counts shards status attr) (hnone : ∀ y, attr y = none)
    (hn : scope.n_full = ∅) (hr : scope.replicate_set = ∅) : scope.Aggregated := by
  have hall : ∀ d a, ((scope.domain d).count a).all = 0 := fun d a => by
    rw [h.all]
    simp [hnone]
  have hfull : ∀ d a, ((scope.domain d).count a).full_only = 0 := fun d a => by
    rw [h.full_only]
    simp [hnone]
  refine ⟨fun a => ?_, fun a d => ?_, fun a => ?_, fun a fds hfds => ?_, ?_⟩
  · rw [hn, Finset.filter_false_of_mem fun d _ => by
      rw [domainIsComplete_of_full_only_eq_zero (hfull d a)]
      decide]
    rfl
  · rw [hr, hall]
    simp
  · rw [hr]
    exact List.nodup_nil
  · rw [hr] at hfds
    simp at hfds
  · rw [hn]
    exact NoZero.empty

/-- A shard of the scope with no attribute takes the attribute `a`: `addAttr` at one scope. -/
lemma addAttrAtScope (hagg : scope.Aggregated) (h : scope.Counts shards status attr)
    (hx : x ∈ shards) (hattr : attr x = none) (a : α) :
    (scope.addAttrAtScope x a (status x)).Aggregated := by
  cases hl : scope.shard_map.lookup x with
  | none =>
    rw [addAttrAtScope_of_lookup_eq_none hl]
    exact hagg
  | some d₀ =>
    have hd₀ : d₀ ∈ scope.domains.keys.toFinset := (h.mem_domains d₀).mpr ⟨x, hl⟩
    have hK : (scope.addAttrAtScope x a (status x)).domains.keys.toFinset =
        scope.domains.keys.toFinset := by
      rw [addAttrAtScope_keys hl, Finset.insert_eq_of_mem hd₀]
    have hoff : ∀ d, d ≠ d₀ → (scope.addAttrAtScope x a (status x)).domain d = scope.domain d :=
      fun d hd => by rw [addAttrAtScope_domain hl, if_neg hd]
    -- the completeness of `d₀` moves only for `a`, and only when the shard is fully
    -- authoritative
    have hsame : ∀ a', (a' ≠ a ∨ isFully (status x) = false) →
        domainIsComplete ((scope.addAttrAtScope x a (status x)).domain d₀) a' =
          domainIsComplete (scope.domain d₀) a' := by
      intro a' ha'
      refine domainIsComplete_congr ?_ (addAttrAtScope_domain_n_shards d₀)
        (addAttrAtScope_domain_n_empty d₀)
      rw [addAttrAtScope_domain_count hl]
      by_cases hc : a' = a
      · rcases ha' with ha' | ha'
        · exact absurd hc ha'
        · simp [hc, ha']
      · simp [hc]
    -- the shard has no attribute, so `d₀` was not complete for `a` if the shard is not empty
    have hold : isFully (status x) = true → domainIsComplete (scope.domain d₀) a = false :=
      fun hf => h.not_complete hx hl (ne_of_isFully hf) (by simp [hattr])
    refine ⟨fun a' => ?_, fun a' d => ?_, fun a' => ?_, fun a' fds hfds => ?_, ?_⟩
    · have hu := card_complete_update hK hd₀ hoff a'
      rw [addAttrAtScope_n_full hl]
      by_cases hfa : (isFully (status x) && domainIsComplete
          ((scope.addAttrAtScope x a (status x)).domain d₀) a) = true
      · -- the domain becomes complete for `a`
        rw [if_pos hfa, getD_lookup_incr, hagg.n_full]
        rw [Bool.and_eq_true] at hfa
        by_cases ha : a' = a
        · subst ha
          rw [hold hfa.1, hfa.2] at hu
          simp only [Bool.false_eq_true, if_false, if_true, Nat.add_zero] at hu
          rw [if_pos rfl]
          omega
        · rw [hsame a' (.inl ha)] at hu
          rw [if_neg ha]
          omega
      · -- no domain changes its completeness
        rw [if_neg hfa, hagg.n_full]
        have hd : domainIsComplete ((scope.addAttrAtScope x a (status x)).domain d₀) a' =
            domainIsComplete (scope.domain d₀) a' := by
          by_cases ha : a' = a
          · subst ha
            cases hf : isFully (status x)
            · exact hsame a' (.inr hf)
            · rw [hf, Bool.true_and, Bool.not_eq_true] at hfa
              rw [hfa, hold hf]
          · exact hsame a' (.inl ha)
        rw [hd] at hu
        omega
    · -- the domain joins the attribute's domains with its first shard of it
      have hmem := hagg.replicate_set a' d
      rw [addAttrAtScope_replicate_set hl, hK, addAttrAtScope_domain_count hl]
      by_cases ha : a' = a
      · subst ha
        by_cases h0 : ((scope.domain d₀).count a').all = 0
        · rw [if_pos h0, AList.getD_lookup_insert, if_pos rfl, List.mem_insert_iff, hmem]
          by_cases hd : d = d₀
          · subst hd
            simp [hd₀]
          · simp [hd]
        · rw [if_neg h0, hmem]
          by_cases hd : d = d₀
          · subst hd
            simp only [hd₀, true_and, and_self, if_true]
            omega
          · simp [hd]
      · have hne : ¬ (d = d₀ ∧ a' = a) := fun hc => ha hc.2
        rw [if_neg hne]
        split_ifs
        · rw [AList.getD_lookup_insert, if_neg ha, hmem]
        · exact hmem
    · rw [addAttrAtScope_replicate_set hl]
      split_ifs
      · rw [AList.getD_lookup_insert]
        split_ifs with ha
        · subst ha
          exact (hagg.nodup a').insert
        · exact hagg.nodup a'
      · exact hagg.nodup a'
    · rw [addAttrAtScope_replicate_set hl] at hfds
      split_ifs at hfds
      · by_cases ha : a' = a
        · subst ha
          rw [AList.lookup_insert, Option.some_inj] at hfds
          subst hfds
          exact List.ne_nil_of_mem List.mem_insert_self
        · rw [AList.lookup_insert_ne ha] at hfds
          exact hagg.ne_nil a' fds hfds
      · exact hagg.ne_nil a' fds hfds
    · rw [addAttrAtScope_n_full hl]
      split_ifs
      · exact hagg.n_full_pos.incr a
      · exact hagg.n_full_pos

/-- A shard of the scope with the attribute `a` loses it: `removeAttr` at one scope. -/
lemma removeAttrAtScope (hagg : scope.Aggregated) (h : scope.Counts shards status attr)
    (hx : x ∈ shards) {a : α} (hattr : attr x = some a) :
    (scope.removeAttrAtScope x a (status x)).Aggregated := by
  cases hl : scope.shard_map.lookup x with
  | none =>
    rw [removeAttrAtScope_of_lookup_eq_none hl]
    exact hagg
  | some d₀ =>
    have hd₀ : d₀ ∈ scope.domains.keys.toFinset := (h.mem_domains d₀).mpr ⟨x, hl⟩
    have hK : (scope.removeAttrAtScope x a (status x)).domains.keys.toFinset =
        scope.domains.keys.toFinset := by
      rw [removeAttrAtScope_keys hl, Finset.insert_eq_of_mem hd₀]
    have hoff : ∀ d, d ≠ d₀ →
        (scope.removeAttrAtScope x a (status x)).domain d = scope.domain d :=
      fun d hd => by rw [removeAttrAtScope_domain hl, if_neg hd]
    have hsame : ∀ a', a' ≠ a →
        domainIsComplete ((scope.removeAttrAtScope x a (status x)).domain d₀) a' =
          domainIsComplete (scope.domain d₀) a' := by
      intro a' ha'
      refine domainIsComplete_congr ?_ (removeAttrAtScope_domain_n_shards d₀)
        (removeAttrAtScope_domain_n_empty d₀)
      rw [removeAttrAtScope_domain_count hl]
      simp [ha']
    have hsum := h.full_only_add_n_empty_add d₀ a
    have hadd := h.full_only_add d₀ a
    -- a fully authoritative shard that leaves `a` takes `d₀` out of the complete domains of `a`
    have hnew : isFully (status x) = true →
        domainIsComplete ((scope.removeAttrAtScope x a (status x)).domain d₀) a = false := by
      intro hf
      have hpos : 0 < ((scope.domain d₀).count a).full_only := by
        rw [h.full_only]
        exact Finset.card_pos.mpr ⟨x, Finset.mem_filter.mpr ⟨hx, hl, hattr, hf⟩⟩
      by_cases h0 : ((scope.domain d₀).count a).all - 1 = 0
      · refine domainIsComplete_of_full_only_eq_zero ?_
        rw [removeAttrAtScope_domain_count hl, if_pos ⟨rfl, rfl⟩, if_pos h0]
      · refine domainIsComplete_of_lt ?_
        rw [removeAttrAtScope_domain_count hl, if_pos ⟨rfl, rfl⟩, if_neg h0,
          removeAttrAtScope_domain_n_shards, removeAttrAtScope_domain_n_empty, hf, if_pos rfl]
        dsimp only
        omega
    -- one that is not fully authoritative leaves the completeness of `d₀` for `a` as it was:
    -- when it was the last shard with `a`, the domain was not complete before either
    have hkeep : isFully (status x) = false →
        domainIsComplete ((scope.removeAttrAtScope x a (status x)).domain d₀) a =
          domainIsComplete (scope.domain d₀) a := by
      intro hf
      by_cases h0 : ((scope.domain d₀).count a).all - 1 = 0
      · have hbad : 0 < (shards.filter fun y => scope.shard_map.lookup y = some d₀ ∧
            attr y = some a ∧ isFully (status y) = false).card :=
          Finset.card_pos.mpr ⟨x, Finset.mem_filter.mpr ⟨hx, hl, hattr, hf⟩⟩
        have hold : domainIsComplete (scope.domain d₀) a = false :=
          domainIsComplete_of_full_only_eq_zero (by omega)
        rw [hold]
        refine domainIsComplete_of_full_only_eq_zero ?_
        rw [removeAttrAtScope_domain_count hl, if_pos ⟨rfl, rfl⟩, if_pos h0]
      · refine domainIsComplete_congr ?_ (removeAttrAtScope_domain_n_shards d₀)
          (removeAttrAtScope_domain_n_empty d₀)
        rw [removeAttrAtScope_domain_count hl, if_pos ⟨rfl, rfl⟩, if_neg h0, hf]
        rfl
    refine ⟨fun a' => ?_, fun a' d => ?_, fun a' => ?_, fun a' fds hfds => ?_, ?_⟩
    · have hu := card_complete_update hK hd₀ hoff a'
      rw [removeAttrAtScope_n_full hl]
      by_cases ha : a' = a
      · subst ha
        cases hf : isFully (status x)
        · rw [hkeep hf] at hu
          rw [Bool.false_and, if_neg Bool.false_ne_true, hagg.n_full]
          omega
        · rw [hnew hf] at hu
          rw [Bool.true_and]
          by_cases ho : domainIsComplete (scope.domain d₀) a' = true
          · -- the domain stops being complete
            rw [if_pos ho, getD_lookup_decrErase, if_pos rfl, hagg.n_full]
            rw [if_pos ho] at hu
            simp only [Bool.false_eq_true, if_false, Nat.add_zero] at hu
            omega
          · rw [if_neg ho, hagg.n_full]
            rw [if_neg ho] at hu
            simp only [Bool.false_eq_true, if_false] at hu
            omega
      · rw [hsame a' ha] at hu
        split_ifs
        · rw [getD_lookup_decrErase, if_neg ha, Nat.sub_zero, hagg.n_full]
          omega
        · rw [hagg.n_full]
          omega
    · -- the domain leaves the attribute's domains with its last shard of it
      have hmem := hagg.replicate_set a' d
      rw [removeAttrAtScope_replicate_set hl, hK, removeAttrAtScope_domain_count hl]
      by_cases ha : a' = a
      · subst ha
        by_cases h0 : ((scope.domain d₀).count a').all - 1 = 0
        · have hone : 0 < ((scope.domain d₀).count a').all := (h.all_pos_iff d₀ a').mpr
            ⟨x, hx, hl, hattr⟩
          rw [if_pos h0]
          have herase : d ∈ ((scope.replicate_set.lookup a').getD []).erase d₀ ↔
              d ∈ (scope.replicate_set.lookup a').getD [] ∧ d ≠ d₀ := by
            rw [(hagg.nodup a').mem_erase_iff, and_comm]
          by_cases hE : (((scope.replicate_set.lookup a').getD []).erase d₀).isEmpty = true
          · rw [if_pos hE, AList.lookup_erase, Option.getD_none]
            rw [List.isEmpty_iff, List.eq_nil_iff_forall_not_mem] at hE
            have hE' := hE d
            rw [herase, hmem] at hE'
            by_cases hd : d = d₀
            · subst hd
              simp [h0]
            · simp only [hd, List.not_mem_nil, false_iff]
              tauto
          · rw [if_neg hE, AList.getD_lookup_insert, if_pos rfl, herase, hmem]
            by_cases hd : d = d₀
            · subst hd
              simp [h0]
            · simp [hd]
        · rw [if_neg h0, hmem]
          by_cases hd : d = d₀
          · subst hd
            simp only [hd₀, true_and, and_self, if_true, if_neg h0]
            omega
          · simp [hd]
      · have hne : ¬ (d = d₀ ∧ a' = a) := fun hc => ha hc.2
        rw [if_neg hne]
        split_ifs
        · rw [AList.lookup_erase_ne ha, hmem]
        · rw [AList.getD_lookup_insert, if_neg ha, hmem]
        · exact hmem
    · rw [removeAttrAtScope_replicate_set hl]
      split_ifs
      · by_cases ha : a' = a
        · subst ha
          rw [AList.lookup_erase, Option.getD_none]
          exact List.nodup_nil
        · rw [AList.lookup_erase_ne ha]
          exact hagg.nodup a'
      · rw [AList.getD_lookup_insert]
        split_ifs with ha
        · subst ha
          exact (hagg.nodup a').erase d₀
        · exact hagg.nodup a'
      · exact hagg.nodup a'
    · rw [removeAttrAtScope_replicate_set hl] at hfds
      split_ifs at hfds with h0 hE
      · by_cases ha : a' = a
        · subst ha
          rw [AList.lookup_erase] at hfds
          exact absurd hfds (by simp)
        · rw [AList.lookup_erase_ne ha] at hfds
          exact hagg.ne_nil a' fds hfds
      · by_cases ha : a' = a
        · subst ha
          rw [AList.lookup_insert, Option.some_inj] at hfds
          subst hfds
          rwa [Ne, ← List.isEmpty_iff]
        · rw [AList.lookup_insert_ne ha] at hfds
          exact hagg.ne_nil a' fds hfds
      · exact hagg.ne_nil a' fds hfds
    · rw [removeAttrAtScope_n_full hl]
      split_ifs
      · exact hagg.n_full_pos.decrErase a
      · exact hagg.n_full_pos

/-- A shard of the scope changes its authoritative status: the body of
`setShardAuthoritativeStatus` at one scope, whatever the statuses and the attribute. -/
lemma setShardAuthoritativeStatusAtScope (hagg : scope.Aggregated)
    (h : scope.Counts shards status attr) (prev s : AuthoritativeStatus) (o : Option α) :
    (scope.setShardAuthoritativeStatusAtScope x prev s o).Aggregated := by
  cases hl : scope.shard_map.lookup x with
  | none =>
    rw [setShardAuthoritativeStatusAtScope_of_lookup_eq_none o hl]
    exact hagg
  | some d₀ =>
    have hd₀ : d₀ ∈ scope.domains.keys.toFinset := (h.mem_domains d₀).mpr ⟨x, hl⟩
    have hK : (scope.setShardAuthoritativeStatusAtScope x prev s o).domains.keys.toFinset =
        scope.domains.keys.toFinset := by
      rw [setShardAuthoritativeStatusAtScope_keys o hl, Finset.insert_eq_of_mem hd₀]
    have hoff : ∀ d, d ≠ d₀ →
        (scope.setShardAuthoritativeStatusAtScope x prev s o).domain d = scope.domain d :=
      fun d hd => by rw [setShardAuthoritativeStatusAtScope_domain o hl, if_neg hd]
    have hd : (scope.setShardAuthoritativeStatusAtScope x prev s o).domain d₀ =
        setFullAtScope (scope.setEmptyAtScope (scope.domain d₀) prev s).1 prev s o := by
      rw [setShardAuthoritativeStatusAtScope_domain o hl, if_pos rfl]
    -- the step moves fully authoritative and empty shards, never the attribute of a shard
    have hall : ∀ d a',
        (((scope.setShardAuthoritativeStatusAtScope x prev s o).domain d).count a').all =
          ((scope.domain d).count a').all := by
      intro d a'
      rw [setShardAuthoritativeStatusAtScope_domain_count o hl]
      by_cases hc : d = d₀ ∧ o = some a'
      · rw [if_pos hc, hc.1]
      · rw [if_neg hc]
    refine ⟨fun a => ?_, fun a d => ?_, fun a => ?_, fun a fds hfds => ?_, ?_⟩
    · have hu := card_complete_update hK hd₀ hoff a
      rw [setShardAuthoritativeStatusAtScope_n_full o hl, getD_lookup_updateFull,
        getD_lookup_wasComplete, ← hd, hagg.n_full]
      by_cases hk : a ∈ ((scope.setShardAuthoritativeStatusAtScope x prev s o).domain
          d₀).shards_attr.keys
      · -- the second loop moves the counter of `a` by the change of the domain
        rw [if_pos hk]
        cases hold : domainIsComplete (scope.domain d₀) a <;>
          cases hnew : domainIsComplete
            ((scope.setShardAuthoritativeStatusAtScope x prev s o).domain d₀) a <;>
          simp [hold, hnew] at hu ⊢ <;> omega
      · -- the domain keeps no counter of `a`, before or after: it is complete for `a` neither
        -- time
        have hk' : a ∉ (scope.domain d₀).shards_attr := fun hm => hk (by
          rw [hd]
          exact mem_setFullAtScope (by rwa [setEmptyAtScope_shards_attr]) o)
        have hold : domainIsComplete (scope.domain d₀) a = false :=
          domainIsComplete_of_full_only_eq_zero
            (by simp [FailureDomainState.count, AList.lookup_eq_none.mpr hk'])
        have hnew : domainIsComplete
            ((scope.setShardAuthoritativeStatusAtScope x prev s o).domain d₀) a = false :=
          domainIsComplete_of_full_only_eq_zero
            (by simp [FailureDomainState.count, AList.lookup_eq_none.mpr hk])
        rw [if_neg hk]
        rw [hold, hnew] at hu
        simp only [Bool.false_eq_true, if_false, Nat.add_zero] at hu
        exact hu.symm
    · rw [setShardAuthoritativeStatusAtScope_replicate_set, hK, hall]
      exact hagg.replicate_set a d
    · rw [setShardAuthoritativeStatusAtScope_replicate_set]
      exact hagg.nodup a
    · rw [setShardAuthoritativeStatusAtScope_replicate_set] at hfds
      exact hagg.ne_nil a fds hfds
    · rw [setShardAuthoritativeStatusAtScope_n_full o hl]
      exact NoZero.updateFull hagg.n_full_pos _ _

/-- `resetAttributeCounters` at one scope forgets every attribute and every aggregate. -/
lemma resetAttributeCountersAtScope : scope.resetAttributeCountersAtScope.Aggregated := by
  have hcount : ∀ d a, (scope.resetAttributeCountersAtScope.domain d).count a = {} :=
    fun d a => by
      rw [resetAttributeCountersAtScope_domain]
      rfl
  refine ⟨fun a => ?_, fun a d => ?_, fun a => ?_, fun a fds hfds => ?_, ?_⟩
  · rw [Finset.filter_false_of_mem fun d _ => by
      rw [domainIsComplete_of_full_only_eq_zero (by rw [hcount])]
      decide]
    rfl
  · simp [hcount]
  · exact List.nodup_nil
  · simp at hfds
  · exact NoZero.empty

/-- With the aggregates right, `countCompleteDomains` for a value counts the domains the
predicate overload counts for `(· == a)`. -/
lemma countCompleteDomains_value (hagg : scope.Aggregated) (h : scope.Counts shards status attr)
    (a : α) : scope.countCompleteDomains (.value a) = scope.countCompleteDomains (.pred (· == a)) := by
  rw [countCompleteDomains_pred, h.completeDomains_beq a, ← hagg.n_full a]
  rfl

lemma fmajorityAtScope_value (hagg : scope.Aggregated) (h : scope.Counts shards status attr)
    (a : α) : scope.fmajorityAtScope (.value a) = scope.fmajorityAtScope (.pred (· == a)) := by
  unfold fmajorityAtScope
  rw [hagg.countCompleteDomains_value h a]

/-- With the aggregates right, `canReplicateAtScope` for a value answers as for the predicate
`(· == a)`: the domains kept for `a` are those the merging loop collects, each once. -/
lemma canReplicateAtScope_value (hagg : scope.Aggregated) (a : α) :
    scope.canReplicateAtScope (.value a) = scope.canReplicateAtScope (.pred (· == a)) := by
  unfold canReplicateAtScope
  dsimp only
  rw [AList.filter_key_eq]
  cases hl : scope.replicate_set.lookup a with
  | none => rfl
  | some fds =>
    have hnd : fds.Nodup := by simpa [hl] using hagg.nodup a
    dsimp only
    rw [Option.map_some, Option.toList_some, List.flatMap_singleton,
      replicateFrom_eq _ fds [] hnd fun _ _ h => by simp at h]
    simp [hagg.ne_nil a fds hl]

end Aggregated

end ScopeState

namespace FailureDomainNodeSet

/-- Every scope of the node set, the `SHARD` scope included, keeps its aggregates in agreement
with its per-domain counters. -/
def ScopesAggregated (n : FailureDomainNodeSet α) : Prop :=
  n.shard_scope_.Aggregated ∧ ∀ scope st, n.scopes_.lookup scope = some st → st.Aggregated

variable {n : FailureDomainNodeSet α}

/-- A step applied to every scope that keeps the aggregates of a scope whose counters agree with
the shards keeps them at every scope. -/
lemma ScopesAggregated.forEachScope {shards : Finset ShardID}
    {status : ShardID → AuthoritativeStatus} {attr : ShardID → Option α}
    (ha : n.ScopesAggregated) (hs : n.ScopesCount shards status attr)
    (fn : ∀ {δ : Type} [DecidableEq δ], ScopeState α δ → ScopeState α δ)
    (hfn : ∀ {δ : Type} [DecidableEq δ] (st : ScopeState α δ), st.Aggregated →
      st.Counts shards status attr → (fn st).Aggregated) :
    (n.forEachScope fn).ScopesAggregated := by
  refine ⟨hfn _ ha.1 hs.1, fun scope st hst => ?_⟩
  rw [lookup_forEachScope, Option.map_eq_some_iff] at hst
  obtain ⟨st₀, h₀, rfl⟩ := hst
  exact hfn _ (ha.2 scope st₀ h₀) (hs.2 scope st₀ h₀)

/-! ### The calls keep the aggregates -/

lemma ScopesAggregated.setShardAuthoritativeStatus (ha : n.ScopesAggregated)
    (hc : n.Consistent) (x : ShardID) (s : AuthoritativeStatus) :
    (n.setShardAuthoritativeStatus x s).ScopesAggregated := by
  unfold FailureDomainNodeSet.setShardAuthoritativeStatus
  cases n.shard_authoritative_.lookup x with
  | none => exact ha
  | some prev =>
    dsimp only
    split_ifs
    · exact ha
    · exact ha.forEachScope hc.scopes
        (fun st => st.setShardAuthoritativeStatusAtScope x prev s (n.shard_attribute_.lookup x))
        fun st hagg hst => hagg.setShardAuthoritativeStatusAtScope hst _ _ _

lemma ScopesAggregated.setShardAttribute (ha : n.ScopesAggregated) (hc : n.Consistent)
    (x : ShardID) (a : α) : (n.setShardAttribute x a).ScopesAggregated := by
  unfold FailureDomainNodeSet.setShardAttribute
  cases hl : n.shard_authoritative_.lookup x with
  | none => exact ha
  | some status =>
    have hx : x ∈ n.shards := mem_shards.mpr (Finmap.mem_of_lookup_eq_some hl)
    have hstatus : n.getShardAuthoritativeStatus x = status := by
      simp [getShardAuthoritativeStatus, hl]
    dsimp only
    cases hattr : n.shard_attribute_.lookup x with
    | none =>
      have hnone : n.getShardAttribute x = none := hattr
      exact ha.forEachScope hc.scopes (fun st => st.addAttrAtScope x a status)
        fun st hagg hst => by
          rw [← hstatus]
          exact hagg.addAttrAtScope hst hx hnone a
    | some old =>
      have hold : n.getShardAttribute x = some old := hattr
      dsimp only
      split_ifs
      · exact ha
      · -- `x` leaves `old` at every scope, then takes `a`; in between it has no attribute
        have hrem := ha.forEachScope hc.scopes (fun st => st.removeAttrAtScope x old status)
          fun st hagg hst => by
            rw [← hstatus]
            exact hagg.removeAttrAtScope hst hx hold
        have hmid := hc.scopes.removeAttr hx hold
        rw [hstatus] at hmid
        exact hrem.forEachScope hmid (fun st => st.addAttrAtScope x a status)
          fun st hagg hst => by
            rw [← hstatus]
            exact hagg.addAttrAtScope hst hx (by rw [if_pos rfl]) a

lemma ScopesAggregated.resetAttributeCounters (ha : n.ScopesAggregated) (hc : n.Consistent) :
    n.resetAttributeCounters.ScopesAggregated :=
  ha.forEachScope hc.scopes (fun st => st.resetAttributeCountersAtScope)
    fun _ _ _ => ScopeState.Aggregated.resetAttributeCountersAtScope

/-- Every call keeps the aggregates in agreement. -/
lemma ScopesAggregated.apply (ha : n.ScopesAggregated) (hc : n.Consistent) :
    ∀ op : Op α, (n.apply op).ScopesAggregated
  | .setShardAttribute x a => ha.setShardAttribute hc x a
  | .setShardAuthoritativeStatus x s => ha.setShardAuthoritativeStatus hc x s
  | .resetAttributeCounters => ha.resetAttributeCounters hc

/-- The aggregates agree after any sequence of calls; the counters they are read against agree
along the way. -/
lemma ScopesAggregated.applyOps (ha : n.ScopesAggregated) (hc : n.Consistent)
    (ops : List (Op α)) : (n.applyOps ops).ScopesAggregated := by
  induction ops generalizing n with
  | nil => exact ha
  | cons op ops ih => exact ih (ha.apply hc op) (hc.apply op)

/-! ### The constructor -/

/-- No scope of the node set has aggregated anything, as while the constructor fills it. -/
def NoAggregates (n : FailureDomainNodeSet α) : Prop :=
  (n.shard_scope_.n_full = ∅ ∧ n.shard_scope_.replicate_set = ∅) ∧
    ∀ scope st, n.scopes_.lookup scope = some st → st.n_full = ∅ ∧ st.replicate_set = ∅

/-- `addShard` touches neither aggregate of a scope. -/
lemma NoAggregates.addShard (h : n.NoAggregates) (x : ShardID) (nc : NodesConfiguration) :
    (n.addShard x nc).NoAggregates := by
  refine ⟨h.1, fun scope st hst => ?_⟩
  change (n.scopes_.mapVal _).lookup scope = some st at hst
  rw [AList.lookup_mapVal, Option.map_eq_some_iff] at hst
  obtain ⟨st₀, h₀, rfl⟩ := hst
  cases domainName nc x scope <;> exact h.2 scope st₀ h₀

/-- With nothing aggregated and no shard with an attribute, every scope's aggregates are right. -/
lemma ScopesAggregated.of_noAggregates (hc : n.Consistent) (hf : n.Fresh) (h : n.NoAggregates) :
    n.ScopesAggregated :=
  ⟨.of_no_attr hc.scopes.1 hf.attr h.1.1 h.1.2, fun scope st hst =>
    .of_no_attr (hc.scopes.2 scope st hst) hf.attr (h.2 scope st hst).1 (h.2 scope st hst).2⟩

/-- The constructor builds a node set whose aggregates agree with its counters. -/
lemma create_scopesAggregated {storage_set : List ShardID} {nc : NodesConfiguration}
    {rep : ReplicationProperty} (hnodup : storage_set.Nodup) :
    (create storage_set nc rep : FailureDomainNodeSet α).ScopesAggregated := by
  have h : (create storage_set nc rep : FailureDomainNodeSet α).Consistent ∧
      (create storage_set nc rep : FailureDomainNodeSet α).Fresh ∧
      (create storage_set nc rep : FailureDomainNodeSet α).Placed nc rep :=
    create_consistent_fresh_placed hnodup
  refine ScopesAggregated.of_noAggregates h.1 h.2.1 ?_
  have hcreate : (create storage_set nc rep : FailureDomainNodeSet α) = _ :=
    create_eq_foldl storage_set
  rw [hcreate]
  -- the constructor's loop, from the scopes `initScopes` keeps, none with an aggregate
  refine foldl_invariant NoAggregates _ _ (fun n _ _ h => h.addShard _ nc) _
    ⟨⟨rfl, rfl⟩, fun scope st hst => ?_⟩
  rw [(lookup_initScopes rep scope st hst).2.1]
  exact ⟨rfl, rfl⟩

/-! ### The overloads for an attribute value -/

lemma anyScope_congr {fn fn' : ∀ {δ : Type} [DecidableEq δ], ScopeState α δ → Bool}
    (hshard : fn n.shard_scope_ = fn' n.shard_scope_)
    (hscopes : ∀ scope st, n.scopes_.lookup scope = some st → fn st = fn' st) :
    n.anyScope fn = n.anyScope fn' := by
  unfold anyScope
  dsimp only
  rw [hshard, Bool.eq_iff_iff, Bool.or_eq_true, Bool.or_eq_true, List.any_eq_true,
    List.any_eq_true]
  refine or_congr_right (exists_congr fun it => and_congr_right fun hmem => ?_)
  rw [hscopes it.1 it.2 (AList.mem_lookup_iff.mpr hmem)]

lemma allScopes_congr {fn fn' : ∀ {δ : Type} [DecidableEq δ], ScopeState α δ → Bool}
    (hshard : fn n.shard_scope_ = fn' n.shard_scope_)
    (hscopes : ∀ scope st, n.scopes_.lookup scope = some st → fn st = fn' st) :
    n.allScopes fn = n.allScopes fn' := by
  have hfind : (n.scopes_.entries.find? fun it => !fn it.2) =
      n.scopes_.entries.find? fun it => !fn' it.2 :=
    List.find?_congr fun it hmem => by rw [hscopes it.1 it.2 (AList.mem_lookup_iff.mpr hmem)]
  unfold allScopes
  dsimp only
  simp only [hshard, hfind]

lemma isCompleteSet_value (hc : n.Consistent) (ha : n.ScopesAggregated) (a : α) :
    n.isCompleteSet (.value a) = n.isCompleteSet (.pred (· == a)) := by
  unfold isCompleteSet
  rw [ha.1.countCompleteDomains_value hc.scopes.1 a]

lemma isFmajority_value (hc : n.Consistent) (ha : n.ScopesAggregated) (a : α) :
    n.isFmajority (.value a) = n.isFmajority (.pred (· == a)) := by
  have hmaj : (n.anyScope fun scope => scope.fmajorityAtScope (.value a)) =
      n.anyScope fun scope => scope.fmajorityAtScope (.pred (· == a)) :=
    anyScope_congr (ha.1.fmajorityAtScope_value hc.scopes.1 a) fun scope st hst =>
      (ha.2 scope st hst).fmajorityAtScope_value (hc.scopes.2 scope st hst) a
  unfold isFmajority
  rw [hmaj, isCompleteSet_value hc ha a]

lemma canReplicate_value (ha : n.ScopesAggregated) (a : α) :
    n.canReplicate (.value a) = n.canReplicate (.pred (· == a)) :=
  allScopes_congr (ha.1.canReplicateAtScope_value a) fun scope st hst =>
    (ha.2 scope st hst).canReplicateAtScope_value a

/-- The aggregates law: after the constructor and any sequence of calls, every counter and every
aggregate of every scope, the `SHARD` scope included, and the counts of statuses and attributes
are what a recount of the shards gives, as the source's `checkConsistency` asserts; so the
overloads that take an attribute value answer as the predicate overloads do for `(· == a)`. -/
theorem aggregates_agree_of_applyOps {storage_set : List ShardID} {nc : NodesConfiguration}
    {rep : ReplicationProperty} {ops : List (Op α)}
    (hn : n = (create storage_set nc rep : FailureDomainNodeSet α).applyOps ops)
    (hnodup : storage_set.Nodup) :
    n.Consistent ∧
      n.shard_scope_.Recounted n.shards n.getShardAuthoritativeStatus n.getShardAttribute ∧
      (∀ scope st, n.scopes_.lookup scope = some st →
        st.Recounted n.shards n.getShardAuthoritativeStatus n.getShardAttribute) ∧
      ∀ a, n.isFmajority (.value a) = n.isFmajority (.pred (· == a)) ∧
        n.canReplicate (.value a) = n.canReplicate (.pred (· == a)) ∧
        n.isCompleteSet (.value a) = n.isCompleteSet (.pred (· == a)) := by
  have h₀ : (create storage_set nc rep : FailureDomainNodeSet α).Consistent ∧
      (create storage_set nc rep : FailureDomainNodeSet α).Fresh ∧
      (create storage_set nc rep : FailureDomainNodeSet α).Placed nc rep :=
    create_consistent_fresh_placed hnodup
  have hc : n.Consistent := hn ▸ h₀.1.applyOps ops
  have ha : n.ScopesAggregated := hn ▸ (create_scopesAggregated hnodup).applyOps h₀.1 ops
  refine ⟨hc, hc.scopes.1.recounted ha.1, fun scope st hst =>
    (hc.scopes.2 scope st hst).recounted (ha.2 scope st hst), fun a => ?_⟩
  exact ⟨isFmajority_value hc ha a, canReplicate_value ha a, isCompleteSet_value hc ha a⟩

theorem aggregates_agree_three :
    threeNodeSet.Consistent ∧
      threeNodeSet.shard_scope_.Recounted threeNodeSet.shards
        threeNodeSet.getShardAuthoritativeStatus threeNodeSet.getShardAttribute ∧
      (∀ scope st, threeNodeSet.scopes_.lookup scope = some st →
        st.Recounted threeNodeSet.shards threeNodeSet.getShardAuthoritativeStatus
          threeNodeSet.getShardAttribute) ∧
      ∀ a, threeNodeSet.isFmajority (.value a) = threeNodeSet.isFmajority (.pred (· == a)) ∧
        threeNodeSet.canReplicate (.value a) = threeNodeSet.canReplicate (.pred (· == a)) ∧
        threeNodeSet.isCompleteSet (.value a) = threeNodeSet.isCompleteSet (.pred (· == a)) :=
  aggregates_agree_of_applyOps rfl (by decide)

end FailureDomainNodeSet

end LogDevice.FailureDomain
