import LogDevice.FailureDomain.NodeSet
import LogDevice.Lib.Loop

/-!
# The counters of a scope agree with its shards

`ScopeState.Counts scope shards status attr` says that every counter of one scope that
`isFmajority` reads is what counting the shards gives: per domain the shards, the empty ones and,
per attribute, those with it and those fully authoritative with it, and the number of domains all
of whose shards are empty. This is the part of the source's debug check `checkConsistencyAtScope`
that the f-majority test depends on, stated for every domain at once. The shard map of the scope
says which domain a shard is in; `shards` are the shards of the node set, with their statuses and
attributes.

Every operation of the node set moves these counters by one shard at a time, and each step lemma
here says that the scope's counters still agree after it: a shard joining a domain
(`Counts.addShardToScope`), taking or losing an attribute (`Counts.addAttrAtScope`,
`Counts.removeAttrAtScope`), changing status (`Counts.setShardAuthoritativeStatusAtScope`), and
every attribute being cleared (`Counts.resetAttributeCountersAtScope`). Each follows from the
operation's spec lemma and the counting rules of `Lib.Count`.
-/

namespace LogDevice.FailureDomain

open LogDevice.Lib

set_option linter.unusedSectionVars false

variable {α δ : Type} [DecidableEq α] [DecidableEq δ]

namespace ScopeState

/-- The counters of a scope that `isFmajority` reads agree with a count of its shards. -/
structure Counts (scope : ScopeState α δ) (shards : Finset ShardID)
    (status : ShardID → AuthoritativeStatus) (attr : ShardID → Option α) : Prop where
  mem_shards : ∀ x d, scope.shard_map.lookup x = some d → x ∈ shards
  mem_domains : ∀ d, d ∈ scope.domains.keys.toFinset ↔ ∃ x, scope.shard_map.lookup x = some d
  n_shards : ∀ d, (scope.domain d).n_shards =
    (shards.filter fun x => scope.shard_map.lookup x = some d).card
  n_empty : ∀ d, (scope.domain d).n_empty =
    (shards.filter fun x =>
      scope.shard_map.lookup x = some d ∧ status x = .AUTHORITATIVE_EMPTY).card
  all : ∀ d a, ((scope.domain d).count a).all =
    (shards.filter fun x => scope.shard_map.lookup x = some d ∧ attr x = some a).card
  full_only : ∀ d a, ((scope.domain d).count a).full_only =
    (shards.filter fun x =>
      scope.shard_map.lookup x = some d ∧ attr x = some a ∧ isFully (status x) = true).card
  scope_n_empty : scope.n_empty =
    (scope.domains.keys.toFinset.filter fun d =>
      (scope.domain d).n_empty = (scope.domain d).n_shards).card

/-- A new scope, with no shard. -/
lemma counts_empty (replication : Nat) (status : ShardID → AuthoritativeStatus)
    (attr : ShardID → Option α) :
    ({ replication := replication } : ScopeState α δ).Counts ∅ status attr where
  mem_shards x d h := by simp at h
  mem_domains d := by simp
  n_shards d := rfl
  n_empty d := rfl
  all d a := rfl
  full_only d a := rfl
  scope_n_empty := rfl

variable {scope : ScopeState α δ} {shards : Finset ShardID}
  {status : ShardID → AuthoritativeStatus} {attr : ShardID → Option α} {x : ShardID}

/-! ### What the counters say -/

namespace Counts

variable (h : scope.Counts shards status attr)
include h

lemma lookup_eq_none (hx : x ∉ shards) : scope.shard_map.lookup x = none := by
  cases hl : scope.shard_map.lookup x with
  | none => rfl
  | some d => exact absurd (h.mem_shards x d hl) hx

/-- The shards of a domain, the empty ones apart: what `n_shards - n_empty` counts. -/
lemma n_shards_sub_n_empty (d : δ) :
    (scope.domain d).n_shards - (scope.domain d).n_empty =
      (shards.filter fun x =>
        scope.shard_map.lookup x = some d ∧ status x ≠ .AUTHORITATIVE_EMPTY).card := by
  have hsplit := Finset.card_filter_add_card_filter_not
    (s := shards.filter fun x => scope.shard_map.lookup x = some d)
    (fun x => status x = .AUTHORITATIVE_EMPTY)
  simp only [Finset.filter_filter, ← ne_eq] at hsplit
  rw [h.n_shards, h.n_empty]
  omega

/-- A domain with a shard that is not empty is not empty. -/
lemma n_empty_lt_n_shards {d : δ} (hx : x ∈ shards) (hd : scope.shard_map.lookup x = some d)
    (hne : status x ≠ .AUTHORITATIVE_EMPTY) :
    (scope.domain d).n_empty < (scope.domain d).n_shards := by
  have hpos : 0 < (shards.filter fun x =>
      scope.shard_map.lookup x = some d ∧ status x ≠ .AUTHORITATIVE_EMPTY).card :=
    Finset.card_pos.mpr ⟨x, Finset.mem_filter.mpr ⟨hx, hd, hne⟩⟩
  rw [← h.n_shards_sub_n_empty] at hpos
  omega

/-- An attribute a shard of the domain has is one the domain keeps a count for. -/
lemma mem_shards_attr {d : δ} {a : α} (hx : x ∈ shards) (hd : scope.shard_map.lookup x = some d)
    (ha : attr x = some a) : a ∈ (scope.domain d).shards_attr.keys.toFinset := by
  have hpos : 0 < ((scope.domain d).count a).all := by
    rw [h.all]
    exact Finset.card_pos.mpr ⟨x, Finset.mem_filter.mpr ⟨hx, hd, ha⟩⟩
  rw [List.mem_toFinset, ← AList.mem_keys, ← AList.lookup_isSome]
  unfold FailureDomainState.count at hpos
  cases hl : (scope.domain d).shards_attr.lookup a with
  | none => rw [hl] at hpos; exact absurd hpos (by decide)
  | some _ => rfl

/-- `numFull` counts the fully authoritative shards of the domain whose attribute satisfies the
predicate. -/
lemma numFull_eq (p : α → Bool) (d : δ) :
    numFull p (scope.domain d) =
      (shards.filter fun x => scope.shard_map.lookup x = some d ∧ isFully (status x) = true ∧
        ∃ a, attr x = some a ∧ p a = true).card := by
  set keys := (scope.domain d).shards_attr.keys.toFinset
  -- the inner loop adds `full_only` over the attributes that satisfy the predicate
  have hloop : numFull p (scope.domain d) = ∑ a ∈ keys.filter (p · = true),
      (((shards.filter fun x => scope.shard_map.lookup x = some d ∧
        isFully (status x) = true).filter fun x => attr x = some a).card) := by
    unfold numFull
    rw [foldl_add_ite, Nat.zero_add,
      AList.sum_entries {} fun a (c : Count) => if p a then c.full_only else 0,
      Finset.sum_filter]
    refine Finset.sum_congr rfl fun a _ => ?_
    split_ifs
    · rw [← FailureDomainState.count, h.full_only, Finset.filter_filter]
      congr 1
      exact Finset.filter_congr fun y _ => by tauto
    · rfl
  rw [hloop, Count.sum_card_filter_eq_some, Finset.filter_filter]
  congr 1
  refine Finset.filter_congr fun y hy => ?_
  constructor
  · rintro ⟨⟨hd, hf⟩, a, ha, hya⟩
    exact ⟨hd, hf, a, hya, (Finset.mem_filter.mp ha).2⟩
  · rintro ⟨hd, hf, a, hya, hpa⟩
    exact ⟨⟨hd, hf⟩, a, Finset.mem_filter.mpr ⟨h.mem_shards_attr hy hd hya, hpa⟩, hya⟩

/-- The shards of a domain with an attribute are the fully authoritative ones and the others. -/
lemma full_only_add (d : δ) (a : α) :
    ((scope.domain d).count a).full_only +
      (shards.filter fun x => scope.shard_map.lookup x = some d ∧ attr x = some a ∧
        isFully (status x) = false).card = ((scope.domain d).count a).all := by
  have hsplit := Finset.card_filter_add_card_filter_not
    (s := shards.filter fun x => scope.shard_map.lookup x = some d ∧ attr x = some a)
    (fun x => isFully (status x) = true)
  simp only [Finset.filter_filter, Bool.not_eq_true, and_assoc] at hsplit
  rw [h.full_only, h.all]
  exact hsplit

/-- Statuses and attributes of the shards in no domain of the scope do not matter to its
counters. -/
lemma of_agree {status' : ShardID → AuthoritativeStatus} {attr' : ShardID → Option α}
    (hagree : ∀ y d, scope.shard_map.lookup y = some d → status' y = status y ∧ attr' y = attr y) :
    scope.Counts shards status' attr' := by
  refine ⟨h.mem_shards, h.mem_domains, h.n_shards, fun d => ?_, fun d a => ?_, fun d a => ?_,
    h.scope_n_empty⟩
  · rw [h.n_empty]
    congr 1
    exact Finset.filter_congr fun y _ => and_congr_right fun hd => by rw [(hagree y d hd).1]
  · rw [h.all]
    congr 1
    exact Finset.filter_congr fun y _ => and_congr_right fun hd => by rw [(hagree y d hd).2]
  · rw [h.full_only]
    congr 1
    exact Finset.filter_congr fun y _ => and_congr_right fun hd => by
      rw [(hagree y d hd).1, (hagree y d hd).2]

/-- The count of empty domains holds after a step that keeps the domains, the shards of each and
its empty shards. -/
lemma scope_n_empty_of_frame {sc : ScopeState α δ}
    (hK : sc.domains.keys.toFinset = scope.domains.keys.toFinset) (hn : sc.n_empty = scope.n_empty)
    (hsh : ∀ d, (sc.domain d).n_shards = (scope.domain d).n_shards)
    (hem : ∀ d, (sc.domain d).n_empty = (scope.domain d).n_empty) :
    sc.n_empty = (sc.domains.keys.toFinset.filter fun d =>
      (sc.domain d).n_empty = (sc.domain d).n_shards).card := by
  rw [hn, h.scope_n_empty, hK]
  congr 1
  exact Finset.filter_congr fun d _ => by rw [hsh, hem]

end Counts

/-! ### Step lemmas -/

namespace Counts

variable (h : scope.Counts shards status attr)
include h

/-- A shard that is not yet in the node set joins the domain `d₀`, while no shard is empty and it
has no attribute: the constructor's `addShard` at one scope. -/
lemma addShardToScope (hx : x ∉ shards)
    (hempty : ∀ y ∈ insert x shards, status y ≠ .AUTHORITATIVE_EMPTY) (hattr : attr x = none)
    (d₀ : δ) : (scope.addShardToScope x d₀).Counts (insert x shards) status attr := by
  have hnone := h.lookup_eq_none hx
  have hagree : ∀ y ∈ shards,
      (scope.shard_map.insert x d₀).lookup y = scope.shard_map.lookup y := fun y hy =>
    Finmap.lookup_insert_of_ne _ (fun hyx => hx (hyx ▸ hy))
  -- after the step, the domains count exactly the shards of `insert x shards`
  have hn_shards : ∀ d, ((scope.addShardToScope x d₀).domain d).n_shards =
      ((insert x shards).filter fun y =>
        (scope.addShardToScope x d₀).shard_map.lookup y = some d).card := by
    intro d
    rw [addShardToScope_shard_map, Count.card_filter_insert_congr hx
      (fun y hy => by rw [hagree y hy]), addShardToScope_domain, Finmap.lookup_insert]
    by_cases hd : d = d₀
    · subst hd
      simp [h.n_shards]
    · simp [hd, h.n_shards, Ne.symm hd]
  have hn_empty : ∀ d, ((scope.addShardToScope x d₀).domain d).n_empty =
      ((insert x shards).filter fun y => (scope.addShardToScope x d₀).shard_map.lookup y = some d ∧
        status y = .AUTHORITATIVE_EMPTY).card := by
    intro d
    rw [addShardToScope_shard_map, Count.card_filter_insert_congr hx
      (fun y hy => by rw [hagree y hy]),
      if_neg (fun hc => hempty x (Finset.mem_insert_self x shards) hc.2), addShardToScope_domain]
    split_ifs with hd
    · subst hd
      simp [h.n_empty]
    · simp [h.n_empty]
  refine ⟨?_, ?_, hn_shards, hn_empty, ?_, ?_, ?_⟩
  · intro y d hy
    rw [addShardToScope_shard_map, Finmap.lookup_insert_eq_ite] at hy
    split_ifs at hy with hyx
    · exact hyx ▸ Finset.mem_insert_self x shards
    · exact Finset.mem_insert_of_mem (h.mem_shards y d hy)
  · intro d
    rw [addShardToScope_keys, Finset.mem_insert, h.mem_domains]
    simp only [addShardToScope_shard_map, Finmap.lookup_insert_eq_ite]
    constructor
    · rintro (rfl | ⟨y, hy⟩)
      · exact ⟨x, by simp⟩
      · exact ⟨y, by rw [if_neg (fun hyx => by rw [hyx, hnone] at hy; cases hy)]; exact hy⟩
    · rintro ⟨y, hy⟩
      split_ifs at hy with hyx
      · exact .inl (Option.some_inj.mp hy).symm
      · exact .inr ⟨y, hy⟩
  · intro d a
    rw [addShardToScope_shard_map, Count.card_filter_insert_congr hx
      (fun y hy => by rw [hagree y hy]), if_neg (by simp [hattr]), addShardToScope_domain]
    split_ifs with hd
    · subst hd
      exact h.all d a
    · exact h.all d a
  · intro d a
    rw [addShardToScope_shard_map, Count.card_filter_insert_congr hx
      (fun y hy => by rw [hagree y hy]), if_neg (by simp [hattr]), addShardToScope_domain]
    split_ifs with hd
    · subst hd
      exact h.full_only d a
    · exact h.full_only d a
  · -- no shard is empty, so no domain is: the count of empty domains stays zero
    have hzero : ∀ (sc : ScopeState α δ) (S : Finset ShardID),
        (∀ y ∈ S, status y ≠ .AUTHORITATIVE_EMPTY) →
        (∀ d, (sc.domain d).n_shards = (S.filter fun y => sc.shard_map.lookup y = some d).card) →
        (∀ d, (sc.domain d).n_empty = (S.filter fun y => sc.shard_map.lookup y = some d ∧
          status y = .AUTHORITATIVE_EMPTY).card) →
        (∀ d ∈ sc.domains.keys.toFinset, ∃ y ∈ S, sc.shard_map.lookup y = some d) →
        (sc.domains.keys.toFinset.filter fun d => (sc.domain d).n_empty = (sc.domain d).n_shards).card
          = 0 := by
      intro sc S hS hsh hem hdom
      rw [Finset.card_eq_zero, Finset.filter_eq_empty_iff]
      intro d hd heq
      obtain ⟨y, hy, hyd⟩ := hdom d hd
      have h0 : (sc.domain d).n_empty = 0 := by
        rw [hem, Finset.card_eq_zero, Finset.filter_eq_empty_iff]
        exact fun z hz hc => hS z hz hc.2
      have hpos : 0 < (sc.domain d).n_shards := by
        rw [hsh]
        exact Finset.card_pos.mpr ⟨y, Finset.mem_filter.mpr ⟨hy, hyd⟩⟩
      omega
    rw [addShardToScope_n_empty, h.scope_n_empty,
      hzero scope shards (fun y hy => hempty y (Finset.mem_insert_of_mem hy)) h.n_shards h.n_empty
        (fun d hd => by
          obtain ⟨y, hy⟩ := (h.mem_domains d).mp hd
          exact ⟨y, h.mem_shards y d hy, hy⟩),
      hzero _ _ hempty hn_shards hn_empty (fun d hd => by
        rw [addShardToScope_keys, Finset.mem_insert] at hd
        rcases hd with rfl | hd
        · exact ⟨x, Finset.mem_insert_self x shards, by simp⟩
        · obtain ⟨y, hy⟩ := (h.mem_domains d).mp hd
          refine ⟨y, Finset.mem_insert_of_mem (h.mem_shards y d hy), ?_⟩
          rw [addShardToScope_shard_map, hagree y (h.mem_shards y d hy)]
          exact hy)]

/-- A shard of the node set with a domain at this scope is left out of it: the scope is unchanged
while the node set grows. -/
lemma insert_of_lookup_eq_none (hx : x ∉ shards) :
    scope.Counts (insert x shards) status attr := by
  have hnone := h.lookup_eq_none hx
  -- the new shard is in no domain of the scope, so it adds nothing to any count
  have hcount : ∀ (P : ShardID → Prop) [DecidablePred P] (d : δ),
      ((insert x shards).filter fun y => scope.shard_map.lookup y = some d ∧ P y).card =
        (shards.filter fun y => scope.shard_map.lookup y = some d ∧ P y).card := by
    intro P _ d
    rw [Count.card_filter_insert hx, if_neg (by rw [hnone]; simp), Nat.add_zero]
  refine ⟨fun y d hy => Finset.mem_insert_of_mem (h.mem_shards y d hy), h.mem_domains,
    fun d => ?_, fun d => ?_, fun d a => ?_, fun d a => ?_, h.scope_n_empty⟩
  · rw [Count.card_filter_insert hx, if_neg (by rw [hnone]; simp)]
    exact h.n_shards d
  · rw [hcount (fun y => status y = .AUTHORITATIVE_EMPTY)]
    exact h.n_empty d
  · rw [hcount (fun y => attr y = some a)]
    exact h.all d a
  · rw [hcount (fun y => attr y = some a ∧ isFully (status y) = true)]
    exact h.full_only d a

/-- The shard takes the attribute `a`, having none: `addAttr` at one scope. -/
lemma addAttrAtScope (hx : x ∈ shards) (hattr : attr x = none) {a : α}
    {attr' : ShardID → Option α} (hx' : attr' x = some a) (hoff : ∀ y, y ≠ x → attr' y = attr y) :
    (scope.addAttrAtScope x a (status x)).Counts shards status attr' := by
  cases hl : scope.shard_map.lookup x with
  | none =>
    rw [addAttrAtScope_of_lookup_eq_none hl]
    exact h.of_agree fun y d hy => ⟨rfl, hoff y fun hyx => by rw [hyx, hl] at hy; cases hy⟩
  | some d₀ =>
    have hK : (scope.addAttrAtScope x a (status x)).domains.keys.toFinset =
        scope.domains.keys.toFinset := by
      rw [addAttrAtScope_keys hl, Finset.insert_eq_of_mem ((h.mem_domains d₀).mpr ⟨x, hl⟩)]
    refine ⟨?_, ?_, fun d => ?_, fun d => ?_, fun d a' => ?_, fun d a' => ?_,
      h.scope_n_empty_of_frame hK (by simp) (by simp) (by simp)⟩
    · simpa using h.mem_shards
    · simpa [hK] using h.mem_domains
    · simpa using h.n_shards d
    · simpa using h.n_empty d
    · -- only the count of `x`'s domain for `a` moves, by `x` itself
      have hu := Count.card_filter_update (s := shards)
        (p := fun y => scope.shard_map.lookup y = some d ∧ attr y = some a')
        (q := fun y => scope.shard_map.lookup y = some d ∧ attr' y = some a') x
        (fun y _ hyx => by rw [hoff y hyx])
      rw [← h.all] at hu
      rw [addAttrAtScope_shard_map, addAttrAtScope_domain_count hl]
      by_cases hd : d = d₀ <;> by_cases ha : a' = a
      · subst hd ha
        simp [hx, hl, hattr, hx'] at hu
        simp [hu]
      · subst hd
        simp [hx, hl, hattr, hx', Ne.symm ha] at hu
        simp [ha, hu]
      · simp [hx, hl, hattr, hx', Ne.symm hd] at hu
        simp [hd, hu]
      · simp [hx, hl, hattr, hx', Ne.symm hd] at hu
        simp [hd, hu]
    · have hu := Count.card_filter_update (s := shards)
        (p := fun y => scope.shard_map.lookup y = some d ∧ attr y = some a' ∧
          isFully (status y) = true)
        (q := fun y => scope.shard_map.lookup y = some d ∧ attr' y = some a' ∧
          isFully (status y) = true) x
        (fun y _ hyx => by rw [hoff y hyx])
      rw [← h.full_only] at hu
      rw [addAttrAtScope_shard_map, addAttrAtScope_domain_count hl]
      by_cases hd : d = d₀ <;> by_cases ha : a' = a
      · subst hd ha
        simp [hx, hl, hattr, hx'] at hu
        cases hf : isFully (status x) <;> simp [hf] at hu ⊢ <;> omega
      · subst hd
        simp [hx, hl, hattr, hx', Ne.symm ha] at hu
        simp [ha, hu]
      · simp [hx, hl, hattr, hx', Ne.symm hd] at hu
        simp [hd, hu]
      · simp [hx, hl, hattr, hx', Ne.symm hd] at hu
        simp [hd, hu]

/-- The shard loses its attribute `a`: `removeAttr` at one scope. -/
lemma removeAttrAtScope (hx : x ∈ shards) {a : α} (hattr : attr x = some a)
    {attr' : ShardID → Option α} (hx' : attr' x = none) (hoff : ∀ y, y ≠ x → attr' y = attr y) :
    (scope.removeAttrAtScope x a (status x)).Counts shards status attr' := by
  cases hl : scope.shard_map.lookup x with
  | none =>
    rw [removeAttrAtScope_of_lookup_eq_none hl]
    exact h.of_agree fun y d hy => ⟨rfl, hoff y fun hyx => by rw [hyx, hl] at hy; cases hy⟩
  | some d₀ =>
    have hK : (scope.removeAttrAtScope x a (status x)).domains.keys.toFinset =
        scope.domains.keys.toFinset := by
      rw [removeAttrAtScope_keys hl, Finset.insert_eq_of_mem ((h.mem_domains d₀).mpr ⟨x, hl⟩)]
    -- `x` is one of the shards of its domain with `a`, fully authoritative or not
    have hall : 0 < ((scope.domain d₀).count a).all := by
      rw [h.all]
      exact Finset.card_pos.mpr ⟨x, Finset.mem_filter.mpr ⟨hx, hl, hattr⟩⟩
    have hfull : isFully (status x) = false → ((scope.domain d₀).count a).full_only <
        ((scope.domain d₀).count a).all := by
      intro hf
      have hpos : 0 < (shards.filter fun y => scope.shard_map.lookup y = some d₀ ∧
          attr y = some a ∧ isFully (status y) = false).card :=
        Finset.card_pos.mpr ⟨x, Finset.mem_filter.mpr ⟨hx, hl, hattr, hf⟩⟩
      have := h.full_only_add d₀ a
      omega
    refine ⟨?_, ?_, fun d => ?_, fun d => ?_, fun d a' => ?_, fun d a' => ?_,
      h.scope_n_empty_of_frame hK (by simp) (by simp) (by simp)⟩
    · simpa using h.mem_shards
    · simpa [hK] using h.mem_domains
    · simpa using h.n_shards d
    · simpa using h.n_empty d
    · have hu := Count.card_filter_update (s := shards)
        (p := fun y => scope.shard_map.lookup y = some d ∧ attr y = some a')
        (q := fun y => scope.shard_map.lookup y = some d ∧ attr' y = some a') x
        (fun y _ hyx => by rw [hoff y hyx])
      rw [← h.all] at hu
      rw [removeAttrAtScope_shard_map, removeAttrAtScope_domain_count hl]
      by_cases hd : d = d₀ <;> by_cases ha : a' = a
      · subst hd ha
        simp [hx, hl, hattr, hx'] at hu
        rw [if_pos ⟨rfl, rfl⟩]
        by_cases hz : ((scope.domain d).count a').all - 1 = 0
        · rw [if_pos hz]
          show 0 = _
          omega
        · rw [if_neg hz]
          show _ - 1 = _
          omega
      · subst hd
        simp [hx, hl, hattr, hx', Ne.symm ha] at hu
        simp [ha, hu]
      · simp [hx, hl, hattr, hx', Ne.symm hd] at hu
        simp [hd, hu]
      · simp [hx, hl, hattr, hx', Ne.symm hd] at hu
        simp [hd, hu]
    · have hu := Count.card_filter_update (s := shards)
        (p := fun y => scope.shard_map.lookup y = some d ∧ attr y = some a' ∧
          isFully (status y) = true)
        (q := fun y => scope.shard_map.lookup y = some d ∧ attr' y = some a' ∧
          isFully (status y) = true) x
        (fun y _ hyx => by rw [hoff y hyx])
      rw [← h.full_only] at hu
      rw [removeAttrAtScope_shard_map, removeAttrAtScope_domain_count hl]
      by_cases hd : d = d₀ <;> by_cases ha : a' = a
      · subst hd ha
        rw [if_pos ⟨rfl, rfl⟩]
        have hle := h.full_only_add d a'
        by_cases hz : ((scope.domain d).count a').all - 1 = 0
        · -- the last shard with `a` leaves, and the attribute is forgotten
          rw [if_pos hz]
          show 0 = _
          cases hf : isFully (status x) <;> simp [hx, hl, hattr, hx', hf] at hu
          · have := hfull hf
            omega
          · omega
        · rw [if_neg hz]
          show _ - _ = _
          cases hf : isFully (status x) <;> simp [hx, hl, hattr, hx', hf] at hu ⊢ <;> omega
      · subst hd
        simp [hx, hl, hattr, hx', Ne.symm ha] at hu
        simp [ha, hu]
      · simp [hx, hl, hattr, hx', Ne.symm hd] at hu
        simp [hd, hu]
      · simp [hx, hl, hattr, hx', Ne.symm hd] at hu
        simp [hd, hu]

/-- The shard goes from status `prev` to another status `s`: `setShardAuthoritativeStatusAtScope`. -/
lemma setShardAuthoritativeStatusAtScope (hx : x ∈ shards) {prev s : AuthoritativeStatus}
    (hprev : status x = prev) (hne : prev ≠ s) {status' : ShardID → AuthoritativeStatus}
    (hx' : status' x = s) (hoff : ∀ y, y ≠ x → status' y = status y) :
    (scope.setShardAuthoritativeStatusAtScope x prev s (attr x)).Counts shards status' attr := by
  cases hl : scope.shard_map.lookup x with
  | none =>
    rw [setShardAuthoritativeStatusAtScope_of_lookup_eq_none _ hl]
    exact h.of_agree fun y d hy => ⟨hoff y (fun hyx => by rw [hyx, hl] at hy; cases hy), rfl⟩
  | some d₀ =>
    set sc := scope.setShardAuthoritativeStatusAtScope x prev s (attr x)
    have hd₀ := (h.mem_domains d₀).mpr ⟨x, hl⟩
    have hK : sc.domains.keys.toFinset = scope.domains.keys.toFinset := by
      rw [setShardAuthoritativeStatusAtScope_keys _ hl, Finset.insert_eq_of_mem hd₀]
    -- what the shard's domain counted before the step
    have hle : (scope.domain d₀).n_empty ≤ (scope.domain d₀).n_shards := by
      rw [h.n_empty, h.n_shards]
      exact Finset.card_le_card fun y hy => by
        simp only [Finset.mem_filter] at hy ⊢
        exact ⟨hy.1, hy.2.1⟩
    have hempty : prev = .AUTHORITATIVE_EMPTY → 0 < (scope.domain d₀).n_empty := fun hp => by
      rw [h.n_empty]
      exact Finset.card_pos.mpr ⟨x, Finset.mem_filter.mpr ⟨hx, hl, hprev.trans hp⟩⟩
    have hfull : prev ≠ .AUTHORITATIVE_EMPTY →
        (scope.domain d₀).n_empty < (scope.domain d₀).n_shards := fun hp =>
      h.n_empty_lt_n_shards hx hl (hprev ▸ hp)
    refine ⟨?_, ?_, fun d => ?_, fun d => ?_, fun d a' => ?_, fun d a' => ?_, ?_⟩
    · simpa [sc] using h.mem_shards
    · simpa [sc, hK] using h.mem_domains
    · simpa [sc] using h.n_shards d
    · have hu := Count.card_filter_update (s := shards)
        (p := fun y => scope.shard_map.lookup y = some d ∧ status y = .AUTHORITATIVE_EMPTY)
        (q := fun y => scope.shard_map.lookup y = some d ∧ status' y = .AUTHORITATIVE_EMPTY) x
        (fun y _ hyx => by rw [hoff y hyx])
      rw [← h.n_empty] at hu
      rw [setShardAuthoritativeStatusAtScope_shard_map,
        setShardAuthoritativeStatusAtScope_domain_n_empty _ hl]
      by_cases hd : d = d₀
      · subst hd
        rw [if_pos rfl]
        simp only [hx, hl, hprev, hx', true_and] at hu
        by_cases hs : s = .AUTHORITATIVE_EMPTY <;> by_cases hp : prev = .AUTHORITATIVE_EMPTY
        · exact absurd (hp.trans hs.symm) hne
        all_goals simp only [hs, hp, if_true, if_false] at hu ⊢
        all_goals have := hempty
        all_goals omega
      · simp only [hx, hl, Option.some_inj, Ne.symm hd, false_and, and_false, if_false] at hu
        rw [if_neg hd]
        omega
    · rw [setShardAuthoritativeStatusAtScope_shard_map, ← h.all d a',
        setShardAuthoritativeStatusAtScope_domain_count _ hl]
      by_cases hd : d = d₀ ∧ attr x = some a'
      · rw [if_pos hd, hd.1]
      · rw [if_neg hd]
    · have hu := Count.card_filter_update (s := shards)
        (p := fun y => scope.shard_map.lookup y = some d ∧ attr y = some a' ∧
          isFully (status y) = true)
        (q := fun y => scope.shard_map.lookup y = some d ∧ attr y = some a' ∧
          isFully (status' y) = true) x
        (fun y _ hyx => by rw [hoff y hyx])
      rw [← h.full_only] at hu
      rw [setShardAuthoritativeStatusAtScope_shard_map,
        setShardAuthoritativeStatusAtScope_domain_count _ hl]
      by_cases hd : d = d₀ ∧ attr x = some a'
      · obtain ⟨rfl, ha⟩ := hd
        rw [if_pos ⟨rfl, ha⟩]
        show _ + _ - _ = _
        simp only [hx, hl, ha, hprev, hx', true_and] at hu
        cases hfp : isFully prev <;> cases hfs : isFully s <;> simp [hfp, hfs] at hu ⊢ <;> omega
      · rw [if_neg hd]
        have hx0 : ¬ (x ∈ shards ∧ scope.shard_map.lookup x = some d ∧ attr x = some a' ∧
            isFully (status x) = true) := fun hc => hd ⟨(Option.some_inj.mp (hl ▸ hc.2.1)).symm, hc.2.2.1⟩
        have hx1 : ¬ (x ∈ shards ∧ scope.shard_map.lookup x = some d ∧ attr x = some a' ∧
            isFully (status' x) = true) := fun hc => hd ⟨(Option.some_inj.mp (hl ▸ hc.2.1)).symm, hc.2.2.1⟩
        rw [if_neg hx0, if_neg hx1] at hu
        omega
    · -- only the shard's domain can become, or stop being, empty
      have hu := Count.card_filter_update (s := scope.domains.keys.toFinset)
        (p := fun d => (scope.domain d).n_empty = (scope.domain d).n_shards)
        (q := fun d => (sc.domain d).n_empty = (sc.domain d).n_shards) d₀
        (fun d _ hd => by
          rw [setShardAuthoritativeStatusAtScope_domain_n_empty _ hl, if_neg hd,
            setShardAuthoritativeStatusAtScope_domain_n_shards])
      rw [← h.scope_n_empty, setShardAuthoritativeStatusAtScope_domain_n_empty _ hl, if_pos rfl,
        setShardAuthoritativeStatusAtScope_domain_n_shards] at hu
      simp only [hd₀, true_and] at hu
      rw [setShardAuthoritativeStatusAtScope_n_empty _ hl, hK]
      unfold setEmptyAtScope
      by_cases hs : s = .AUTHORITATIVE_EMPTY <;> by_cases hp : prev = .AUTHORITATIVE_EMPTY
      · exact absurd (hp.trans hs.symm) hne
      · -- the domain was not empty, and is now if this was its last shard that was not
        have := hfull hp
        simp only [hs, hp, if_true, if_false] at hu ⊢
        split_ifs at hu ⊢ <;> omega
      · -- the domain is no longer empty, and was if this was its only empty shard left
        have := hempty hp
        simp only [hs, hp, if_true, if_false] at hu ⊢
        split_ifs at hu ⊢ <;> omega
      · simp only [hs, hp, if_false] at hu ⊢
        split_ifs at hu ⊢ <;> omega

/-- Every shard loses its attribute: `resetAttributeCounters` at one scope. -/
lemma resetAttributeCountersAtScope {attr' : ShardID → Option α} (hnone : ∀ y, attr' y = none) :
    scope.resetAttributeCountersAtScope.Counts shards status attr' := by
  have hK : scope.resetAttributeCountersAtScope.domains.keys.toFinset =
      scope.domains.keys.toFinset := by
    rw [resetAttributeCountersAtScope_keys]
  refine ⟨h.mem_shards, by simpa [hK] using h.mem_domains, fun d => ?_, fun d => ?_,
    fun d a => ?_, fun d a => ?_, h.scope_n_empty_of_frame hK rfl (fun d => ?_) (fun d => ?_)⟩
  all_goals simp only [resetAttributeCountersAtScope_domain, resetAttributeCountersAtScope_shard_map]
  · exact h.n_shards d
  · exact h.n_empty d
  · simp [FailureDomainState.count, hnone]
  · simp [FailureDomainState.count, hnone]

end Counts

end ScopeState

end LogDevice.FailureDomain
