import LogDevice.Configuration.Location
import LogDevice.Lib.Lattice

/-!
# Comparing and combining replication properties

Model of the part of `ReplicationProperty` (`common/configuration/ReplicationProperty.h`) that
epoch metadata uses to compare and combine properties: `isEmpty`,
`getDistinctReplicationFactors`, `operator==` (which compares those) and `narrowest`.

What a property asks at a scope, `effectiveReplication` (`eff`), is the largest factor it gives at
that scope or a larger one, `0` if it gives none. A property is valid exactly when it gives a
factor and every factor it gives is what it asks at its scope (`isValid_iff`). `narrowest` asks at
every scope the smaller of what the two properties ask (`effectiveReplication_narrowest`), and
`operator==` tells valid properties apart only by what they ask
(`beq_of_effectiveReplication_eq`).

Scopes are ordered as `static_cast<size_t>` orders them, `NODE` first: the loops below visit
`replicationScopes.reverse`, the largest scope first.
-/

namespace LogDevice.Configuration

open LogDevice.Lib

namespace NodeLocationScope

lemma toNat_injective : Function.Injective toNat := by
  intro a b h
  cases a <;> cases b <;> first | rfl | exact absurd h (by decide)

/-- Scopes compare as the `enum class` does, `NODE` the smallest. -/
instance : LinearOrder NodeLocationScope := LinearOrder.lift' toNat toNat_injective

lemma NODE_le (scope : NodeLocationScope) : NODE ≤ scope := by
  cases scope <;> decide

end NodeLocationScope

open NodeLocationScope

lemma replicationScopes_pairwise : replicationScopes.Pairwise (· < ·) := by decide

lemma replicationScopes_reverse_pairwise : replicationScopes.reverse.Pairwise (· > ·) :=
  List.pairwise_reverse.mpr replicationScopes_pairwise

/-- `ROOT` and `INVALID` are above every scope a factor is given for. -/
lemma lt_of_not_mem_replicationScopes {scope : NodeLocationScope} (h : scope ∉ replicationScopes) :
    ∀ scope' ∈ replicationScopes, scope' < scope := by
  cases scope <;> first | exact absurd (by decide) h | decide

namespace ReplicationProperty

/-- `ReplicationProperty::isEmpty`: no factor at any scope, as in `ReplicationProperty()`. -/
def isEmpty (rep : ReplicationProperty) : Bool :=
  replicationScopes.all fun scope => rep.getReplication scope == 0

/-- The loop of `getDistinctReplicationFactors` over the scopes left, largest first, from `prev`,
the last factor it kept. -/
def distinctFrom (rep : ReplicationProperty) :
    List NodeLocationScope → Nat → List (NodeLocationScope × Nat)
  | [], _ => []
  | scope :: scopes, prev =>
    let r := rep.getReplication scope
    if r = 0 ∨ r = prev then rep.distinctFrom scopes prev
    else (scope, r) :: rep.distinctFrom scopes r

/-- `ReplicationProperty::getDistinctReplicationFactors`: each factor with the largest scope it
is given at, the smallest factor first; nothing for an empty or an invalid property. -/
def getDistinctReplicationFactors (rep : ReplicationProperty) : List (NodeLocationScope × Nat) :=
  if rep.isEmpty then []
  else if !rep.isValid then []
  else rep.distinctFrom replicationScopes.reverse 0

/-- `ReplicationProperty::operator==`: the same distinct factors. -/
instance : BEq ReplicationProperty :=
  ⟨fun rep rhs => rep.getDistinctReplicationFactors == rhs.getDistinctReplicationFactors⟩

/-- The loop of `ReplicationProperty::narrowest` over the scopes left, largest first: `cur0` and
`cur1` are the last factors `rep` and `rhs` gave, `prev` the last factor written. -/
def narrowestFrom (rep rhs : ReplicationProperty) :
    List NodeLocationScope → ReplicationProperty → Nat → Nat → Nat → ReplicationProperty
  | [], res, _, _, _ => res
  | scope :: scopes, res, cur0, cur1, prev =>
    -- fill in the factors missing in both properties
    let cur0 := if rep.getReplication scope ≠ 0 then rep.getReplication scope else cur0
    let cur1 := if rhs.getReplication scope ≠ 0 then rhs.getReplication scope else cur1
    let mn := min cur0 cur1
    if mn ≠ prev then narrowestFrom rep rhs scopes (res.setReplication scope mn) cur0 cur1 mn
    else narrowestFrom rep rhs scopes res cur0 cur1 prev

/-- `ReplicationProperty::narrowest`: the property every copyset satisfying one of the two
satisfies. An invalid property gives way to a valid one; for two invalid ones that are not both
empty, the loop runs as in a release build. -/
def narrowest (rep rhs : ReplicationProperty) : ReplicationProperty :=
  if rep.isEmpty && rhs.isEmpty then rep
  else if !rhs.isValid && rep.isValid then rep
  else if !rep.isValid && rhs.isValid then rhs
  else narrowestFrom rep rhs replicationScopes.reverse empty 0 0 0

/-- What `rep` asks at `scope` (`eff`): the largest factor it gives at `scope` or a larger scope,
`0` if it gives none. -/
def effectiveReplication (rep : ReplicationProperty) (scope : NodeLocationScope) : Nat :=
  supFrom replicationScopes rep.getReplication scope

/-- A copyset that spans `span scope` distinct domains at each scope satisfies `rep`: at every
scope, at least the factor `rep` gives there. -/
def satisfiedBy (rep : ReplicationProperty) (span : NodeLocationScope → Nat) : Prop :=
  ∀ scope ∈ replicationScopes, rep.getReplication scope ≤ span scope

variable {rep rhs : ReplicationProperty}

/-! ### Validity -/

/-- The loop of `isValid` over scopes listed smallest first, from an upper bound `cur`. -/
lemma isValidFrom_iff :
    ∀ {cur : Option Nat} {scopes : List NodeLocationScope}, scopes.Pairwise (· < ·) →
      (rep.isValidFrom cur scopes = true ↔
        (cur.isSome ∨ ∃ scope ∈ scopes, rep.getReplication scope ≠ 0) ∧
        (∀ scope ∈ scopes, rep.getReplication scope ≠ 0 → ∀ c ∈ cur, rep.getReplication scope ≤ c) ∧
        Rising 0 scopes rep.getReplication)
  | cur, [], _ => by simp [isValidFrom, Rising]
  | cur, scope :: scopes, hpw => by
    obtain ⟨hlt, hpw⟩ := List.pairwise_cons.mp hpw
    have ih : rep.isValidFrom (some (rep.getReplication scope)) scopes = true ↔ _ :=
      isValidFrom_iff hpw
    have ih₀ : rep.isValidFrom cur scopes = true ↔ _ := isValidFrom_iff hpw
    simp only [isValidFrom]
    by_cases h0 : rep.getReplication scope = 0
    · simp only [h0, if_true, ih₀, rising_cons_of_eq_zero h0,
        List.mem_cons, exists_eq_or_imp, forall_eq_or_imp, ne_eq, not_true, false_or,
        false_implies, true_and]
    · rw [if_neg h0, rising_cons_of_lt hlt h0]
      by_cases hcur : cur.any (· < rep.getReplication scope) = true
      · simp only [hcur, if_true, Bool.false_eq_true, false_iff]
        obtain ⟨c, hc, hlt'⟩ := (Option.any_eq_true _ _).mp hcur
        rintro ⟨-, hle, -⟩
        exact absurd (hle scope List.mem_cons_self h0 c hc) (not_le.mpr
          (decide_eq_true_iff.mp hlt'))
      · have hle : ∀ c ∈ cur, rep.getReplication scope ≤ c := fun c hc =>
          not_lt.mp fun hlt' => hcur ((Option.any_eq_true _ _).mpr ⟨c, hc, decide_eq_true hlt'⟩)
        rw [if_neg hcur, ih]
        constructor
        · rintro ⟨-, hbound, hrise⟩
          refine ⟨.inr ⟨scope, List.mem_cons_self, h0⟩, ?_, Nat.zero_le _,
            fun t ht hft => hbound t ht hft _ rfl, hrise⟩
          intro t ht hft c hc
          rcases List.mem_cons.mp ht with rfl | ht
          · exact hle c hc
          · exact (hbound t ht hft _ rfl).trans (hle c hc)
        · rintro ⟨-, hbound, -, hup, hrise⟩
          refine ⟨.inl rfl, fun t ht hft c hc => ?_, hrise⟩
          obtain rfl := Option.mem_some_iff.mp hc
          exact hup t ht hft

/-- A property is valid when it gives a factor, and the factors it gives grow toward smaller
scopes. -/
lemma isValid_iff : rep.isValid = true ↔
    (∃ scope ∈ replicationScopes, rep.getReplication scope ≠ 0) ∧
      Rising 0 replicationScopes rep.getReplication := by
  rw [isValid, isValidFrom_iff replicationScopes_pairwise]
  simp

lemma isEmpty_eq_false (h : rep.isValid = true) : rep.isEmpty = false := by
  obtain ⟨⟨scope, hs, h0⟩, -⟩ := isValid_iff.mp h
  simp only [isEmpty, List.all_eq_false, beq_iff_eq]
  exact ⟨scope, hs, h0⟩

/-! ### What a property asks -/

lemma effectiveReplication_eq_reverse (scope : NodeLocationScope) :
    rep.effectiveReplication scope = supFrom replicationScopes.reverse rep.getReplication scope :=
  supFrom_perm (List.reverse_perm _).symm

lemma getReplication_le_effectiveReplication {scope : NodeLocationScope}
    (h : scope ∈ replicationScopes) : rep.getReplication scope ≤ rep.effectiveReplication scope :=
  le_supFrom h le_rfl

lemma effectiveReplication_of_not_mem {scope : NodeLocationScope} (h : scope ∉ replicationScopes) :
    rep.effectiveReplication scope = 0 :=
  supFrom_of_forall_lt (lt_of_not_mem_replicationScopes h)

/-- A valid property asks something at `NODE`. -/
lemma effectiveReplication_node_ne_zero (h : rep.isValid = true) :
    rep.effectiveReplication NODE ≠ 0 := by
  obtain ⟨⟨scope, hs, h0⟩, -⟩ := isValid_iff.mp h
  exact Nat.pos_iff_ne_zero.mp (lt_of_lt_of_le (Nat.pos_of_ne_zero h0) (le_supFrom hs (NODE_le _)))

/-- A property that asks something and gives only factors it asks is valid. -/
lemma isValid_of_effectiveReplication (hnode : rep.effectiveReplication NODE ≠ 0)
    (hasks : ∀ scope ∈ replicationScopes, rep.getReplication scope ≠ 0 →
      rep.getReplication scope = rep.effectiveReplication scope) : rep.isValid = true := by
  obtain ⟨scope, hs, -, h0⟩ := exists_of_supFrom_ne_zero hnode
  refine isValid_iff.mpr ⟨⟨scope, hs, h0⟩, rising_iff.mpr fun scope' hs' h0' => ?_⟩
  rw [zero_max]
  exact hasks scope' hs' h0'

/-! ### `narrowest` -/

/-- The frame of the loop: it writes only the scopes it visits. -/
lemma getReplication_narrowestFrom_of_not_mem {scope : NodeLocationScope} :
    ∀ {scopes : List NodeLocationScope} {res : ReplicationProperty} {cur0 cur1 prev : Nat},
      scope ∉ scopes →
      (narrowestFrom rep rhs scopes res cur0 cur1 prev).getReplication scope =
        res.getReplication scope
  | [], _, _, _, _, _ => rfl
  | s :: scopes, res, cur0, cur1, prev, h => by
    have hne : scope ≠ s := fun he => h (he ▸ List.mem_cons_self)
    have hnot : scope ∉ scopes := fun hm => h (List.mem_cons_of_mem s hm)
    simp only [narrowestFrom]
    generalize (if rep.getReplication s ≠ 0 then rep.getReplication s else cur0) = cur0
    generalize (if rhs.getReplication s ≠ 0 then rhs.getReplication s else cur1) = cur1
    split_ifs
    · rw [getReplication_narrowestFrom_of_not_mem hnot, getReplication_setReplication, if_neg hne]
    · exact getReplication_narrowestFrom_of_not_mem hnot

/-- One step of the loop, where the factors each property gives grow from `cur0` and `cur1`:
the running factors are running maxima, and `prev` is their minimum. -/
lemma narrowestFrom_cons {scope : NodeLocationScope} {scopes : List NodeLocationScope}
    {res : ReplicationProperty} {cur0 cur1 : Nat}
    (h0 : Rising cur0 (scope :: scopes) rep.getReplication)
    (h1 : Rising cur1 (scope :: scopes) rhs.getReplication) :
    narrowestFrom rep rhs (scope :: scopes) res cur0 cur1 (min cur0 cur1) =
      let cur0' := max cur0 (rep.getReplication scope)
      let cur1' := max cur1 (rhs.getReplication scope)
      narrowestFrom rep rhs scopes
        (if min cur0' cur1' ≠ min cur0 cur1 then res.setReplication scope (min cur0' cur1')
          else res)
        cur0' cur1' (min cur0' cur1') := by
  simp only [narrowestFrom, h0.ite_eq, h1.ite_eq]
  split_ifs with hmn
  · rfl
  · rw [not_not.mp hmn]

/-- The loop of `narrowest`, over scopes listed largest first and from running factors `cur0`
and `cur1` that the two properties' factors grow from: the result asks, with `min cur0 cur1`, the
smaller of what the two ask, and gives only factors it asks. -/
lemma narrowestFrom_spec :
    ∀ {scopes : List NodeLocationScope} {res : ReplicationProperty} {cur0 cur1 : Nat},
      scopes.Pairwise (· > ·) → (∀ scope ∈ scopes, res.getReplication scope = 0) →
      Rising cur0 scopes rep.getReplication → Rising cur1 scopes rhs.getReplication →
      (∀ scope ∈ scopes,
        max (min cur0 cur1)
            (supFrom scopes (narrowestFrom rep rhs scopes res cur0 cur1 (min cur0 cur1)).getReplication
              scope) =
          min (max cur0 (supFrom scopes rep.getReplication scope))
            (max cur1 (supFrom scopes rhs.getReplication scope))) ∧
      Rising (min cur0 cur1) scopes
        (narrowestFrom rep rhs scopes res cur0 cur1 (min cur0 cur1)).getReplication
  | [], _, _, _, _, _, _, _ => ⟨(fun _ h => nomatch h), (fun _ h => nomatch h)⟩
  | x :: rest, res, cur0, cur1, hpw, hres, h0, h1 => by
    obtain ⟨hx, hpw⟩ := List.pairwise_cons.mp hpw
    rw [narrowestFrom_cons h0 h1]
    -- the state after visiting `x`
    set cur0' := max cur0 (rep.getReplication x)
    set cur1' := max cur1 (rhs.getReplication x)
    set res' := if min cur0' cur1' ≠ min cur0 cur1 then
      res.setReplication x (min cur0' cur1') else res
    set out := (narrowestFrom rep rhs rest res' cur0' cur1' (min cur0' cur1')).getReplication
    have hres' : ∀ scope ∈ rest, res'.getReplication scope = 0 := by
      intro scope hs
      have hne : scope ≠ x := (hx scope hs).ne
      simp only [res']
      split_ifs
      · rw [getReplication_setReplication, if_neg hne]
        exact hres scope (List.mem_cons_of_mem x hs)
      · exact hres scope (List.mem_cons_of_mem x hs)
    obtain ⟨ih, hrise⟩ := narrowestFrom_spec hpw hres' (h0.tail hx) (h1.tail hx)
    have hprev : min cur0 cur1 ≤ min cur0' cur1' :=
      min_le_min (le_max_left _ _) (le_max_left _ _)
    -- what the loop wrote at `x` is what it asks there
    have hout_x : out x = res'.getReplication x :=
      getReplication_narrowestFrom_of_not_mem fun hm => (hx x hm).false
    have hout_x' : out x = 0 ∧ min cur0' cur1' = min cur0 cur1 ∨ out x = min cur0' cur1' := by
      rw [hout_x]
      simp only [res']
      split_ifs with hmn
      · exact .inr (by rw [getReplication_setReplication, if_pos rfl])
      · exact .inl ⟨hres x List.mem_cons_self, not_not.mp hmn⟩
    have hmax_x : max (min cur0 cur1) (out x) = min cur0' cur1' := by
      rcases hout_x' with ⟨h, hmn⟩ | h
      · rw [h, max_zero, hmn]
      · rw [h, max_eq_right hprev]
    have hsup_x : ∀ f : NodeLocationScope → Nat, supFrom (x :: rest) f x = f x := fun f => by
      rw [supFrom_cons_of_le le_rfl, supFrom_of_forall_lt hx, max_zero]
    have hsup : ∀ f : NodeLocationScope → Nat, ∀ scope ∈ rest,
        supFrom (x :: rest) f scope = max (f x) (supFrom rest f scope) :=
      fun f scope hs => supFrom_cons_of_le (hx scope hs).le
    refine ⟨?_, rising_iff.mpr ?_⟩
    · intro scope hs
      rcases List.mem_cons.mp hs with rfl | hs
      · rw [hsup_x, hsup_x, hsup_x, hmax_x]
      · rw [hsup _ scope hs, hsup _ scope hs, hsup _ scope hs, ← max_assoc, hmax_x, ← max_assoc,
          ← max_assoc, ih scope hs]
    · intro scope hs hne
      rcases List.mem_cons.mp hs with rfl | hs
      · rw [hsup_x]
        rcases hout_x' with ⟨h, -⟩ | h
        · exact absurd h hne
        · rw [h, max_eq_right hprev]
      · rw [hsup _ scope hs, ← max_assoc, hmax_x]
        exact hrise.eq_max_supFrom hs hne

lemma rising_reverse_of_isValid (h : rep.isValid = true) :
    Rising 0 replicationScopes.reverse rep.getReplication :=
  (rising_congr fun _ => List.mem_reverse).mpr (isValid_iff.mp h).2

/-- Two valid properties get to the loop of `narrowest`. -/
lemma narrowest_of_isValid (hrep : rep.isValid = true) (hrhs : rhs.isValid = true) :
    rep.narrowest rhs = narrowestFrom rep rhs replicationScopes.reverse empty 0 0 0 := by
  simp [narrowest, isEmpty_eq_false hrep, hrep, hrhs]

/-- The loop of `narrowest` over all the scopes: the result asks the smaller of what the two
ask, and gives only factors it asks. -/
lemma narrowest_asks (hrep : rep.isValid = true) (hrhs : rhs.isValid = true) :
    (∀ scope ∈ replicationScopes, (rep.narrowest rhs).effectiveReplication scope =
      min (rep.effectiveReplication scope) (rhs.effectiveReplication scope)) ∧
    ∀ scope ∈ replicationScopes, (rep.narrowest rhs).getReplication scope ≠ 0 →
      (rep.narrowest rhs).getReplication scope = (rep.narrowest rhs).effectiveReplication scope := by
  obtain ⟨hmin, hrise⟩ := narrowestFrom_spec replicationScopes_reverse_pairwise
    (fun _ _ => getReplication_empty _)
    (rising_reverse_of_isValid hrep) (rising_reverse_of_isValid hrhs)
  rw [min_self] at hmin hrise
  simp only [effectiveReplication_eq_reverse, narrowest_of_isValid hrep hrhs]
  refine ⟨fun scope hs => ?_, fun scope hs h0 => ?_⟩
  · simpa only [zero_max] using hmin scope (List.mem_reverse.mpr hs)
  · simpa only [zero_max] using hrise.eq_max_supFrom (List.mem_reverse.mpr hs) h0

/-- `narrowest` asks at every scope the smaller of what two valid properties ask. -/
lemma effectiveReplication_narrowest (hrep : rep.isValid = true) (hrhs : rhs.isValid = true)
    (scope : NodeLocationScope) :
    (rep.narrowest rhs).effectiveReplication scope =
      min (rep.effectiveReplication scope) (rhs.effectiveReplication scope) := by
  by_cases hs : scope ∈ replicationScopes
  · exact (narrowest_asks hrep hrhs).1 scope hs
  · rw [effectiveReplication_of_not_mem hs, effectiveReplication_of_not_mem hs,
      effectiveReplication_of_not_mem hs, min_self]

lemma isValid_narrowest (hrep : rep.isValid = true) (hrhs : rhs.isValid = true) :
    (rep.narrowest rhs).isValid = true := by
  apply isValid_of_effectiveReplication _ (narrowest_asks hrep hrhs).2
  rw [effectiveReplication_narrowest hrep hrhs]
  exact (Nat.lt_min.mpr ⟨Nat.pos_of_ne_zero (effectiveReplication_node_ne_zero hrep),
    Nat.pos_of_ne_zero (effectiveReplication_node_ne_zero hrhs)⟩).ne'

/-! ### `operator==` -/

/-- One step of the loop of `getDistinctReplicationFactors`, where the factors grow from `prev`:
a factor is kept when it raises the running maximum. -/
lemma distinctFrom_cons {scope : NodeLocationScope} {scopes : List NodeLocationScope} {prev : Nat}
    (h : Rising prev (scope :: scopes) rep.getReplication) :
    rep.distinctFrom (scope :: scopes) prev =
      if max prev (rep.getReplication scope) = prev then rep.distinctFrom scopes prev
      else (scope, max prev (rep.getReplication scope)) ::
        rep.distinctFrom scopes (max prev (rep.getReplication scope)) := by
  simp only [distinctFrom]
  by_cases h0 : rep.getReplication scope = 0
  · simp [h0]
  · rw [max_eq_right (h scope List.mem_cons_self h0).1]
    simp [h0]

/-- The loop of `getDistinctReplicationFactors` reads only what a property asks above `prev`. -/
lemma distinctFrom_congr {P Q : ReplicationProperty} :
    ∀ {scopes : List NodeLocationScope} {prev : Nat}, scopes.Pairwise (· > ·) →
      Rising prev scopes P.getReplication → Rising prev scopes Q.getReplication →
      (∀ scope ∈ scopes, max prev (supFrom scopes P.getReplication scope) =
        max prev (supFrom scopes Q.getReplication scope)) →
      P.distinctFrom scopes prev = Q.distinctFrom scopes prev
  | [], _, _, _, _, _ => rfl
  | x :: rest, prev, hpw, hP, hQ, hasks => by
    obtain ⟨hx, hpw⟩ := List.pairwise_cons.mp hpw
    have hsup_x : ∀ f : NodeLocationScope → Nat, supFrom (x :: rest) f x = f x := fun f => by
      rw [supFrom_cons_of_le le_rfl, supFrom_of_forall_lt hx, max_zero]
    -- the two ask the same at `x`, so both keep its factor or both skip it
    have hx_eq : max prev (P.getReplication x) = max prev (Q.getReplication x) := by
      simpa only [hsup_x] using hasks x List.mem_cons_self
    have hQ' := hQ.tail hx
    rw [← hx_eq] at hQ'
    have ih := distinctFrom_congr hpw (hP.tail hx) hQ' fun scope hs => by
      have h := hasks scope (List.mem_cons_of_mem x hs)
      rwa [supFrom_cons_of_le (hx scope hs).le, supFrom_cons_of_le (hx scope hs).le, ← max_assoc,
        ← max_assoc, ← hx_eq] at h
    rw [distinctFrom_cons hP, distinctFrom_cons hQ, ← hx_eq]
    split_ifs with hv
    · rwa [hv] at ih
    · rw [ih]

lemma getDistinctReplicationFactors_of_isValid (h : rep.isValid = true) :
    rep.getDistinctReplicationFactors = rep.distinctFrom replicationScopes.reverse 0 := by
  simp [getDistinctReplicationFactors, isEmpty_eq_false h, h]

/-- `operator==` tells valid properties apart only by what they ask. -/
lemma beq_of_effectiveReplication_eq {P Q : ReplicationProperty} (hP : P.isValid = true)
    (hQ : Q.isValid = true) (h : ∀ scope, P.effectiveReplication scope = Q.effectiveReplication scope) :
    (P == Q) = true := by
  have hcongr := distinctFrom_congr replicationScopes_reverse_pairwise
    (rising_reverse_of_isValid hP) (rising_reverse_of_isValid hQ) fun scope _ => by
      rw [← effectiveReplication_eq_reverse, ← effectiveReplication_eq_reverse, h scope]
  show (P.getDistinctReplicationFactors == Q.getDistinctReplicationFactors) = true
  rw [getDistinctReplicationFactors_of_isValid hP, getDistinctReplicationFactors_of_isValid hQ,
    hcongr]
  exact beq_self_eq_true _

/-! ### Copysets -/

/-- A copyset that spans what a property asks at every scope satisfies it. -/
lemma satisfiedBy_of_effectiveReplication_le {span : NodeLocationScope → Nat}
    (h : ∀ scope ∈ replicationScopes, rep.effectiveReplication scope ≤ span scope) :
    rep.satisfiedBy span :=
  fun scope hs => (getReplication_le_effectiveReplication hs).trans (h scope hs)

/-- Up to `operator==`, `narrowest` of valid properties is commutative. -/
lemma narrowest_comm_beq (hrep : rep.isValid = true) (hrhs : rhs.isValid = true) :
    (rep.narrowest rhs == rhs.narrowest rep) = true :=
  beq_of_effectiveReplication_eq (isValid_narrowest hrep hrhs) (isValid_narrowest hrhs hrep)
    fun scope => by
      rw [effectiveReplication_narrowest hrep hrhs, effectiveReplication_narrowest hrhs hrep,
        min_comm]

/-- Up to `operator==`, `narrowest` of a valid property with itself is that property. -/
lemma narrowest_self_beq (hrep : rep.isValid = true) : (rep.narrowest rep == rep) = true :=
  beq_of_effectiveReplication_eq (isValid_narrowest hrep hrep) hrep fun scope => by
    rw [effectiveReplication_narrowest hrep hrep, min_self]

/-- Up to `operator==`, `narrowest` of valid properties is associative. -/
lemma narrowest_assoc_beq {third : ReplicationProperty} (hrep : rep.isValid = true)
    (hrhs : rhs.isValid = true) (hthird : third.isValid = true) :
    ((rep.narrowest rhs).narrowest third == rep.narrowest (rhs.narrowest third)) = true := by
  have hleft := isValid_narrowest hrep hrhs
  have hright := isValid_narrowest hrhs hthird
  refine beq_of_effectiveReplication_eq (isValid_narrowest hleft hthird)
    (isValid_narrowest hrep hright) fun scope => ?_
  rw [effectiveReplication_narrowest hleft hthird, effectiveReplication_narrowest hrep hrhs,
    effectiveReplication_narrowest hrep hright, effectiveReplication_narrowest hrhs hthird, min_assoc]

/-- A copyset that spans what one of two valid properties asks satisfies their `narrowest`. -/
lemma satisfiedBy_narrowest (hrep : rep.isValid = true) (hrhs : rhs.isValid = true)
    {span : NodeLocationScope → Nat}
    (h : (∀ scope ∈ replicationScopes, rep.effectiveReplication scope ≤ span scope) ∨
      ∀ scope ∈ replicationScopes, rhs.effectiveReplication scope ≤ span scope) :
    (rep.narrowest rhs).satisfiedBy span := by
  apply satisfiedBy_of_effectiveReplication_le
  intro scope hs
  rw [effectiveReplication_narrowest hrep hrhs]
  rcases h with h | h
  · exact (min_le_left _ _).trans (h scope hs)
  · exact (min_le_right _ _).trans (h scope hs)

end ReplicationProperty

end LogDevice.Configuration
