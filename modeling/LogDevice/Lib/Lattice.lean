import Mathlib

/-!
# Largest values at or above an index, and operations in any bracketing

`supFrom l f x` is the largest value `f` takes at an index of `l` at or above `x` (`0` if there
is none). A loop that visits `l` from its largest index down keeps it as a running maximum:
`supFrom_cons_of_le` and `supFrom_cons_of_lt` take one index off the front of `l`. It reads `f`
only at or above `x` (`supFrom_congr`) and shrinks further up (`supFrom_anti`).

`Rising c l f` says that the nonzero values of `f` on `l` are at least `c` and grow toward smaller
indices; equivalently each of them is, with `c`, the largest value at or above its index
(`rising_iff`). Past the largest index `x` of `l`, the running value of such a loop is
`max c (f x)` (`Rising.tail`).

On a list where a predicate stays true once it holds, `findIdx` finds the boundary:
`findIdx_le_iff` is `std::upper_bound` on a sorted range.

A `Bracketing` puts brackets in a nonempty sequence, and `eval` applies an operation at each of
them. An operation that a map sends to the infimum of a semilattice evaluates, in every
bracketing, to what the left fold over the leaves evaluates to (`Bracketing.map_eval`): up to the
map, the operation is associative.
-/

namespace LogDevice.Lib

section SupFrom

variable {ι : Type _} [LinearOrder ι] {l : List ι} {f g : ι → ℕ} {x y : ι} {c : ℕ}

/-- The largest value `f` takes at an index of `l` at or above `x`; `0` if there is none. -/
def supFrom (l : List ι) (f : ι → ℕ) (x : ι) : ℕ :=
  ((l.filter (x ≤ ·)).map f).foldr max 0

@[simp] lemma supFrom_nil : supFrom [] f x = 0 := rfl

lemma supFrom_cons_of_le (h : x ≤ y) : supFrom (y :: l) f x = max (f y) (supFrom l f x) := by
  simp [supFrom, h]

lemma supFrom_cons_of_lt (h : y < x) : supFrom (y :: l) f x = supFrom l f x := by
  simp [supFrom, not_le.mpr h]

lemma le_supFrom (hy : y ∈ l) (hxy : x ≤ y) : f y ≤ supFrom l f x := by
  induction l with
  | nil => cases hy
  | cons z l ih =>
    rcases List.mem_cons.mp hy with rfl | hy
    · rw [supFrom_cons_of_le hxy]
      exact le_max_left _ _
    · rcases le_or_gt x z with hz | hz
      · rw [supFrom_cons_of_le hz]
        exact le_max_of_le_right (ih hy)
      · rw [supFrom_cons_of_lt hz]
        exact ih hy

lemma supFrom_le (h : ∀ y ∈ l, x ≤ y → f y ≤ c) : supFrom l f x ≤ c := by
  induction l with
  | nil => exact Nat.zero_le c
  | cons z l ih =>
    have htail := ih fun y hy => h y (List.mem_cons_of_mem z hy)
    rcases le_or_gt x z with hz | hz
    · rw [supFrom_cons_of_le hz]
      exact max_le (h z List.mem_cons_self hz) htail
    · rw [supFrom_cons_of_lt hz]
      exact htail

/-- Further up there are fewer indices. -/
lemma supFrom_anti (h : x ≤ y) : supFrom l f y ≤ supFrom l f x :=
  supFrom_le fun _ hz hyz => le_supFrom hz (h.trans hyz)

lemma supFrom_congr (h : ∀ y ∈ l, x ≤ y → f y = g y) : supFrom l f x = supFrom l g x := by
  apply le_antisymm
  · exact supFrom_le fun y hy hxy => (h y hy hxy).le.trans (le_supFrom hy hxy)
  · exact supFrom_le fun y hy hxy => (h y hy hxy).ge.trans (le_supFrom hy hxy)

lemma supFrom_of_forall_lt (h : ∀ y ∈ l, y < x) : supFrom l f x = 0 :=
  Nat.eq_zero_of_le_zero (supFrom_le fun y hy hxy => absurd hxy (not_le.mpr (h y hy)))

lemma exists_of_supFrom_ne_zero (h : supFrom l f x ≠ 0) : ∃ y ∈ l, x ≤ y ∧ f y ≠ 0 := by
  by_contra hne
  push Not at hne
  exact h (Nat.eq_zero_of_le_zero (supFrom_le fun y hy hxy => (hne y hy hxy).le))

lemma supFrom_perm {l' : List ι} (h : l.Perm l') : supFrom l f x = supFrom l' f x := by
  unfold supFrom
  exact ((h.filter _).map f).foldr_eq' (f := max) (fun a _ b _ z => max_left_comm b a z) 0

/-- The nonzero values `f` takes on `l` are at least `c`, and grow toward smaller indices. -/
def Rising (c : ℕ) (l : List ι) (f : ι → ℕ) : Prop :=
  ∀ x ∈ l, f x ≠ 0 → c ≤ f x ∧ ∀ y ∈ l, x ≤ y → f y ≠ 0 → f y ≤ f x

lemma Rising.eq_max_supFrom (h : Rising c l f) (hx : x ∈ l) (hfx : f x ≠ 0) :
    f x = max c (supFrom l f x) := by
  obtain ⟨hc, hle⟩ := h x hx hfx
  apply le_antisymm
  · exact le_max_of_le_right (le_supFrom hx le_rfl)
  · refine max_le hc (supFrom_le fun y hy hxy => ?_)
    by_cases hfy : f y = 0
    · exact hfy ▸ Nat.zero_le _
    · exact hle y hy hxy hfy

lemma rising_of_eq_max_supFrom (h : ∀ x ∈ l, f x ≠ 0 → f x = max c (supFrom l f x)) :
    Rising c l f := by
  intro x hx hfx
  refine ⟨(h x hx hfx).symm ▸ le_max_left _ _, fun y hy hxy hfy => ?_⟩
  rw [h x hx hfx, h y hy hfy]
  exact max_le_max le_rfl (supFrom_anti hxy)

lemma rising_iff : Rising c l f ↔ ∀ x ∈ l, f x ≠ 0 → f x = max c (supFrom l f x) :=
  ⟨fun h _ hx hfx => h.eq_max_supFrom hx hfx, rising_of_eq_max_supFrom⟩

lemma rising_cons_of_eq_zero (h : f x = 0) : Rising c (x :: l) f ↔ Rising c l f := by
  simp [Rising, h]

/-- Adding a largest index with a nonzero value. -/
lemma rising_cons_of_lt (hx : ∀ y ∈ l, x < y) (hfx : f x ≠ 0) :
    Rising c (x :: l) f ↔ c ≤ f x ∧ (∀ y ∈ l, f y ≠ 0 → f y ≤ f x) ∧ Rising c l f := by
  constructor
  · intro h
    obtain ⟨hc, hup⟩ := h x List.mem_cons_self hfx
    refine ⟨hc, fun y hy hfy => hup y (List.mem_cons_of_mem x hy) (hx y hy).le hfy, ?_⟩
    intro z hz hfz
    obtain ⟨hcz, hupz⟩ := h z (List.mem_cons_of_mem x hz) hfz
    exact ⟨hcz, fun y hy hzy hfy => hupz y (List.mem_cons_of_mem x hy) hzy hfy⟩
  · rintro ⟨hc, hup, hrise⟩ z hz hfz
    rcases List.mem_cons.mp hz with rfl | hz
    · refine ⟨hc, fun y hy _ hfy => ?_⟩
      rcases List.mem_cons.mp hy with rfl | hy
      · exact le_rfl
      · exact hup y hy hfy
    · obtain ⟨hcz, hupz⟩ := hrise z hz hfz
      refine ⟨hcz, fun y hy hzy hfy => ?_⟩
      rcases List.mem_cons.mp hy with hyx | hy
      · rw [hyx] at hzy
        exact absurd hzy (not_le.mpr (hx z hz))
      · exact hupz y hy hzy hfy

/-- `Rising` reads `l` as a set. -/
lemma rising_congr {l' : List ι} (h : ∀ x, x ∈ l ↔ x ∈ l') : Rising c l f ↔ Rising c l' f := by
  simp only [Rising, h]

/-- The loop step over the largest index `x`: the values left are at least `max c (f x)`. -/
lemma Rising.tail (h : Rising c (x :: l) f) (hx : ∀ y ∈ l, y < x) :
    Rising (max c (f x)) l f := by
  intro y hy hfy
  obtain ⟨hc, hle⟩ := h y (List.mem_cons_of_mem x hy) hfy
  refine ⟨max_le hc ?_, fun z hz hyz hfz => hle z (List.mem_cons_of_mem x hz) hyz hfz⟩
  by_cases hfx : f x = 0
  · exact hfx ▸ Nat.zero_le _
  · exact hle x List.mem_cons_self (hx y hy).le hfx

/-- Keeping the last nonzero value is keeping the running maximum. -/
lemma Rising.ite_eq (h : Rising c (x :: l) f) : (if f x ≠ 0 then f x else c) = max c (f x) := by
  by_cases hfx : f x = 0
  · simp [hfx]
  · simp [hfx, (h x List.mem_cons_self hfx).1]

end SupFrom

section FindIdx

variable {α : Type _} {p : α → Bool} {l : List α}

/-- Where a predicate that stays true along `l` once it holds first holds (`std::upper_bound` on a
sorted range): an index is at or past that point exactly when the predicate holds there. -/
lemma findIdx_le_iff (hmono : ∀ (i j : ℕ) (hi : i < l.length) (hj : j < l.length), i ≤ j →
      p l[i] = true → p l[j] = true)
    {j : ℕ} (hj : j < l.length) : l.findIdx p ≤ j ↔ p l[j] = true := by
  constructor
  · intro h
    have hlt : l.findIdx p < l.length := lt_of_le_of_lt h hj
    exact hmono _ j hlt hj h (List.findIdx_getElem (w := hlt))
  · intro hp
    by_contra hlt
    exact absurd hp (by simp [List.not_of_lt_findIdx (not_le.mp hlt)])

/-- The slice `[a, b]` of a list, as iterators from `a` to one past `b` walk it. -/
lemma mem_drop_take_iff {a b : ℕ} {x : α} :
    x ∈ (l.take (b + 1)).drop a ↔ ∃ i, ∃ hi : i < l.length, l[i] = x ∧ a ≤ i ∧ i ≤ b := by
  rw [List.mem_drop_iff_getElem]
  constructor
  · rintro ⟨j, hj, rfl⟩
    simp only [List.length_take] at hj
    exact ⟨a + j, by omega, by simp, by omega, by omega⟩
  · rintro ⟨i, hi, rfl, hai, hib⟩
    refine ⟨i - a, by simp only [List.length_take]; omega, ?_⟩
    simp only [List.getElem_take, Nat.add_sub_cancel' hai]

end FindIdx

/-- A way of putting brackets in a nonempty sequence. -/
inductive Bracketing (α : Type _) where
  | leaf : α → Bracketing α
  | node : Bracketing α → Bracketing α → Bracketing α
  deriving DecidableEq, Repr

namespace Bracketing

variable {α β : Type _}

/-- The sequence the brackets are put in. -/
def leaves : Bracketing α → List α
  | leaf a => [a]
  | node t u => t.leaves ++ u.leaves

/-- The operation applied at every bracket. -/
def eval (op : α → α → α) : Bracketing α → α
  | leaf a => a
  | node t u => op (t.eval op) (u.eval op)

lemma leaves_ne_nil : ∀ t : Bracketing α, t.leaves ≠ []
  | leaf _ => List.cons_ne_nil _ _
  | node t _ => by simp [leaves, leaves_ne_nil t]

section

variable [SemilatticeInf β] {op : α → α → α} {φ : α → β} {p : α → Prop}
  (hop : ∀ a b, p a → p b → p (op a b)) (hφ : ∀ a b, p a → p b → φ (op a b) = φ a ⊓ φ b)
include hop hφ

/-- A left fold of the operation is sent to the left fold of the infimum. -/
lemma map_foldl : ∀ {l : List α} {a : α}, p a → (∀ b ∈ l, p b) →
    p (l.foldl op a) ∧ φ (l.foldl op a) = (l.map φ).foldl (· ⊓ ·) (φ a)
  | [], _, ha, _ => ⟨ha, rfl⟩
  | b :: l, a, ha, hl => by
    have hb := hl b List.mem_cons_self
    have ih := map_foldl (hop a b ha hb) fun c hc => hl c (List.mem_cons_of_mem b hc)
    simpa only [List.foldl_cons, List.map_cons, hφ a b ha hb] using ih

/-- In every bracketing the operation evaluates, up to `φ`, as the left fold of its leaves. -/
lemma map_eval : ∀ {t : Bracketing α} {a : α} {l : List α}, t.leaves = a :: l →
    (∀ b ∈ t.leaves, p b) → p (t.eval op) ∧ φ (t.eval op) = φ (l.foldl op a)
  | leaf b, a, l, hl, hp => by
    obtain ⟨rfl, rfl⟩ := List.cons_eq_cons.mp hl
    exact ⟨hp _ List.mem_cons_self, rfl⟩
  | node t u, a, l, hl, hp => by
    obtain ⟨a', lt, ht⟩ := List.exists_cons_of_ne_nil t.leaves_ne_nil
    obtain ⟨b, lu, hu⟩ := List.exists_cons_of_ne_nil u.leaves_ne_nil
    have hl' : a' = a ∧ lt ++ b :: lu = l := by
      simpa only [leaves, ht, hu, List.cons_append, List.cons.injEq] using hl
    obtain ⟨rfl, rfl⟩ := hl'
    have hpt : ∀ c ∈ t.leaves, p c := fun c hc => hp c (List.mem_append_left _ hc)
    have hpu : ∀ c ∈ u.leaves, p c := fun c hc => hp c (List.mem_append_right _ hc)
    obtain ⟨hpt', hφt⟩ := map_eval ht hpt
    obtain ⟨hpu', hφu⟩ := map_eval hu hpu
    -- both folds start at a leaf, and the fold over the whole sequence passes through `b`
    have hla := List.forall_mem_cons.mp (ht ▸ hpt)
    have hlb := List.forall_mem_cons.mp (hu ▸ hpu)
    have hfold : ∀ c ∈ lt ++ b :: lu, p c := by
      simpa only [List.mem_append, List.mem_cons] using fun c hc =>
        hc.elim (hla.2 c) fun hc => hc.elim (fun h => h ▸ hlb.1) (hlb.2 c)
    refine ⟨hop _ _ hpt' hpu', ?_⟩
    rw [eval, hφ _ _ hpt' hpu', hφt, hφu, (map_foldl hop hφ hla.1 hfold).2,
      (map_foldl hop hφ hla.1 hla.2).2, (map_foldl hop hφ hlb.1 hlb.2).2, List.map_append,
      List.foldl_append, List.map_cons, List.foldl_cons, List.foldl_assoc]

end

end Bracketing

end LogDevice.Lib
