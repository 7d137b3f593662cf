import Mathlib

/-!
# Distributions to sample from

Model of the distributions of `common/Sampling.h`. `Sampling::sampleOne` and
`Sampling::sampleMulti` are templates over a distribution class `D` with the methods
`SamplingDistribution` lists. `ProbabilityDistribution` documents what those methods promise:
`prefixSum(i + 1) - prefixSum(i) == weight(i)`, `0 <= findPrefixBySum(s) <= size()`, and
non-negative values throughout (`LawfulDistribution`). `ProbabilityDistribution` itself is an
array of running sums of its weights; it meets those promises (`instLawfulDistribution`), and its
`findPrefixBySum`, a `std::upper_bound` over the running sums, finds the item whose range of sums
holds the point (`findPrefixBySum_spec`).

Weights are exact non-negative rationals: the rounding of the source's doubles, which its comments
give as the reason for several of the checks, is not modelled.
-/

namespace LogDevice

namespace Sampling

/-- `Sampling::EPSILON`, the threshold (relative to the total unadjusted weight) at or below which
a weight counts as zero. -/
def EPSILON : ℚ := 1 / 10 ^ 9

end Sampling

/-- The methods `Sampling::sampleOne` and `Sampling::sampleMulti` call on their distribution. -/
class SamplingDistribution (D : Type) where
  size : D → ℕ
  prefixSum : D → ℕ → ℚ
  weight : D → ℕ → ℚ
  findPrefixBySum : D → ℚ → ℕ
  totalUnadjustedWeight : D → ℚ

open SamplingDistribution

/-- What the source documents of those methods, with exact arithmetic. -/
class LawfulDistribution (D : Type) [SamplingDistribution D] : Prop where
  weight_nonneg : ∀ (d : D) (i : ℕ), i < size d → 0 ≤ weight d i
  prefixSum_succ : ∀ (d : D) (i : ℕ), i < size d → prefixSum d (i + 1) = prefixSum d i + weight d i
  findPrefixBySum_le : ∀ (d : D) (s : ℚ), findPrefixBySum d s ≤ size d
  totalUnadjustedWeight_nonneg : ∀ d : D, 0 ≤ totalUnadjustedWeight d

namespace LawfulDistribution

variable {D : Type} [SamplingDistribution D] [LawfulDistribution D] (d : D)

/-- Prefix sums never fall. -/
lemma prefixSum_mono {a b : ℕ} (hab : a ≤ b) (hb : b ≤ size d) : prefixSum d a ≤ prefixSum d b := by
  induction b, hab using Nat.le_induction with
  | base => exact le_rfl
  | succ b hab ih =>
    rw [prefixSum_succ d b (by omega)]
    linarith [ih (by omega), weight_nonneg d b (by omega)]

/-- The sum over a range of items is at least the weight of any item in it. -/
lemma weight_le_sub {a j b : ℕ} (haj : a ≤ j) (hjb : j < b) (hb : b ≤ size d) :
    weight d j ≤ prefixSum d b - prefixSum d a := by
  have hlo := prefixSum_mono d haj (by omega)
  have hhi := prefixSum_mono d (Nat.succ_le_of_lt hjb) hb
  rw [prefixSum_succ d j (by omega)] at hhi
  linarith

/-- Every weight is at most the total. -/
lemma weight_le_total {j : ℕ} (hj : j < size d) :
    weight d j ≤ prefixSum d (size d) - prefixSum d 0 :=
  weight_le_sub d (Nat.zero_le j) hj le_rfl

end LawfulDistribution

/-- `ProbabilityDistribution`: `weight_cumsum_[i]` is the sum of the first `i + 1` weights.
`assign` checks that every weight is non-negative, so the sums rise from zero. -/
structure ProbabilityDistribution where
  weight_cumsum_ : List ℚ
  rising : (0 :: weight_cumsum_).Pairwise (· ≤ ·)

namespace ProbabilityDistribution

/-- `ProbabilityDistribution::size`. -/
def size (p : ProbabilityDistribution) : ℕ := p.weight_cumsum_.length

/-- `ProbabilityDistribution::prefixSum`. -/
def prefixSum (p : ProbabilityDistribution) : ℕ → ℚ
  | 0 => 0
  | count + 1 => p.weight_cumsum_.getD count 0

/-- `ProbabilityDistribution::weight`. -/
def weight (p : ProbabilityDistribution) (idx : ℕ) : ℚ := p.prefixSum (idx + 1) - p.prefixSum idx

/-- `ProbabilityDistribution::findPrefixBySum`: `std::upper_bound` over the running sums. -/
def findPrefixBySum (p : ProbabilityDistribution) (s : ℚ) : ℕ :=
  p.weight_cumsum_.findIdx fun sum => s < sum

/-- `ProbabilityDistribution::totalWeight`. -/
def totalWeight (p : ProbabilityDistribution) : ℚ := p.weight_cumsum_.getLastD 0

/-- `ProbabilityDistribution::totalUnadjustedWeight`. -/
def totalUnadjustedWeight (p : ProbabilityDistribution) : ℚ := p.totalWeight

/-- Running sums from `a` of non-negative increments stay at or above `a`. -/
lemma le_of_mem_scanl_add {weights : List ℚ} (h : ∀ x ∈ weights, 0 ≤ x) :
    ∀ {a y : ℚ}, y ∈ weights.scanl (· + ·) a → a ≤ y := by
  induction weights with
  | nil => intro a y hy; simp_all
  | cons w weights ih =>
    intro a y hy
    have hw : 0 ≤ w := h w List.mem_cons_self
    rw [List.scanl_cons, List.mem_cons] at hy
    rcases hy with rfl | hy
    · exact le_rfl
    · have := ih (fun x hx => h x (List.mem_cons_of_mem w hx)) hy
      linarith

/-- Running sums of non-negative increments never fall. -/
lemma pairwise_scanl_add {weights : List ℚ} (h : ∀ x ∈ weights, 0 ≤ x) :
    ∀ a : ℚ, (weights.scanl (· + ·) a).Pairwise (· ≤ ·) := by
  induction weights with
  | nil => intro a; simp
  | cons w weights ih =>
    intro a
    have hw : 0 ≤ w := h w List.mem_cons_self
    have hrest : ∀ x ∈ weights, 0 ≤ x := fun x hx => h x (List.mem_cons_of_mem w hx)
    rw [List.scanl_cons]
    -- every later sum is at least `a + w`, the first of them
    refine List.pairwise_cons.mpr ⟨fun y hy => ?_, ih hrest (a + w)⟩
    have := le_of_mem_scanl_add hrest hy
    linarith

/-- `ProbabilityDistribution(begin, end)`: the running sums of `weights`, which `assign` checks to
be non-negative (`std::partial_sum`). -/
def assign (weights : List ℚ) (h : ∀ x ∈ weights, 0 ≤ x) : ProbabilityDistribution where
  weight_cumsum_ := (weights.scanl (· + ·) 0).tail
  rising := by
    have hhead : 0 :: (weights.scanl (· + ·) 0).tail = weights.scanl (· + ·) 0 := by
      cases weights <;> simp
    rw [hhead]
    exact pairwise_scanl_add h 0

variable (p : ProbabilityDistribution)

/-- The prefix sum of `count` items is the entry `count` of the sums with a zero in front. -/
lemma prefixSum_eq_getD (count : ℕ) : p.prefixSum count = (0 :: p.weight_cumsum_).getD count 0 := by
  cases count with
  | zero => rfl
  | succ count => simp [prefixSum]

lemma prefixSum_le {i j : ℕ} (hij : i ≤ j) (hj : j ≤ p.size) : p.prefixSum i ≤ p.prefixSum j := by
  have hj' : j < (0 :: p.weight_cumsum_).length := by simp [size] at hj ⊢; omega
  have hi' : i < (0 :: p.weight_cumsum_).length := by omega
  rw [p.prefixSum_eq_getD, p.prefixSum_eq_getD, List.getD_eq_getElem _ _ hi',
    List.getD_eq_getElem _ _ hj']
  rcases hij.lt_or_eq with hlt | rfl
  · exact List.pairwise_iff_getElem.mp p.rising i j hi' hj' hlt
  · exact le_rfl

lemma weight_nonneg {i : ℕ} (hi : i < p.size) : 0 ≤ p.weight i := by
  have h := p.prefixSum_le (Nat.le_succ i) hi
  rw [weight]
  linarith

lemma totalWeight_eq : p.totalWeight = p.prefixSum p.size := by
  rw [totalWeight, size]
  rcases List.eq_nil_or_concat p.weight_cumsum_ with h | ⟨l, b, h⟩
  · simp [h, prefixSum]
  · simp [h, prefixSum]

lemma totalWeight_nonneg : 0 ≤ p.totalWeight := by
  rw [totalWeight_eq]
  exact p.prefixSum_le (Nat.zero_le _) le_rfl

instance : SamplingDistribution ProbabilityDistribution where
  size := size
  prefixSum := prefixSum
  weight := weight
  findPrefixBySum := findPrefixBySum
  totalUnadjustedWeight := totalUnadjustedWeight

@[simp] lemma size_eq : SamplingDistribution.size p = p.size := rfl
@[simp] lemma prefixSum_eq : SamplingDistribution.prefixSum p = p.prefixSum := rfl
@[simp] lemma weight_eq : SamplingDistribution.weight p = p.weight := rfl
@[simp] lemma findPrefixBySum_eq : SamplingDistribution.findPrefixBySum p = p.findPrefixBySum := rfl
@[simp] lemma totalUnadjustedWeight_eq :
    SamplingDistribution.totalUnadjustedWeight p = p.totalUnadjustedWeight := rfl

instance instLawfulDistribution : LawfulDistribution ProbabilityDistribution where
  weight_nonneg p _ hi := p.weight_nonneg hi
  prefixSum_succ p i _ := by
    change p.prefixSum (i + 1) = p.prefixSum i + p.weight i
    rw [weight]
    ring
  findPrefixBySum_le p _ := List.findIdx_le_length
  totalUnadjustedWeight_nonneg p := p.totalWeight_nonneg

/-- `findPrefixBySum` finds the item whose range of sums holds a point between the first and the
last sum: an item in range, of positive weight. -/
lemma findPrefixBySum_spec {s : ℚ} (hs : p.prefixSum 0 ≤ s) (hlt : s < p.prefixSum p.size) :
    p.findPrefixBySum s < p.size ∧ p.prefixSum (p.findPrefixBySum s) ≤ s ∧
      s < p.prefixSum (p.findPrefixBySum s + 1) := by
  -- the last sum is above the point, so some sum is
  have hex : ∃ sum ∈ p.weight_cumsum_, s < sum := by
    cases hsize : p.size with
    | zero => simp [hsize, prefixSum] at hlt hs; linarith
    | succ n =>
      have hn : n < p.weight_cumsum_.length := by simp [size] at hsize; omega
      rw [hsize, prefixSum, List.getD_eq_getElem _ _ hn] at hlt
      exact ⟨_, List.getElem_mem hn, hlt⟩
  have hx : p.findPrefixBySum s < p.size := List.findIdx_lt_length_of_exists (by simpa using hex)
  refine ⟨hx, ?_, ?_⟩
  · cases hfind : p.findPrefixBySum s with
    | zero => exact hs
    | succ x =>
      -- the sum before the one found is not above the point
      have hxlt : x < p.weight_cumsum_.findIdx fun sum => s < sum := by
        rw [← findPrefixBySum, hfind]
        omega
      have hxsize : x < p.weight_cumsum_.length := by
        rw [size, hfind] at hx
        omega
      have hnot : ¬ s < p.weight_cumsum_[x] := by
        simpa using List.not_of_lt_findIdx hxlt
      rw [prefixSum, List.getD_eq_getElem _ _ hxsize]
      exact not_lt.mp hnot
  · have hfound := of_decide_eq_true (List.findIdx_getElem (w := hx))
    rw [prefixSum, List.getD_eq_getElem _ _ hx]
    exact hfound

end ProbabilityDistribution

end LogDevice
