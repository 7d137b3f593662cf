import LogDevice.Sampling.Distribution
import LogDevice.Lib.Loop
import LogDevice.Lib.Ring
import LogDevice.Lib.Lattice

/-!
# Sampling items by weight

Model of `Sampling::sampleOne` and `Sampling::sampleMulti` (`common/Sampling.h`) over any
distribution (`SamplingDistribution`). The random inputs are parameters: the value of
`folly::Random::randDouble01(rng)` is `rand01`, and the later calls of `rng()` give `rng 0`,
`rng 1`, ... in the order the function makes them. The array `out` is the list of its first
`out_size` entries, and `*out_over_or_underweight` is `none` where the function leaves it alone.

An item is above the threshold when its weight is more than `EPSILON` times the total unadjusted
weight; the others count as zero-weight.

`sampleOne` answers `OK` exactly when some item is above the threshold (`sampleOne_ok_iff`). When
the item it probes first is not, it scans on for one that is, but then returns the probed item:
with weights `{1e-10, 1}` and a random value of 0 it returns item 0, whose weight is below the
threshold (`sampleOne_light_first_probe`). On a `ProbabilityDistribution` the item returned is in
range and of positive weight (`sampleOne_lt_size`).

`sampleMulti` walks `count` equally spaced points through the prefix sums (the systematic pass,
`passStep`), then, if that did not give what the mode asks for, tops the sample up by a scan from
a random offset (`topUp`, `AT_MOST_ONCE`) or rebuilds it from every item above the threshold
(`rebuild`, `AT_LEAST_ONCE`). The invariants of the systematic pass are `AtMostOnceInv` and
`AtLeastOnceInv`.
-/

namespace LogDevice.Sampling

open SamplingDistribution

/-- `Sampling::Mode`. -/
inductive Mode where
  | AT_MOST_ONCE
  | AT_LEAST_ONCE
  | WHATEVS
  deriving DecidableEq, Repr

/-- `Sampling::Result`. -/
inductive Result where
  | OK
  | BIASED
  | IMPOSSIBLE
  deriving DecidableEq, Repr

variable {D : Type} [SamplingDistribution D]

/-- `Sampling::sampleOne`: the result, and the index written to `*out_idx`. -/
def sampleOne (distribution : D) (rand01 : ℚ) : Result × Option ℕ :=
  let size := size distribution
  let sum_begin := prefixSum distribution 0
  let sum_end := prefixSum distribution size
  let total_weight := sum_end - sum_begin
  let scaled_epsilon := EPSILON * totalUnadjustedWeight distribution
  if total_weight ≤ scaled_epsilon then (.IMPOSSIBLE, none)
  else
    let point := sum_begin + total_weight * rand01
    let x := findPrefixBySum distribution point
    if x < size ∧ scaled_epsilon < weight distribution x then (.OK, some x)
    -- a zero-weight item was hit: look for a positive-weight one, but report `x`
    else if (List.range size).any fun steps =>
        decide (scaled_epsilon < weight distribution ((x + steps) % size)) then (.OK, some x)
    else (.IMPOSSIBLE, none)

/-- The state of the systematic pass of `sampleMulti`: the next point, the items picked, the last
of them (`prev_x`, `none` for its start at `-1`), `prev_sum` and `missed`, and what the pass wrote
to `*out_over_or_underweight`. -/
structure Pass where
  point : ℚ
  out : List ℕ
  prev_x : Option ℕ
  prev_sum : ℚ
  missed : Bool
  over_or_underweight : Option ℕ

/-- One round of the systematic pass of `sampleMulti`. -/
def passStep (distribution : D) (mode : Mode) (step scaled_epsilon : ℚ) (st : Pass) : Pass :=
  let x := findPrefixBySum distribution st.point
  let st' := { st with point := st.point + step }
  -- `x + 1 < prev_x + 1`, where `prev_x + 1` is 0 before the first pick
  if x = size distribution ∨ st.prev_x.any (x < ·) then st'
  else
    let weight := weight distribution x
    if weight ≤ scaled_epsilon then st'
    else if mode = .AT_MOST_ONCE ∧ st.prev_x = some x then { st' with over_or_underweight := some x }
    else
      { st' with
        out := st.out ++ [x]
        prev_x := some x
        -- in `AT_LEAST_ONCE`, some item lies between the previous pick and this one
        missed := st.missed ||
          (mode == .AT_LEAST_ONCE && decide (scaled_epsilon < prefixSum distribution x - st.prev_sum))
        prev_sum := if mode = .AT_LEAST_ONCE then prefixSum distribution x + weight else st.prev_sum }

/-- The lambda `was_picked`: `std::lower_bound` for `x` in the sorted items `picked`. -/
def was_picked (picked : List ℕ) (x : ℕ) : Bool :=
  picked[picked.findIdx fun y => !(y < x)]? == some x

/-- One round of the scan from `offset` that tops a sample up to `count` items. -/
def topUpStep (distribution : D) (mode : Mode) (count : ℕ) (scaled_epsilon : ℚ)
    (picked : List ℕ) (offset : ℕ) (out : List ℕ) (step_idx : ℕ) : List ℕ :=
  if out.length < count then
    let x := (offset + step_idx) % size distribution
    if weight distribution x ≤ scaled_epsilon then out
    else if mode = .AT_MOST_ONCE ∧ was_picked picked x then out
    else out ++ [x]
  else out

/-- The scan from `offset` over every item, which stops once the sample holds `count` items. -/
def topUp (distribution : D) (mode : Mode) (count : ℕ) (scaled_epsilon : ℚ) (picked : List ℕ)
    (offset : ℕ) : List ℕ :=
  (List.range (size distribution)).foldl (topUpStep distribution mode count scaled_epsilon picked offset)
    picked

/-- The items the systematic pass picked more than once, `excess`. -/
def excessOf (out : List ℕ) : List ℕ :=
  (out.zip out.tail).filterMap fun pair => if pair.2 = pair.1 then some pair.2 else none

/-- The scan over every item in the rebuild of `AT_LEAST_ONCE`: the items above the threshold, in
order, and what is written to `*out_over_or_underweight`; `.error` with the sample so far where one
more item is above the threshold than `count` allows (`return Result::IMPOSSIBLE`). -/
def collectFrom (distribution : D) (count : ℕ) (step scaled_epsilon : ℚ) :
    List ℕ → List ℕ × Option ℕ → Except (List ℕ × Option ℕ) (List ℕ × Option ℕ)
  | [], acc => .ok acc
  | x :: xs, (out, underweight) =>
    let weight := weight distribution x
    if weight ≤ scaled_epsilon then collectFrom distribution count step scaled_epsilon xs (out, underweight)
    else if out.length = count then .error (out, underweight)
    else
      let underweight := if weight < step - scaled_epsilon then some x else underweight
      collectFrom distribution count step scaled_epsilon xs (out ++ [x], underweight)

/-- The closing `while` loop of the rebuild, `fuel` rounds from the `k`-th call of `rng()`: each
copies an item at random from the sample. `none` where the sample is empty: `rng() % out_size` then
divides by zero (`ld_check(out_size > 0)`). -/
def fill (rng : ℕ → ℕ) : (fuel : ℕ) → List ℕ → ℕ → Option (List ℕ)
  | 0, out, _ => some out
  | _ + 1, [], _ => none
  | fuel + 1, out@(_ :: _), k => fill rng fuel (out ++ [out.getD (rng k % out.length) 0]) (k + 1)

/-- What `sampleMulti` gives back: the result, the sample `out[0 .. out_size)`, and what it wrote
to `*out_over_or_underweight`. -/
structure Sample where
  result : Result
  out : List ℕ
  over_or_underweight : Option ℕ
  deriving DecidableEq

/-- The copies of repeated items in the rebuild, after the sample `out`: as many as fit, from a
rotation by the random value `r`; and the number of calls of `rng()` that made. -/
def copyExcess (count : ℕ) (excess : List ℕ) (r : ℕ) (out : List ℕ) : List ℕ × ℕ :=
  if out.length < count ∧ excess ≠ [] then
    -- `std::rotate` by `rng() % excess.size()`
    let rotated := excess.rotate (r % excess.length)
    (out ++ rotated.take (min excess.length (count - out.length)), 1)
  else (out, 0)

/-- The rebuild of `AT_LEAST_ONCE` after a systematic pass that missed an item or came short:
every item above the threshold, then repeated items of the pass, then random copies. -/
def rebuild (distribution : D) (count : ℕ) (step scaled_epsilon : ℚ) (rng : ℕ → ℕ) (st : Pass) :
    Option Sample :=
  let excess := excessOf st.out
  match collectFrom distribution count step scaled_epsilon (List.range (size distribution))
      ([], st.over_or_underweight) with
  | .error (out, underweight) => some ⟨.IMPOSSIBLE, out, underweight⟩
  | .ok (out, underweight) =>
    let copied := copyExcess count excess (rng 0) out
    (fill rng (count - copied.1.length) copied.1 copied.2).map fun out =>
      ⟨.BIASED, out.insertionSort (· ≤ ·), underweight⟩

/-- The top-up of `AT_MOST_ONCE` and `WHATEVS` after a systematic pass that came short. The
sample is sorted on `IMPOSSIBLE` only where the caller asked for its size (`out_size_ptr`). -/
def scanRest (distribution : D) (mode : Mode) (count : ℕ) (scaled_epsilon : ℚ) (rng : ℕ → ℕ)
    (out_size_ptr : Bool) (st : Pass) : Sample :=
  let offset := rng 0 % size distribution
  let out := topUp distribution mode count scaled_epsilon st.out offset
  if out.length < count then
    ⟨.IMPOSSIBLE, if out_size_ptr then out.insertionSort (· ≤ ·) else out, st.over_or_underweight⟩
  else ⟨if mode = .WHATEVS then .OK else .BIASED, out.insertionSort (· ≤ ·), st.over_or_underweight⟩

/-- The systematic pass of `sampleMulti`: `count` rounds from `point`. -/
def systematic (distribution : D) (mode : Mode) (count : ℕ) (step scaled_epsilon point : ℚ) : Pass :=
  (List.range count).foldl (fun st _ => passStep distribution mode step scaled_epsilon st)
    ⟨point, [], none, prefixSum distribution 0, false, none⟩

/-- What `sampleMulti` does after its systematic pass: answer `OK` with the items picked, or
rebuild (`AT_LEAST_ONCE`) or top up (the other modes) the sample. -/
def afterPass (distribution : D) (count : ℕ) (mode : Mode) (step scaled_epsilon : ℚ)
    (rng : ℕ → ℕ) (out_size_ptr : Bool) (st : Pass) : Option Sample :=
  let sum_end := prefixSum distribution (size distribution)
  let missed := st.missed ||
    (mode == .AT_LEAST_ONCE && decide (scaled_epsilon < sum_end - st.prev_sum))
  if st.out.length = count ∧ missed = false then some ⟨.OK, st.out, st.over_or_underweight⟩
  else if mode = .AT_LEAST_ONCE then rebuild distribution count step scaled_epsilon rng st
  else some (scanRest distribution mode count scaled_epsilon rng out_size_ptr st)

/-- `Sampling::sampleMulti`; `none` where it divides by zero. -/
def sampleMulti (distribution : D) (count : ℕ) (mode : Mode) (rand01 : ℚ) (rng : ℕ → ℕ)
    (out_size_ptr : Bool) : Option Sample :=
  if count = 0 then some ⟨.OK, [], none⟩
  else
    let size := size distribution
    let sum_begin := prefixSum distribution 0
    let sum_end := prefixSum distribution size
    let total_weight := sum_end - sum_begin
    let scaled_epsilon := EPSILON * totalUnadjustedWeight distribution
    if total_weight ≤ scaled_epsilon then some ⟨.IMPOSSIBLE, [], none⟩
    else
      let step := total_weight / count
      let point := sum_begin + step * rand01
      afterPass distribution count mode step scaled_epsilon rng out_size_ptr
        (systematic distribution mode count step scaled_epsilon point)

/-! ### `sampleOne` -/

/-- When `sampleOne` answers `OK`, the total is above the threshold and it gives the item it
probed first. -/
lemma sampleOne_eq_ok {d : D} {rand01 : ℚ} {i : ℕ} (h : sampleOne d rand01 = (.OK, some i)) :
    EPSILON * totalUnadjustedWeight d < prefixSum d (size d) - prefixSum d 0 ∧
      i = findPrefixBySum d (prefixSum d 0 + (prefixSum d (size d) - prefixSum d 0) * rand01) := by
  simp only [sampleOne] at h
  split_ifs at h with htotal
  · cases h
  · exact ⟨lt_of_not_ge htotal, (Option.some.inj (Prod.mk.inj h).2).symm⟩
  · exact ⟨lt_of_not_ge htotal, (Option.some.inj (Prod.mk.inj h).2).symm⟩
  · cases h

/-- A scan over `n` items from any start meets an item where `p` holds exactly when there is one. -/
lemma any_add_mod_iff {p : ℕ → Prop} [DecidablePred p] (x n : ℕ) :
    ((List.range n).any fun steps => decide (p ((x + steps) % n))) = true ↔ ∃ j < n, p j := by
  simp only [List.any_eq_true, List.mem_range, decide_eq_true_eq]
  constructor
  · rintro ⟨steps, hsteps, hp⟩
    exact ⟨_, Nat.mod_lt _ (by omega), hp⟩
  · rintro ⟨j, hj, hp⟩
    -- the offset that reaches `j` from `x % n`
    obtain ⟨k, hk, hkj⟩ := Lib.exists_add_mod_eq (Nat.mod_lt x (by omega)) hj
    refine ⟨k, hk, ?_⟩
    rwa [← Nat.mod_add_mod, hkj]

/-- `sampleOne` answers `OK` exactly when some item is above the threshold. -/
lemma sampleOne_ok_iff [LawfulDistribution D] (d : D) (rand01 : ℚ) :
    (sampleOne d rand01).1 = .OK ↔
      ∃ j < size d, EPSILON * totalUnadjustedWeight d < weight d j := by
  have hscan_iff := fun x =>
    any_add_mod_iff (p := fun j => EPSILON * totalUnadjustedWeight d < weight d j) x (size d)
  simp only [sampleOne]
  split_ifs with htotal hfirst hscan
  · -- no weight is above the total, which is at most the threshold
    simp only [false_iff, not_exists, not_and, not_lt]
    intro j hj
    exact (LawfulDistribution.weight_le_total d hj).trans htotal
  · exact iff_of_true rfl ⟨_, hfirst⟩
  · exact iff_of_true rfl ((hscan_iff _).mp hscan)
  · simp only [false_iff]
    exact fun hex => hscan ((hscan_iff _).mpr hex)

/-- On a `ProbabilityDistribution`, with a random value in `[0, 1)`, the item `sampleOne` gives is
in range and of positive weight. -/
lemma sampleOne_lt_size (p : ProbabilityDistribution) {rand01 : ℚ} (h0 : 0 ≤ rand01)
    (h1 : rand01 < 1) {i : ℕ} (h : sampleOne p rand01 = (.OK, some i)) :
    i < p.size ∧ 0 < p.weight i := by
  obtain ⟨htotal, hprobe⟩ := sampleOne_eq_ok h
  simp only [ProbabilityDistribution.size_eq, ProbabilityDistribution.prefixSum_eq,
    ProbabilityDistribution.findPrefixBySum_eq, ProbabilityDistribution.totalUnadjustedWeight_eq]
    at htotal hprobe
  -- the threshold is not negative, so the total is positive
  have hpos : 0 < p.prefixSum p.size - p.prefixSum 0 := by
    have hT := p.totalWeight_nonneg
    exact lt_of_le_of_lt (mul_nonneg (by norm_num [EPSILON]) hT) htotal
  -- the point lies between the first and the last prefix sum
  have hlo : p.prefixSum 0 ≤ p.prefixSum 0 + (p.prefixSum p.size - p.prefixSum 0) * rand01 := by
    nlinarith
  have hhi : p.prefixSum 0 + (p.prefixSum p.size - p.prefixSum 0) * rand01 < p.prefixSum p.size := by
    nlinarith
  obtain ⟨hlt, hle, hgt⟩ := p.findPrefixBySum_spec hlo hhi
  subst hprobe
  refine ⟨hlt, ?_⟩
  rw [ProbabilityDistribution.weight]
  linarith

/-- The fallback scan of `sampleOne` finds an item above the threshold, but `sampleOne` returns the
item it probed first. With weights `{1e-10, 1}` and a random value of 0 it probes item 0, whose
weight is below the threshold, and returns it with `OK`. -/
theorem sampleOne_light_first_probe :
    let distribution : ProbabilityDistribution := .assign [1 / 10 ^ 10, 1] (by norm_num)
    sampleOne distribution 0 = (.OK, some 0) ∧
      weight distribution 0 ≤ EPSILON * totalUnadjustedWeight distribution := by
  decide +kernel

/-! ### The systematic pass of `sampleMulti` -/

/-- A sorted list has its last entry as its largest. -/
lemma le_of_getLast? {l : List ℕ} {y p : ℕ} (hl : l.Pairwise (· ≤ ·)) (hp : l.getLast? = some p)
    (hy : y ∈ l) : y ≤ p := by
  obtain ⟨init, rfl⟩ := List.getLast?_eq_some_iff.mp hp
  rcases List.mem_append.mp hy with hy | hy
  · exact (List.pairwise_append.mp hl).2.2 y hy p List.mem_cons_self
  · rw [List.mem_singleton.mp hy]

section Pass

variable (d : D) (mode : Mode) (step eps : ℚ)

/-- What the systematic pass keeps in `AT_MOST_ONCE`: the items picked rise strictly, each in range
and above the threshold, the last of them is `prev_x`, and nothing counts as missed. -/
structure AtMostOnceInv (st : Pass) : Prop where
  rising : st.out.Pairwise (· < ·)
  heavy : ∀ x ∈ st.out, x < size d ∧ eps < weight d x
  prev : st.prev_x = st.out.getLast?
  not_missed : st.missed = false

/-- The index after the last pick, where the items not yet accounted for start. -/
def afterLast : Option ℕ → ℕ
  | none => 0
  | some x => x + 1

/-- What the systematic pass keeps in `AT_LEAST_ONCE`: the items picked never fall, each is in
range and above the threshold, the last of them is `prev_x`, `prev_sum` is the sum of the items up
to it, and unless `missed` is set, every item above the threshold up to it was picked. -/
structure AtLeastOnceInv (st : Pass) : Prop where
  sorted : st.out.Pairwise (· ≤ ·)
  heavy : ∀ x ∈ st.out, x < size d ∧ eps < weight d x
  prev : st.prev_x = st.out.getLast?
  prev_sum : st.prev_sum = prefixSum d (afterLast st.prev_x)
  covered : st.missed = false → ∀ j < afterLast st.prev_x, eps < weight d j → j ∈ st.out

/-- The items up to the last pick are in range. -/
lemma AtLeastOnceInv.afterLast_le {st : Pass} (h : AtLeastOnceInv d eps st) :
    afterLast st.prev_x ≤ size d := by
  cases hp : st.prev_x with
  | none => exact Nat.zero_le _
  | some p =>
    have hmem : p ∈ st.out := List.mem_of_getLast? (h.prev ▸ hp)
    exact (h.heavy p hmem).1

variable [LawfulDistribution D]

/-- What one round of the systematic pass can do: move on, note a repeated item
(`AT_MOST_ONCE`), or pick the item at the point, which is in range, above the threshold and not
before the last pick. -/
lemma passStep_cases (st : Pass) :
    passStep d mode step eps st = { st with point := st.point + step } ∨
    (mode = .AT_MOST_ONCE ∧ st.prev_x = some (findPrefixBySum d st.point) ∧
      passStep d mode step eps st = { st with
        point := st.point + step, over_or_underweight := some (findPrefixBySum d st.point) }) ∨
    (let x := findPrefixBySum d st.point
     x < size d ∧ eps < weight d x ∧ (∀ p ∈ st.prev_x, p ≤ x) ∧
      ¬(mode = .AT_MOST_ONCE ∧ st.prev_x = some x) ∧
      passStep d mode step eps st =
        { point := st.point + step, out := st.out ++ [x], prev_x := some x,
          prev_sum := if mode = .AT_LEAST_ONCE then prefixSum d x + weight d x else st.prev_sum,
          missed := st.missed ||
            (mode == .AT_LEAST_ONCE && decide (eps < prefixSum d x - st.prev_sum)),
          over_or_underweight := st.over_or_underweight }) := by
  have hle := LawfulDistribution.findPrefixBySum_le d st.point
  by_cases hskip : findPrefixBySum d st.point = size d ∨
      st.prev_x.any (fun p => decide (findPrefixBySum d st.point < p))
  · exact .inl (by simp only [passStep, if_pos hskip])
  by_cases hlight : weight d (findPrefixBySum d st.point) ≤ eps
  · exact .inl (by simp only [passStep, if_neg hskip, if_pos hlight])
  by_cases hrepeat : mode = .AT_MOST_ONCE ∧ st.prev_x = some (findPrefixBySum d st.point)
  · exact .inr (.inl ⟨hrepeat.1, hrepeat.2,
      by simp only [passStep, if_neg hskip, if_neg hlight, if_pos hrepeat]⟩)
  push Not at hskip
  refine .inr (.inr ⟨by omega, lt_of_not_ge hlight, fun p hp => ?_, hrepeat,
    by simp only [passStep, if_neg (not_or.mpr ⟨hskip.1, hskip.2⟩), if_neg hlight, if_neg hrepeat]⟩)
  -- the point is not before the last pick
  have hnot := hskip.2
  rw [Option.mem_def] at hp
  simpa [hp] using hnot

/-- A round of the pass adds at most one item, so `n` rounds add at most `n`. -/
lemma length_out_foldl_passStep {α : Type} (l : List α) (st : Pass) :
    (l.foldl (fun st _ => passStep d mode step eps st) st).out.length ≤ st.out.length + l.length := by
  induction l generalizing st with
  | nil => simp
  | cons a l ih =>
    have hround : (passStep d mode step eps st).out.length ≤ st.out.length + 1 := by
      obtain hs | ⟨-, -, hs⟩ | ⟨-, -, -, -, hs⟩ := passStep_cases d mode step eps st <;>
        simp [hs]
    have := ih (passStep d mode step eps st)
    simp only [List.foldl_cons, List.length_cons] at this ⊢
    omega

lemma AtMostOnceInv.passStep {st : Pass} (h : AtMostOnceInv d eps st) :
    AtMostOnceInv d eps (passStep d .AT_MOST_ONCE step eps st) := by
  obtain hs | ⟨-, -, hs⟩ | ⟨hx, hheavy, hafter, hnew, hs⟩ :=
    passStep_cases d .AT_MOST_ONCE step eps st
  · rw [hs]
    exact ⟨h.rising, h.heavy, h.prev, h.not_missed⟩
  · rw [hs]
    exact ⟨h.rising, h.heavy, h.prev, h.not_missed⟩
  · rw [hs]
    -- the new pick is past every earlier one: not before the last, and not the last again
    have hpast : ∀ y ∈ st.out, y < findPrefixBySum d st.point := by
      intro y hy
      obtain ⟨p, hp⟩ : ∃ p, st.out.getLast? = some p :=
        ⟨_, List.getLast?_eq_some_getLast (List.ne_nil_of_mem hy)⟩
      have hyp := le_of_getLast? (h.rising.imp le_of_lt) hp hy
      have hpx := hafter p (h.prev ▸ hp)
      have hne : p ≠ findPrefixBySum d st.point := fun e => hnew ⟨rfl, h.prev.trans (e ▸ hp)⟩
      omega
    refine ⟨List.pairwise_append.mpr ⟨h.rising, List.pairwise_singleton _ _, ?_⟩, ?_, by simp,
      by simp [h.not_missed]⟩
    · intro a ha b hb
      rw [List.mem_singleton.mp hb]
      exact hpast a ha
    · intro y hy
      rcases List.mem_append.mp hy with hy | hy
      · exact h.heavy y hy
      · rw [List.mem_singleton.mp hy]
        exact ⟨hx, hheavy⟩

lemma AtLeastOnceInv.passStep {st : Pass} (h : AtLeastOnceInv d eps st) :
    AtLeastOnceInv d eps (passStep d .AT_LEAST_ONCE step eps st) := by
  obtain hs | ⟨hmode, -, -⟩ | ⟨hx, hheavy, hafter, -, hs⟩ :=
    passStep_cases d .AT_LEAST_ONCE step eps st
  · rw [hs]
    exact ⟨h.sorted, h.heavy, h.prev, h.prev_sum, h.covered⟩
  · cases hmode
  · rw [hs]
    set x := findPrefixBySum d st.point with hxdef
    -- every earlier pick is at or before the last, which is not after `x`
    have hpast : ∀ y ∈ st.out, y ≤ x := by
      intro y hy
      obtain ⟨p, hp⟩ : ∃ p, st.out.getLast? = some p :=
        ⟨_, List.getLast?_eq_some_getLast (List.ne_nil_of_mem hy)⟩
      exact (le_of_getLast? h.sorted hp hy).trans (hafter p (h.prev ▸ hp))
    have hbound := h.afterLast_le
    refine ⟨List.pairwise_append.mpr ⟨h.sorted, List.pairwise_singleton _ _, ?_⟩, ?_, by simp,
      ?_, ?_⟩
    · intro a ha b hb
      rw [List.mem_singleton.mp hb]
      exact hpast a ha
    · intro y hy
      rcases List.mem_append.mp hy with hy | hy
      · exact h.heavy y hy
      · rw [List.mem_singleton.mp hy]
        exact ⟨hx, hheavy⟩
    · simp only [if_true, afterLast]
      exact (LawfulDistribution.prefixSum_succ d x hx).symm
    · -- nothing was missed before the last pick, and nothing between it and `x`
      simp only [beq_self_eq_true, Bool.true_and, Bool.or_eq_false_iff, decide_eq_false_iff_not,
        not_lt, afterLast]
      rintro ⟨hmissed, hgap⟩ j hj hj_heavy
      rcases Nat.lt_succ_iff_lt_or_eq.mp hj with hj | rfl
      · by_cases hbefore : j < afterLast st.prev_x
        · exact List.mem_append_left _ (h.covered hmissed j hbefore hj_heavy)
        · have hle := LawfulDistribution.weight_le_sub d (not_lt.mp hbefore) hj hx.le
          rw [← h.prev_sum] at hle
          exact absurd (hle.trans hgap) (not_le.mpr hj_heavy)
      · exact List.mem_append_right _ List.mem_cons_self

/-- At the end of the pass in `AT_LEAST_ONCE`, unless it set `missed` or left a stretch of weight
above the threshold after the last pick, every item above the threshold was picked. -/
lemma AtLeastOnceInv.covers {st : Pass} (h : AtLeastOnceInv d eps st) (hmissed : st.missed = false)
    (hrest : prefixSum d (size d) - st.prev_sum ≤ eps) :
    ∀ j < size d, eps < weight d j → j ∈ st.out := by
  intro j hj hj_heavy
  by_cases hbefore : j < afterLast st.prev_x
  · exact h.covered hmissed j hbefore hj_heavy
  · have hle := LawfulDistribution.weight_le_sub d (not_lt.mp hbefore) hj le_rfl
    rw [← h.prev_sum] at hle
    exact absurd (hle.trans hrest) (not_le.mpr hj_heavy)

/-- The pass of `AT_MOST_ONCE` keeps its invariant from its start to its end. -/
lemma atMostOnceInv_systematic (count : ℕ) (point : ℚ) :
    AtMostOnceInv d eps (systematic d .AT_MOST_ONCE count step eps point) :=
  Lib.foldl_invariant _ _ _ (fun _ _ _ h => h.passStep d step eps) _
    ⟨List.Pairwise.nil, by simp, rfl, rfl⟩

/-- The pass of `AT_LEAST_ONCE` keeps its invariant from its start to its end. -/
lemma atLeastOnceInv_systematic (count : ℕ) (point : ℚ) :
    AtLeastOnceInv d eps (systematic d .AT_LEAST_ONCE count step eps point) :=
  Lib.foldl_invariant _ _ _ (fun _ _ _ h => h.passStep d step eps) _
    ⟨List.Pairwise.nil, by simp, rfl, rfl, fun _ j hj => absurd hj (Nat.not_lt_zero j)⟩

/-- The pass picks at most one item a round. -/
lemma length_out_systematic_le (count : ℕ) (point : ℚ) :
    (systematic d mode count step eps point).out.length ≤ count := by
  have h := length_out_foldl_passStep d mode step eps (List.range count)
    ⟨point, [], none, prefixSum d 0, false, none⟩
  simpa [systematic] using h

end Pass

/-! ### The top-up of `AT_MOST_ONCE` -/

/-- On sorted items, the binary search of `was_picked` finds exactly the items there. -/
lemma was_picked_iff {picked : List ℕ} (hsorted : picked.Pairwise (· < ·)) (x : ℕ) :
    was_picked picked x = true ↔ x ∈ picked := by
  simp only [was_picked, beq_iff_eq]
  constructor
  · exact List.mem_of_getElem?
  · intro hx
    obtain ⟨k, hk, rfl⟩ := List.getElem_of_mem hx
    -- the first item not below `picked[k]` is `picked[k]` itself
    have hmono : ∀ (i j : ℕ) (hi : i < picked.length) (hj : j < picked.length), i ≤ j →
        (!decide (picked[i] < picked[k])) = true → (!decide (picked[j] < picked[k])) = true := by
      intro i j hi hj hij hpi
      simp only [Bool.not_eq_true', decide_eq_false_iff_not, not_lt] at hpi ⊢
      rcases hij.lt_or_eq with hlt | rfl
      · exact hpi.trans (List.pairwise_iff_getElem.mp hsorted i j hi hj hlt).le
      · exact hpi
    have hle : picked.findIdx (fun y => !decide (y < picked[k])) ≤ k :=
      (Lib.findIdx_le_iff hmono hk).mpr (by simp)
    have hlt : picked.findIdx (fun y => !decide (y < picked[k])) < picked.length := by omega
    have hfound := List.findIdx_getElem (w := hlt)
    simp only [Bool.not_eq_true', decide_eq_false_iff_not, not_lt] at hfound
    rcases hle.lt_or_eq with hbefore | heq
    · have := List.pairwise_iff_getElem.mp hsorted _ k hlt hk hbefore
      omega
    · simp [heq]


section TopUp

variable (d : D) (count : ℕ) (eps : ℚ) (picked : List ℕ) (offset : ℕ)

/-- What the scan of `topUp` keeps after `k` rounds in `AT_MOST_ONCE`: the sample holds the items
picked and items the scan has passed, all distinct, in range and above the threshold, at most
`count` of them; and while it is short of `count`, every item the scan has passed above the
threshold is in it. -/
structure TopUpInv (k : ℕ) (out : List ℕ) : Prop where
  nodup : out.Nodup
  heavy : ∀ x ∈ out, x < size d ∧ eps < weight d x
  picked_sub : ∀ x ∈ picked, x ∈ out
  added : ∀ x ∈ out, x ∈ picked ∨ ∃ j < k, x = (offset + j) % size d
  length_le : out.length ≤ count
  covered : out.length < count → ∀ j < k, eps < weight d ((offset + j) % size d) →
    (offset + j) % size d ∈ out

lemma TopUpInv.topUpStep (hsorted : picked.Pairwise (· < ·)) {k : ℕ} (hk : k < size d)
    {out : List ℕ} (h : TopUpInv d count eps picked offset k out) :
    TopUpInv d count eps picked offset (k + 1)
      (topUpStep d .AT_MOST_ONCE count eps picked offset out k) := by
  -- what the scan met before round `k` it met before round `k + 1`
  have hadded : ∀ x ∈ out, x ∈ picked ∨ ∃ j < k + 1, x = (offset + j) % size d := fun x hx =>
    (h.added x hx).imp_right fun ⟨j, hj, e⟩ => ⟨j, by omega, e⟩
  -- a sample left as it is still covers round `k` if its item is in it or not above the threshold
  have hsame : (out.length < count → eps < weight d ((offset + k) % size d) →
      (offset + k) % size d ∈ out) → TopUpInv d count eps picked offset (k + 1) out := fun hround =>
    ⟨h.nodup, h.heavy, h.picked_sub, hadded, h.length_le, fun hlt j hj hj_heavy => by
      rcases Nat.lt_succ_iff_lt_or_eq.mp hj with hj | rfl
      · exact h.covered hlt j hj hj_heavy
      · exact hround hlt hj_heavy⟩
  simp only [Sampling.topUpStep]
  split_ifs with hshort hlight hpicked
  · exact hsame fun _ hheavy => absurd hlight (not_le.mpr hheavy)
  · exact hsame fun _ _ => h.picked_sub _ ((was_picked_iff hsorted _).mp hpicked.2)
  · -- the new item was not picked, and the scan has not met it before
    have hnew : (offset + k) % size d ∉ out := by
      intro hx
      rcases h.added _ hx with hx | ⟨j, hj, e⟩
      · exact hpicked ⟨trivial, (was_picked_iff hsorted _).mpr hx⟩
      · have := Lib.add_mod_inj hk (hj.trans hk) e
        omega
    refine ⟨h.nodup.append (List.nodup_singleton _) (by simpa using hnew), ?_,
      fun x hx => List.mem_append_left _ (h.picked_sub x hx), ?_, by simp; omega, ?_⟩
    · intro x hx
      rcases List.mem_append.mp hx with hx | hx
      · exact h.heavy x hx
      · rw [List.mem_singleton.mp hx]
        exact ⟨Nat.mod_lt _ (by omega), lt_of_not_ge hlight⟩
    · intro x hx
      rcases List.mem_append.mp hx with hx | hx
      · exact hadded x hx
      · exact .inr ⟨k, Nat.lt_succ_self k, List.mem_singleton.mp hx⟩
    · intro _ j hj hj_heavy
      rcases Nat.lt_succ_iff_lt_or_eq.mp hj with hj | rfl
      · exact List.mem_append_left _ (h.covered hshort j hj hj_heavy)
      · exact List.mem_append_right _ List.mem_cons_self
  · exact hsame fun hlt => absurd hlt hshort

/-- The scan of `AT_MOST_ONCE` keeps `TopUpInv` round after round. -/
lemma topUpInv_foldl (hsorted : picked.Pairwise (· < ·))
    (hheavy : ∀ x ∈ picked, x < size d ∧ eps < weight d x) (hlen : picked.length ≤ count) :
    ∀ k ≤ size d, TopUpInv d count eps picked offset k
      ((List.range k).foldl (topUpStep d .AT_MOST_ONCE count eps picked offset) picked) := by
  intro k
  induction k with
  | zero =>
    intro _
    exact ⟨hsorted.imp ne_of_lt, hheavy, fun _ hx => hx, fun _ hx => .inl hx, hlen,
      fun _ j hj => absurd hj (Nat.not_lt_zero j)⟩
  | succ k ih =>
    intro hk
    rw [List.range_succ, List.foldl_append, List.foldl_cons, List.foldl_nil]
    exact (ih (by omega)).topUpStep d count eps picked offset hsorted (by omega)

end TopUp

/-! ### Counting the items above the threshold -/

section Count

variable (d : D) (eps : ℚ)

/-- Distinct items in range and above the threshold are at most as many as there are such items. -/
lemma length_le_countP {l : List ℕ} (hnodup : l.Nodup)
    (hheavy : ∀ x ∈ l, x < size d ∧ eps < weight d x) :
    l.length ≤ (List.range (size d)).countP fun i => decide (eps < weight d i) := by
  rw [List.countP_eq_length_filter]
  refine (List.subperm_of_subset hnodup fun x hx => ?_).length_le
  simpa using hheavy x hx

/-- A list holding every item above the threshold is at least as long as there are such items. -/
lemma countP_le_length {l : List ℕ} (hcover : ∀ x < size d, eps < weight d x → x ∈ l) :
    (List.range (size d)).countP (fun i => decide (eps < weight d i)) ≤ l.length := by
  rw [List.countP_eq_length_filter]
  refine (List.subperm_of_subset (List.nodup_range.filter _) fun x hx => ?_).length_le
  simp only [List.mem_filter, List.mem_range, decide_eq_true_eq] at hx
  exact hcover x hx.1 hx.2

/-- Where the total is at most the threshold, no item is above it. -/
lemma countP_eq_zero_of_total_le [LawfulDistribution D]
    (htotal : prefixSum d (size d) - prefixSum d 0 ≤ eps) :
    (List.range (size d)).countP (fun i => decide (eps < weight d i)) = 0 := by
  rw [List.countP_eq_zero]
  intro i hi
  simp only [List.mem_range] at hi
  simpa using (LawfulDistribution.weight_le_total d hi).trans htotal

end Count

/-- Sorting distinct items makes them rise strictly. -/
lemma pairwise_lt_insertionSort {l : List ℕ} (hnodup : l.Nodup) :
    (l.insertionSort (· ≤ ·)).Pairwise (· < ·) := by
  have hsorted := List.pairwise_insertionSort (· ≤ ·) l
  have hdistinct := (List.perm_insertionSort (· ≤ ·) l).nodup_iff.mpr hnodup
  exact (hsorted.and hdistinct).imp fun ⟨hle, hne⟩ => lt_of_le_of_ne hle hne

/-! ### `sampleMulti` in `AT_MOST_ONCE` -/

section AtMostOnce

variable (d : D) (count : ℕ) (eps : ℚ) (rng : ℕ → ℕ) (out_size_ptr : Bool)

/-- After a pass that came short, the top-up of `AT_MOST_ONCE` answers `IMPOSSIBLE` exactly when
fewer than `count` items are above the threshold, and otherwise gives `count` of them, distinct
and sorted. -/
lemma scanRest_atMostOnce {st : Pass} (h : AtMostOnceInv d eps st) (hlen : st.out.length ≤ count) :
    let s := scanRest d .AT_MOST_ONCE count eps rng out_size_ptr st
    (s.result = .IMPOSSIBLE ↔
        (List.range (size d)).countP (fun i => decide (eps < weight d i)) < count) ∧
      (s.result ≠ .IMPOSSIBLE → s.out.length = count ∧ s.out.Pairwise (· < ·) ∧
        ∀ i ∈ s.out, i < size d ∧ eps < weight d i) := by
  have hinv := topUpInv_foldl d count eps st.out (rng 0 % size d) h.rising h.heavy hlen
    (size d) le_rfl
  change TopUpInv d count eps st.out (rng 0 % size d) (size d)
    (topUp d .AT_MOST_ONCE count eps st.out (rng 0 % size d)) at hinv
  simp only [scanRest]
  generalize topUp d .AT_MOST_ONCE count eps st.out (rng 0 % size d) = out at hinv ⊢
  by_cases hshort : out.length < count
  · -- the scan went round every item: all those above the threshold are in the sample
    rw [if_pos hshort]
    refine ⟨iff_of_true rfl (lt_of_le_of_lt (countP_le_length d eps fun x hx hx_heavy => ?_) hshort),
      fun hne => absurd rfl hne⟩
    obtain ⟨j, hj, rfl⟩ := Lib.exists_add_mod_eq (Nat.mod_lt (rng 0) (by omega)) hx
    exact hinv.covered hshort j hj hx_heavy
  · rw [if_neg hshort]
    have hcount : out.length = count := le_antisymm hinv.length_le (not_lt.mp hshort)
    have hperm := List.perm_insertionSort (· ≤ ·) out
    refine ⟨iff_of_false (by simp) (not_lt.mpr ?_), fun _ => ⟨?_, ?_, ?_⟩⟩
    · exact hcount ▸ length_le_countP d eps hinv.nodup hinv.heavy
    · rw [hperm.length_eq, hcount]
    · exact pairwise_lt_insertionSort hinv.nodup
    · exact fun i hi => hinv.heavy i (hperm.mem_iff.mp hi)

/-- After the pass of `AT_MOST_ONCE`, `sampleMulti` answers `IMPOSSIBLE` exactly when fewer than
`count` items are above the threshold, and otherwise gives `count` of them, distinct and sorted. -/
lemma afterPass_atMostOnce (step : ℚ) {st : Pass} (h : AtMostOnceInv d eps st)
    (hlen : st.out.length ≤ count) :
    ∃ s, afterPass d count .AT_MOST_ONCE step eps rng out_size_ptr st = some s ∧
      (s.result = .IMPOSSIBLE ↔
        (List.range (size d)).countP (fun i => decide (eps < weight d i)) < count) ∧
      (s.result ≠ .IMPOSSIBLE → s.out.length = count ∧ s.out.Pairwise (· < ·) ∧
        ∀ i ∈ s.out, i < size d ∧ eps < weight d i) := by
  simp only [afterPass, h.not_missed, Bool.false_or, reduceCtorEq, if_false]
  by_cases hok : st.out.length = count
  · -- the pass picked `count` distinct items above the threshold
    refine ⟨⟨.OK, st.out, st.over_or_underweight⟩, by simp [hok], iff_of_false (by simp)
      (not_lt.mpr ?_),
      fun _ => ⟨hok, h.rising, h.heavy⟩⟩
    exact hok ▸ length_le_countP d eps (h.rising.imp ne_of_lt) h.heavy
  · exact ⟨_, by simp [hok], scanRest_atMostOnce d count eps rng out_size_ptr h hlen⟩

/-- `sampleMulti` in `AT_MOST_ONCE`: it answers `IMPOSSIBLE` exactly when fewer than `count` items
are above the threshold, and otherwise gives `count` distinct items above it, sorted. -/
lemma sampleMulti_atMostOnce [LawfulDistribution D] (rand01 : ℚ) :
    let threshold := EPSILON * totalUnadjustedWeight d
    ∃ s, sampleMulti d count .AT_MOST_ONCE rand01 rng out_size_ptr = some s ∧
      (s.result = .IMPOSSIBLE ↔
        (List.range (size d)).countP (fun i => decide (threshold < weight d i)) < count) ∧
      (s.result ≠ .IMPOSSIBLE → s.out.length = count ∧ s.out.Pairwise (· < ·) ∧
        ∀ i ∈ s.out, i < size d ∧ threshold < weight d i) := by
  intro threshold
  simp only [sampleMulti]
  by_cases hcount : count = 0
  · rw [if_pos hcount]
    exact ⟨_, rfl, iff_of_false (by simp) (by omega), fun _ => ⟨by simp [hcount], by simp, by simp⟩⟩
  rw [if_neg hcount]
  by_cases htotal : prefixSum d (size d) - prefixSum d 0 ≤ threshold
  · -- nothing is above the threshold
    rw [if_pos htotal]
    refine ⟨_, rfl, iff_of_true rfl ?_, fun hne => absurd rfl hne⟩
    rw [countP_eq_zero_of_total_le d threshold htotal]
    omega
  rw [if_neg htotal]
  exact afterPass_atMostOnce d count threshold rng out_size_ptr _
    (atMostOnceInv_systematic d _ threshold count _) (length_out_systematic_le d _ _ threshold count _)

end AtMostOnce

/-! ### The rebuild of `AT_LEAST_ONCE` -/

section Rebuild

variable (d : D) (count : ℕ) (step eps : ℚ)

/-- The scan of the rebuild collects every item above the threshold after the sample so far, where
they fit in `count`. -/
lemma collectFrom_ok : ∀ (xs out : List ℕ) (underweight : Option ℕ),
    out.length + (xs.filter fun i => decide (eps < weight d i)).length ≤ count →
    ∃ underweight', collectFrom d count step eps xs (out, underweight) =
      .ok (out ++ xs.filter fun i => decide (eps < weight d i), underweight')
  | [], out, underweight, _ => ⟨underweight, by simp [collectFrom]⟩
  | x :: xs, out, underweight, hfit => by
    by_cases hlight : weight d x ≤ eps
    · have hfilter : (x :: xs).filter (fun i => decide (eps < weight d i)) =
          xs.filter fun i => decide (eps < weight d i) := by simp [hlight]
      rw [hfilter] at hfit ⊢
      obtain ⟨underweight', e⟩ := collectFrom_ok xs out underweight hfit
      exact ⟨underweight', by simp only [collectFrom, if_pos hlight]; exact e⟩
    · have hfilter : (x :: xs).filter (fun i => decide (eps < weight d i)) =
          x :: xs.filter fun i => decide (eps < weight d i) := by simp [lt_of_not_ge hlight]
      rw [hfilter] at hfit ⊢
      simp only [List.length_cons] at hfit
      obtain ⟨underweight', e⟩ := collectFrom_ok xs (out ++ [x]) _ (by simp; omega)
      refine ⟨underweight', ?_⟩
      simp only [collectFrom, if_neg hlight, if_neg (show out.length ≠ count by omega)]
      simpa using e

/-- The scan of the rebuild stops with `IMPOSSIBLE` where more items are above the threshold than
fit in `count`. -/
lemma collectFrom_error : ∀ (xs out : List ℕ) (underweight : Option ℕ), out.length ≤ count →
    count < out.length + (xs.filter fun i => decide (eps < weight d i)).length →
    ∃ r, collectFrom d count step eps xs (out, underweight) = .error r
  | [], out, _, hle, hover => by simp at hover; omega
  | x :: xs, out, underweight, hle, hover => by
    by_cases hlight : weight d x ≤ eps
    · have hfilter : (x :: xs).filter (fun i => decide (eps < weight d i)) =
          xs.filter fun i => decide (eps < weight d i) := by simp [hlight]
      rw [hfilter] at hover
      obtain ⟨r, e⟩ := collectFrom_error xs out underweight hle hover
      exact ⟨r, by simp only [collectFrom, if_pos hlight]; exact e⟩
    · have hfilter : (x :: xs).filter (fun i => decide (eps < weight d i)) =
          x :: xs.filter fun i => decide (eps < weight d i) := by simp [lt_of_not_ge hlight]
      rw [hfilter, List.length_cons] at hover
      by_cases hfull : out.length = count
      · exact ⟨(out, underweight), by simp only [collectFrom, if_neg hlight, if_pos hfull]⟩
      · obtain ⟨r, e⟩ := collectFrom_error xs (out ++ [x]) (if weight d x < step - eps then some x
          else underweight) (by simp; omega) (by simp; omega)
        exact ⟨r, by simp only [collectFrom, if_neg hlight, if_neg hfull]; exact e⟩

/-- The closing loop, on a sample that is not empty, runs to the end: it keeps the sample in front,
adds one copy a round, and copies only items already there. -/
lemma fill_spec (rng : ℕ → ℕ) : ∀ (fuel : ℕ) (out : List ℕ) (k : ℕ), out ≠ [] →
    ∃ out', fill rng fuel out k = some out' ∧ out'.length = out.length + fuel ∧
      (∀ y ∈ out, y ∈ out') ∧ ∀ y ∈ out', y ∈ out
  | 0, out, _, _ => ⟨out, rfl, rfl, fun _ hy => hy, fun _ hy => hy⟩
  | fuel + 1, a :: out, k, _ => by
    -- the copy is an item of the sample
    have hcopy : (a :: out).getD (rng k % (a :: out).length) 0 ∈ a :: out := by
      rw [List.getD_eq_getElem _ _ (Nat.mod_lt _ (by simp))]
      exact List.getElem_mem _
    obtain ⟨out', e, hlen, hfront, hmem⟩ := fill_spec rng fuel
      ((a :: out) ++ [(a :: out).getD (rng k % (a :: out).length) 0]) (k + 1) (by simp)
    refine ⟨out', e, by simp [hlen]; omega, fun y hy => hfront y (List.mem_append_left _ hy),
      fun y hy => ?_⟩
    rcases List.mem_append.mp (hmem y hy) with hy | hy
    · exact hy
    · exact List.mem_singleton.mp hy ▸ hcopy

/-- The repeated items are items of the pass. -/
lemma mem_of_mem_excessOf {l : List ℕ} {y : ℕ} (hy : y ∈ excessOf l) : y ∈ l := by
  obtain ⟨⟨a, b⟩, hab, e⟩ := List.mem_filterMap.mp hy
  have hb : b ∈ l.tail := (List.of_mem_zip hab).2
  split_ifs at e
  · exact Option.some.inj e ▸ List.mem_of_mem_tail hb

/-- The sample before the random copies holds the sample it started from, then repeated items,
and no more than `count` items. -/
lemma copyExcess_spec (excess : List ℕ) {out : List ℕ} (r : ℕ) (hlen : out.length ≤ count) :
    (copyExcess count excess r out).1.length ≤ count ∧
      (∀ y ∈ out, y ∈ (copyExcess count excess r out).1) ∧
      (∀ y ∈ (copyExcess count excess r out).1, y ∈ out ∨ y ∈ excess) ∧
      (excess = [] → (copyExcess count excess r out).1 = out) := by
  simp only [copyExcess]
  split_ifs with hcopy
  · refine ⟨by simp; omega, fun y hy => List.mem_append_left _ hy, fun y hy => ?_,
      fun hnil => absurd hnil hcopy.2⟩
    rcases List.mem_append.mp hy with hy | hy
    · exact .inl hy
    · exact .inr (List.mem_rotate.mp (List.mem_of_mem_take hy))
  · exact ⟨hlen, fun _ hy => hy, fun _ hy => .inl hy, fun _ => rfl⟩

variable (rng : ℕ → ℕ)

/-- Where more items are above the threshold than `count`, the rebuild answers `IMPOSSIBLE`. -/
lemma rebuild_impossible (st : Pass)
    (hover : count < (List.range (size d)).countP fun i => decide (eps < weight d i)) :
    ∃ s, rebuild d count step eps rng st = some s ∧ s.result = .IMPOSSIBLE := by
  rw [List.countP_eq_length_filter] at hover
  obtain ⟨⟨out, underweight⟩, e⟩ := collectFrom_error d count step eps (List.range (size d)) []
    st.over_or_underweight (Nat.zero_le _) (by simpa using hover)
  exact ⟨⟨.IMPOSSIBLE, out, underweight⟩, by simp only [rebuild, e], rfl⟩

/-- Where the items above the threshold fit in `count`, the rebuild divides by zero exactly when
there is none, and otherwise gives `count` items, sorted, every one in range, and every item above
the threshold among them. -/
lemma rebuild_fits (st : Pass) (hheavy : ∀ x ∈ st.out, x < size d ∧ eps < weight d x)
    (hcount : 0 < count)
    (hfit : ((List.range (size d)).countP fun i => decide (eps < weight d i)) ≤ count) :
    (rebuild d count step eps rng st = none ↔
        ((List.range (size d)).countP fun i => decide (eps < weight d i)) = 0) ∧
      ∀ s, rebuild d count step eps rng st = some s → s.result = .BIASED ∧ s.out.length = count ∧
        s.out.Pairwise (· ≤ ·) ∧ (∀ i ∈ s.out, i < size d) ∧
        ∀ i < size d, eps < weight d i → i ∈ s.out := by
  rw [List.countP_eq_length_filter] at hfit ⊢
  set heavy := (List.range (size d)).filter fun i => decide (eps < weight d i) with hheavy_def
  have hmem_heavy : ∀ i, i ∈ heavy ↔ i < size d ∧ eps < weight d i := by simp [hheavy_def]
  obtain ⟨underweight, e⟩ := collectFrom_ok d count step eps (List.range (size d)) []
    st.over_or_underweight (by simpa using hfit)
  simp only [rebuild, e, List.nil_append]
  obtain ⟨hlen, hfront, hfrom, hnil⟩ := copyExcess_spec count (excessOf st.out) (rng 0) hfit
  generalize copyExcess count (excessOf st.out) (rng 0) heavy = copied at hlen hfront hfrom hnil ⊢
  obtain ⟨out, calls⟩ := copied
  simp only at hlen hfront hfrom hnil ⊢
  by_cases hempty : heavy = []
  · -- nothing is above the threshold, so the pass picked nothing, and the sample stays empty
    have hpass : st.out = [] := List.eq_nil_iff_forall_not_mem.mpr fun x hx =>
      List.not_mem_nil ((hmem_heavy x).mpr (hheavy x hx) |> (hempty ▸ ·))
    have hout : out = [] := by rw [hnil (by simp [excessOf, hpass]), hempty]
    subst hout
    -- `rng() % 0` on the empty sample
    have hnone : fill rng (count - ([] : List ℕ).length) [] calls = none := by
      obtain ⟨n, hn⟩ : ∃ n, count - ([] : List ℕ).length = n + 1 := ⟨count - 1, by simp; omega⟩
      rw [hn]
      rfl
    rw [hnone, hempty]
    exact ⟨by simp, fun s hs => absurd hs (by simp)⟩
  · obtain ⟨filled, hfill, hfilled_len, hkept, hcopies⟩ :=
      fill_spec rng (count - out.length) out calls (fun h => hempty (List.eq_nil_iff_forall_not_mem.mpr
        fun y hy => by simpa [h] using hfront y hy))
    have hperm := List.perm_insertionSort (· ≤ ·) filled
    refine ⟨by simp [hfill, hempty], fun s hs => ?_⟩
    simp only [hfill, Option.map_some, Option.some.injEq] at hs
    subst hs
    refine ⟨rfl, by rw [hperm.length_eq]; omega, List.pairwise_insertionSort _ _, fun i hi => ?_,
      fun i hi hi_heavy => ?_⟩
    · -- a copy is an item above the threshold or an item of the pass
      rcases hfrom i (hcopies i (hperm.mem_iff.mp hi)) with h | h
      · exact ((hmem_heavy i).mp h).1
      · exact (hheavy i (mem_of_mem_excessOf h)).1
    · exact hperm.mem_iff.mpr (hkept i (hfront i ((hmem_heavy i).mpr ⟨hi, hi_heavy⟩)))

end Rebuild

/-! ### `sampleMulti` in `AT_LEAST_ONCE` -/

section AtLeastOnce

variable [LawfulDistribution D] (d : D) (count : ℕ) (eps : ℚ) (rng : ℕ → ℕ) (out_size_ptr : Bool)

/-- After the pass of `AT_LEAST_ONCE`, with `count` at least one, `sampleMulti` divides by zero
exactly when no item is above the threshold, answers `IMPOSSIBLE` exactly when more than `count`
are, and otherwise gives `count` items, sorted, in range, with every item above the threshold among
them. -/
lemma afterPass_atLeastOnce (step : ℚ) {st : Pass} (h : AtLeastOnceInv d eps st)
    (hcount : 0 < count) :
    let heavy := (List.range (size d)).countP fun i => decide (eps < weight d i)
    (afterPass d count .AT_LEAST_ONCE step eps rng out_size_ptr st = none ↔ heavy = 0) ∧
      ∀ s, afterPass d count .AT_LEAST_ONCE step eps rng out_size_ptr st = some s →
        (s.result = .IMPOSSIBLE ↔ count < heavy) ∧
        (s.result ≠ .IMPOSSIBLE → s.out.length = count ∧ s.out.Pairwise (· ≤ ·) ∧
          (∀ i ∈ s.out, i < size d) ∧ ∀ i < size d, eps < weight d i → i ∈ s.out) := by
  intro heavy
  simp only [afterPass, beq_self_eq_true, Bool.true_and, if_true]
  by_cases hok : st.out.length = count ∧
      (st.missed || decide (eps < prefixSum d (size d) - st.prev_sum)) = false
  · rw [if_pos hok]
    obtain ⟨hlen, hmissed⟩ := hok
    simp only [Bool.or_eq_false_iff, decide_eq_false_iff_not, not_lt] at hmissed
    -- the pass picked every item above the threshold, and picked at least one
    have hcovers := h.covers d eps hmissed.1 hmissed.2
    have hle : heavy ≤ count := hlen ▸ countP_le_length d eps hcovers
    have hpos : 0 < heavy := by
      obtain ⟨x, hx⟩ := List.exists_mem_of_length_pos (hlen ▸ hcount)
      have hone := length_le_countP d eps (List.nodup_singleton x)
        fun y hy => List.mem_singleton.mp hy ▸ h.heavy x hx
      exact hone
    refine ⟨by simp; omega, fun s hs => ?_⟩
    rw [Option.some.injEq] at hs
    subst hs
    exact ⟨iff_of_false (by simp) (by omega),
      fun _ => ⟨hlen, h.sorted, fun i hi => (h.heavy i hi).1, hcovers⟩⟩
  · rw [if_neg hok]
    by_cases hover : count < heavy
    · obtain ⟨s, hs, hres⟩ := rebuild_impossible d count step eps rng st hover
      refine ⟨by simp [hs]; omega, fun s' hs' => ?_⟩
      rw [hs, Option.some.injEq] at hs'
      subst hs'
      exact ⟨iff_of_true hres hover, fun hne => absurd hres hne⟩
    · obtain ⟨hnone, hsome⟩ := rebuild_fits d count step eps rng st h.heavy hcount
        (not_lt.mp hover)
      refine ⟨hnone, fun s hs => ?_⟩
      obtain ⟨hres, hgood⟩ := hsome s hs
      exact ⟨iff_of_false (by simp [hres]) hover, fun _ => hgood⟩

/-- `sampleMulti` in `AT_LEAST_ONCE`, with `count` at least one: it divides by zero exactly when
the total is above the threshold but no item is, answers `IMPOSSIBLE` exactly when the total is at
most the threshold or more than `count` items are above it, and otherwise gives `count` items,
sorted, in range, with every item above the threshold among them. -/
lemma sampleMulti_atLeastOnce (rand01 : ℚ) (hcount : 0 < count) :
    let threshold := EPSILON * totalUnadjustedWeight d
    let heavy := (List.range (size d)).countP fun i => decide (threshold < weight d i)
    let total := prefixSum d (size d) - prefixSum d 0
    (sampleMulti d count .AT_LEAST_ONCE rand01 rng out_size_ptr = none ↔
        threshold < total ∧ heavy = 0) ∧
      ∀ s, sampleMulti d count .AT_LEAST_ONCE rand01 rng out_size_ptr = some s →
        (s.result = .IMPOSSIBLE ↔ total ≤ threshold ∨ count < heavy) ∧
        (s.result ≠ .IMPOSSIBLE → s.out.length = count ∧ s.out.Pairwise (· ≤ ·) ∧
          (∀ i ∈ s.out, i < size d) ∧ ∀ i < size d, threshold < weight d i → i ∈ s.out) := by
  intro threshold heavy total
  simp only [sampleMulti, if_neg (Nat.pos_iff_ne_zero.mp hcount)]
  by_cases htotal : total ≤ threshold
  · rw [if_pos htotal]
    refine ⟨iff_of_false (by simp) fun h => absurd h.1 (not_lt.mpr htotal), fun s hs => ?_⟩
    rw [Option.some.injEq] at hs
    subst hs
    exact ⟨iff_of_true rfl (.inl htotal), fun hne => absurd rfl hne⟩
  · rw [if_neg htotal]
    obtain ⟨hnone, hsome⟩ := afterPass_atLeastOnce d count threshold rng out_size_ptr _
      (atLeastOnceInv_systematic d _ threshold count _) hcount
    refine ⟨hnone.trans ⟨fun h => ⟨lt_of_not_ge htotal, h⟩, fun h => h.2⟩, fun s hs => ?_⟩
    obtain ⟨hres, hgood⟩ := hsome s hs
    exact ⟨hres.trans ⟨.inr, fun h => h.resolve_left htotal⟩, hgood⟩

end AtLeastOnce

/-- `sampleMulti` in `AT_MOST_ONCE` answers `IMPOSSIBLE` exactly when fewer than `count` items are
above the threshold, and otherwise gives `count` distinct items above it, sorted. In
`AT_LEAST_ONCE`, with `count` at least one, it divides by zero exactly when the total is above the
threshold but no item is, answers `IMPOSSIBLE` exactly when the total is at most the threshold or
more than `count` items are above it, and otherwise gives `count` items, sorted, in range, with
every item above the threshold among them. -/
theorem sampleMulti_modes [LawfulDistribution D] (d : D) (count : ℕ) (rand01 : ℚ)
    (rng : ℕ → ℕ) (out_size_ptr : Bool) :
    let threshold := EPSILON * totalUnadjustedWeight d
    let heavy := (List.range (size d)).countP fun i => decide (threshold < weight d i)
    let total := prefixSum d (size d) - prefixSum d 0
    (∃ s, sampleMulti d count .AT_MOST_ONCE rand01 rng out_size_ptr = some s ∧
      (s.result = .IMPOSSIBLE ↔ heavy < count) ∧
      (s.result ≠ .IMPOSSIBLE → s.out.length = count ∧ s.out.Pairwise (· < ·) ∧
        ∀ i ∈ s.out, i < size d ∧ threshold < weight d i)) ∧
    (0 < count →
      (sampleMulti d count .AT_LEAST_ONCE rand01 rng out_size_ptr = none ↔
        threshold < total ∧ heavy = 0) ∧
      ∀ s, sampleMulti d count .AT_LEAST_ONCE rand01 rng out_size_ptr = some s →
        (s.result = .IMPOSSIBLE ↔ total ≤ threshold ∨ count < heavy) ∧
        (s.result ≠ .IMPOSSIBLE → s.out.length = count ∧ s.out.Pairwise (· ≤ ·) ∧
          (∀ i ∈ s.out, i < size d) ∧ ∀ i < size d, threshold < weight d i → i ∈ s.out)) :=
  ⟨sampleMulti_atMostOnce d count rng out_size_ptr rand01,
    fun hcount => sampleMulti_atLeastOnce d count rng out_size_ptr rand01 hcount⟩

/-- Two items of weights 1 and 2, a sample of two. -/
theorem sampleMulti_modes_two_items :
    let d : ProbabilityDistribution := .assign [1, 2] (by norm_num)
    let threshold := EPSILON * totalUnadjustedWeight d
    let heavy := (List.range (size d)).countP fun i => decide (threshold < weight d i)
    let total := prefixSum d (size d) - prefixSum d 0
    (∃ s, sampleMulti d 2 .AT_MOST_ONCE 0 (fun _ => 0) false = some s ∧
      (s.result = .IMPOSSIBLE ↔ heavy < 2) ∧
      (s.result ≠ .IMPOSSIBLE → s.out.length = 2 ∧ s.out.Pairwise (· < ·) ∧
        ∀ i ∈ s.out, i < size d ∧ threshold < weight d i)) ∧
    0 < 2 ∧
    (sampleMulti d 2 .AT_LEAST_ONCE 0 (fun _ => 0) false = none ↔ threshold < total ∧ heavy = 0) ∧
      ∀ s, sampleMulti d 2 .AT_LEAST_ONCE 0 (fun _ => 0) false = some s →
        (s.result = .IMPOSSIBLE ↔ total ≤ threshold ∨ 2 < heavy) ∧
        (s.result ≠ .IMPOSSIBLE → s.out.length = 2 ∧ s.out.Pairwise (· ≤ ·) ∧
          (∀ i ∈ s.out, i < size d) ∧ ∀ i < size d, threshold < weight d i → i ∈ s.out) :=
  let h := sampleMulti_modes (ProbabilityDistribution.assign [1, 2] (by norm_num)) 2 0
    (fun _ => 0) false
  ⟨h.1, by decide, h.2 (by decide)⟩

/-- The bounds of `AT_LEAST_ONCE` at its edges: a `count` of 0 gets `OK` and an empty sample even
where an item is above the threshold, and a distribution of zero weights gets `IMPOSSIBLE`
although no item is above the threshold, let alone more than `count`. -/
theorem sampleMulti_atLeastOnce_edges :
    let one : ProbabilityDistribution := .assign [1] (by norm_num)
    let zero : ProbabilityDistribution := .assign [0] (by norm_num)
    sampleMulti one 0 .AT_LEAST_ONCE 0 (fun _ => 0) false = some ⟨.OK, [], none⟩ ∧
      EPSILON * totalUnadjustedWeight one < weight one 0 ∧
      (sampleMulti zero 1 .AT_LEAST_ONCE 0 (fun _ => 0) false).map (·.result) = some .IMPOSSIBLE ∧
      (List.range (size zero)).countP
        (fun i => decide (EPSILON * totalUnadjustedWeight zero < weight zero i)) = 0 := by
  decide +kernel

end LogDevice.Sampling
