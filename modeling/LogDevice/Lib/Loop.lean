import Mathlib

/-!
# While loops with a budget

A C++ loop `while (cond) body;` over a state `σ` is modelled by `whileLoop cond body fuel s`: at
most `fuel` iterations. With a budget that bounds a potential dropping at each iteration, the loop
has exited before the budget ran out, so the model is the loop itself. The rule
`whileLoop_spec` packages that argument with an invariant, as a Hoare rule for loops: an
invariant kept by the body where the condition holds, and a potential that the body lowers, give
the invariant and the negated condition at exit. A `for` loop over a list is a `foldl`, and
`foldl_rel` carries a relation between the state before and after across it, `foldl_invariant` an
invariant kept by each step on an element of the list, `foldl_invariant_prefix` one that also
depends on the elements already visited, `foldl_range_invariant` one of a loop over `0, …, n - 1`
that depends on the number of turns done (and `filterMap_range_of_le` what such a loop picks), `foldl_lockstep` a relation between two
loops over the same list, `foldl_ge_of_step` a running maximum; a loop that counts or adds up over
a list is a count or a sum (`foldl_count_ite`, `foldl_add_ite`), and a loop over distinct keys
that changes each key's value on its own changes each one once (`foldl_update`).
-/

namespace LogDevice.Lib

variable {σ : Type _}

/-- At most `fuel` iterations of `while (cond s) s := body s`. -/
def whileLoop (cond : σ → Bool) (body : σ → σ) : Nat → σ → σ
  | 0, s => s
  | fuel + 1, s => if cond s then whileLoop cond body fuel (body s) else s

section

variable {cond : σ → Bool} {body : σ → σ}

@[simp] lemma whileLoop_zero (s : σ) : whileLoop cond body 0 s = s := rfl

lemma whileLoop_succ_of_cond {s : σ} (fuel : Nat) (h : cond s = true) :
    whileLoop cond body (fuel + 1) s = whileLoop cond body fuel (body s) := by
  simp [whileLoop, h]

lemma whileLoop_succ_of_not_cond {s : σ} (fuel : Nat) (h : cond s = false) :
    whileLoop cond body (fuel + 1) s = s := by
  simp [whileLoop, h]

/-- The loop rule: an invariant kept by every iteration, and a potential that every iteration
lowers and the budget bounds, give the invariant and the failed condition at exit. -/
lemma whileLoop_spec (inv : σ → Prop) (potential : σ → Nat)
    (hbody : ∀ s, inv s → cond s = true → inv (body s) ∧ potential (body s) < potential s) :
    ∀ (fuel : Nat) (s : σ), potential s ≤ fuel → inv s →
      inv (whileLoop cond body fuel s) ∧ cond (whileLoop cond body fuel s) = false := by
  intro fuel
  induction fuel with
  | zero =>
    intro s hpot hs
    -- with no budget left the potential is zero, so no iteration can lower it
    cases hc : cond s with
    | false => exact ⟨hs, hc⟩
    | true => exact absurd (hbody s hs hc).2 (by omega)
  | succ fuel ih =>
    intro s hpot hs
    cases hc : cond s with
    | false => simpa [whileLoop_succ_of_not_cond fuel hc] using ⟨hs, hc⟩
    | true =>
      obtain ⟨hs', hlt⟩ := hbody s hs hc
      rw [whileLoop_succ_of_cond fuel hc]
      exact ih (body s) (by omega) hs'

end

/-- A relation that is reflexive, transitive and holds across one step of a `foldl` holds across
the whole fold. -/
lemma foldl_rel {α : Type _} (R : σ → σ → Prop) (hrefl : ∀ s, R s s)
    (htrans : ∀ s₁ s₂ s₃, R s₁ s₂ → R s₂ s₃ → R s₁ s₃) (f : σ → α → σ)
    (hstep : ∀ s a, R s (f s a)) : ∀ (l : List α) (s : σ), R s (l.foldl f s) := by
  intro l
  induction l with
  | nil => exact hrefl
  | cons a l ih => exact fun s => htrans _ _ _ (hstep s a) (ih (f s a))

/-- A `foldl` whose step never lowers a measure, and leaves it at least `g a` after the element
`a`, ends with the measure at least `g a` for every element of the list: a running maximum. -/
lemma foldl_ge_of_step {α : Type _} (m : σ → Nat) (g : α → Nat) (f : σ → α → σ)
    (hmono : ∀ s a, m s ≤ m (f s a)) (hstep : ∀ s a, g a ≤ m (f s a)) :
    ∀ (l : List α) (s : σ), ∀ a ∈ l, g a ≤ m (l.foldl f s) := by
  intro l
  induction l with
  | nil => exact fun _ _ ha => absurd ha List.not_mem_nil
  | cons b l ih =>
    intro s a ha
    rcases List.mem_cons.mp ha with rfl | ha
    · -- the element's own step, then a fold that never lowers the measure
      exact (hstep s a).trans (foldl_rel (fun s s' => m s ≤ m s') (fun _ => le_rfl)
        (fun _ _ _ => le_trans) f hmono l (f s a))
    · exact ih (f s b) a ha

/-- An invariant that every step of a `foldl`, on an element of the list, keeps holds at its end. -/
lemma foldl_invariant {α : Type _} (inv : σ → Prop) (f : σ → α → σ) :
    ∀ (l : List α), (∀ s, ∀ a ∈ l, inv s → inv (f s a)) → ∀ s, inv s → inv (l.foldl f s)
  | [], _, _, hs => hs
  | a :: l, hstep, s, hs =>
    foldl_invariant inv f l (fun s' a' ha' => hstep s' a' (List.mem_cons_of_mem a ha'))
      (f s a) (hstep s a List.mem_cons_self hs)

/-- An invariant of the state and of the elements already visited, kept by every step given
where in the list the step is, holds at the end of a `foldl` with the whole list visited. -/
lemma foldl_invariant_prefix {α : Type _} (inv : List α → σ → Prop) (f : σ → α → σ) :
    ∀ (l done : List α) (s : σ),
      (∀ pre a suf s, l = pre ++ a :: suf → inv (done ++ pre) s → inv (done ++ pre ++ [a]) (f s a)) →
      inv done s → inv (done ++ l) (l.foldl f s)
  | [], done, _, _, hs => by rwa [List.append_nil]
  | a :: l, done, s, hstep, hs => by
    have h₁ : inv (done ++ [a]) (f s a) := by
      simpa using hstep [] a l s rfl (by simpa using hs)
    -- the rest of the list, with `a` visited
    have ih := foldl_invariant_prefix inv f l (done ++ [a]) (f s a)
      (fun pre a' suf s' hl h' => by
        simpa using hstep (a :: pre) a' suf s' (by rw [hl]; rfl) (by simpa using h')) h₁
    simpa using ih

/-- The rule of a loop `for (i = 0; i < n; ++i)`: an invariant of the number of turns done, kept
by the turn on each `i < n`, holds after the `n` turns. -/
lemma foldl_range_invariant (inv : Nat → σ → Prop) (f : σ → Nat → σ) :
    ∀ (n : Nat), (∀ i < n, ∀ s, inv i s → inv (i + 1) (f s i)) →
      ∀ s, inv 0 s → inv n ((List.range n).foldl f s)
  | 0, _, _, hs => hs
  | n + 1, hstep, s, hs => by
    rw [List.range_succ, List.foldl_append, List.foldl_cons, List.foldl_nil]
    exact hstep n (Nat.lt_succ_self n) _
      (foldl_range_invariant inv f n (fun i hi => hstep i (Nat.lt_succ_of_lt hi)) s hs)

/-- What a loop over `0, …, n - 1` picks, where it picks nothing from `m ≤ n` on, is what the loop
over `0, …, m - 1` picks. -/
lemma filterMap_range_of_le {α : Type _} {m n : Nat} (h : m ≤ n) (f : Nat → Option α) :
    (List.range n).filterMap (fun j => if j < m then f j else none) = (List.range m).filterMap f := by
  obtain ⟨k, rfl⟩ := Nat.exists_eq_add_of_le h
  rw [List.range_add, List.filterMap_append, List.filterMap_map]
  -- past `m` nothing is picked
  have hrest : (List.range k).filterMap ((fun j => if j < m then f j else none) ∘ (m + ·)) = [] :=
    List.filterMap_eq_nil_iff.mpr fun j _ => by simp
  rw [hrest, List.append_nil]
  exact List.filterMap_congr fun j hj => by rw [if_pos (List.mem_range.mp hj)]

/-- Two `foldl`s over the same list whose steps keep a relation between their states keep it to
the end: the two loops run in lockstep. -/
lemma foldl_lockstep {α τ : Type _} (R : τ → σ → Prop) (g : τ → α → τ) (f : σ → α → σ)
    (hstep : ∀ t s a, R t s → R (g t a) (f s a)) :
    ∀ (l : List α) (t : τ) (s : σ), R t s → R (l.foldl g t) (l.foldl f s)
  | [], _, _, h => h
  | a :: l, t, s, h => foldl_lockstep R g f hstep l (g t a) (f s a) (hstep t s a h)

/-- A `for` loop over distinct keys whose body changes the value read at its own key only: the
value at each key of the list is changed once, by the body's rule. -/
lemma foldl_update {κ μ ν : Type _} [DecidableEq κ] (get : μ → κ → ν) (f : μ → κ → μ)
    (g : κ → ν → ν) (hself : ∀ m k, get (f m k) k = g k (get m k))
    (hother : ∀ m k k', k' ≠ k → get (f m k) k' = get m k') :
    ∀ (l : List κ), l.Nodup → ∀ (m : μ) (k : κ),
      get (l.foldl f m) k = if k ∈ l then g k (get m k) else get m k
  | [], _, m, k => by simp
  | k₀ :: l, hnd, m, k => by
    rw [List.nodup_cons] at hnd
    rw [List.foldl_cons, foldl_update get f g hself hother l hnd.2]
    by_cases hk : k = k₀
    · -- the key's own iteration, the only one that changes it
      subst hk
      rw [if_neg hnd.1, hself, if_pos List.mem_cons_self]
    · rw [hother _ _ _ hk]
      simp only [List.mem_cons, hk, false_or]

/-- A `for` loop that adds up a value over the elements that pass a test. -/
lemma foldl_add_ite {α : Type _} (c : α → Bool) (f : α → Nat) :
    ∀ (l : List α) (acc : Nat),
      l.foldl (fun acc x => if c x then acc + f x else acc) acc =
        acc + (l.map fun x => if c x then f x else 0).sum
  | [], acc => by simp
  | x :: l, acc => by
    rw [List.foldl_cons, foldl_add_ite c f l, List.map_cons, List.sum_cons]
    split_ifs <;> omega

/-- A `for` loop that counts the elements that pass a test. -/
lemma foldl_count_ite {α : Type _} (c : α → Bool) :
    ∀ (l : List α) (acc : Nat),
      l.foldl (fun acc x => if c x then acc + 1 else acc) acc = acc + l.countP c
  | [], acc => by simp
  | x :: l, acc => by
    rw [List.foldl_cons, foldl_count_ite c l, List.countP_cons]
    split_ifs <;> omega

end LogDevice.Lib
