import Mathlib.Data.Finset.Card
import Mathlib.Algebra.BigOperators.Group.Finset.Basic

/-!
# Counters kept by hand

Code that keeps a count of the members of a finite set that satisfy a predicate, and moves it by
one when a single member changes, stays equal to the count taken from scratch. The lemmas here say
how such a count moves: when the predicate changes at one member (`card_filter_update`), when a
new member is added (`card_filter_insert`), and how counts kept per key add up to the count of the
members whose key is one of them (`sum_card_filter_eq_some`); and a function that agrees wherever
another does takes no more values than it (`card_image_le_card_image`). They are stated additively, so that
`omega` can use them without truncated subtraction. Nothing here is specific to one program.
-/

namespace LogDevice.Lib

namespace Count

variable {ι : Type _} [DecidableEq ι]

/-- A count taken with an indicator for one member: the member's own contribution split off. -/
lemma card_filter_eq_erase {s : Finset ι} {x : ι} (hx : x ∈ s) (p : ι → Prop) [DecidablePred p] :
    (s.filter p).card = ((s.erase x).filter p).card + (if p x then 1 else 0) := by
  conv_lhs => rw [← Finset.insert_erase hx, Finset.filter_insert]
  split_ifs with hp
  · exact Finset.card_insert_of_notMem (by simp)
  · rfl

/-- When a predicate changes at one member only, the count moves by that member's contribution. -/
lemma card_filter_update {s : Finset ι} {p q : ι → Prop} [DecidablePred p] [DecidablePred q]
    (x : ι) (h : ∀ y ∈ s, y ≠ x → (p y ↔ q y)) :
    (s.filter q).card + (if x ∈ s ∧ p x then 1 else 0) =
      (s.filter p).card + (if x ∈ s ∧ q x then 1 else 0) := by
  by_cases hx : x ∈ s
  · have hrest : (s.erase x).filter p = (s.erase x).filter q :=
      Finset.filter_congr fun y hy => h y (Finset.mem_of_mem_erase hy) (Finset.ne_of_mem_erase hy)
    rw [card_filter_eq_erase hx p, card_filter_eq_erase hx q, hrest]
    simp only [hx, true_and]
    omega
  · have hall : s.filter p = s.filter q :=
      Finset.filter_congr fun y hy => h y hy (fun hyx => hx (hyx ▸ hy))
    simp [hx, hall]

/-- A count over a set grown by a new member. -/
lemma card_filter_insert {s : Finset ι} {x : ι} (hx : x ∉ s) (p : ι → Prop) [DecidablePred p] :
    ((insert x s).filter p).card = (s.filter p).card + (if p x then 1 else 0) := by
  rw [Finset.filter_insert]
  split_ifs with hp
  · exact Finset.card_insert_of_notMem (fun h => hx (Finset.mem_of_mem_filter x h))
  · rfl

/-- A count over a set grown by a new member, by a predicate that agrees on the old members with
the one counted before. -/
lemma card_filter_insert_congr {s : Finset ι} {x : ι} (hx : x ∉ s) {p q : ι → Prop}
    [DecidablePred p] [DecidablePred q] (h : ∀ y ∈ s, p y ↔ q y) :
    ((insert x s).filter p).card = (s.filter q).card + (if p x then 1 else 0) := by
  rw [card_filter_insert hx, Finset.filter_congr h]

/-- Counts kept per key add up to the count of the members whose key is one of them. -/
lemma sum_card_filter_eq_some {κ : Type _} [DecidableEq κ] (s : Finset ι) (key : ι → Option κ)
    (ks : Finset κ) :
    ∑ k ∈ ks, (s.filter fun x => key x = some k).card =
      (s.filter fun x => ∃ k ∈ ks, key x = some k).card := by
  induction ks using Finset.induction_on with
  | empty => simp
  | insert k ks hk ih =>
    -- the members keyed `k` and those keyed by one of `ks` are disjoint, since `k ∉ ks`
    have hdisj : Disjoint (s.filter fun x => key x = some k)
        (s.filter fun x => ∃ k' ∈ ks, key x = some k') := by
      rw [Finset.disjoint_filter]
      rintro x - hx ⟨k', hk', hx'⟩
      rw [hx, Option.some_inj] at hx'
      exact hk (hx' ▸ hk')
    have hunion : (s.filter fun x => ∃ k' ∈ insert k ks, key x = some k') =
        (s.filter fun x => key x = some k) ∪ (s.filter fun x => ∃ k' ∈ ks, key x = some k') := by
      rw [← Finset.filter_or]
      simp only [Finset.mem_insert, exists_eq_or_imp]
    rw [Finset.sum_insert hk, ih, hunion, Finset.card_union_of_disjoint hdisj]

/-- A function that agrees wherever another does, on a set, takes at most as many values on it. -/
lemma card_image_le_card_image {κ μ : Type _} [DecidableEq κ] [DecidableEq μ] {f : ι → κ}
    {g : ι → μ} (s : Finset ι) (h : ∀ x ∈ s, ∀ y ∈ s, f x = f y → g x = g y) :
    (s.image g).card ≤ (s.image f).card := by
  induction s using Finset.induction_on with
  | empty => simp
  | insert a s ha ih =>
    have ih' := ih fun x hx y hy =>
      h x (Finset.mem_insert_of_mem hx) y (Finset.mem_insert_of_mem hy)
    rw [Finset.image_insert, Finset.image_insert]
    by_cases hf : f a ∈ s.image f
    · -- `a` shares its value of `f`, hence of `g`, with a member of `s`
      obtain ⟨y, hy, hfy⟩ := Finset.mem_image.mp hf
      have hg : g a ∈ s.image g := Finset.mem_image.mpr
        ⟨y, hy, h y (Finset.mem_insert_of_mem hy) a (Finset.mem_insert_self a s) hfy⟩
      rw [Finset.insert_eq_of_mem hf, Finset.insert_eq_of_mem hg]
      exact ih'
    · rw [Finset.card_insert_of_notMem hf]
      exact (Finset.card_insert_le _ _).trans (Nat.succ_le_succ ih')

end Count

end LogDevice.Lib
