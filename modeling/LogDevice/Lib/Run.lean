import Mathlib

/-!
# Runs of a labelled step relation

A run is a finite sequence of steps `s —a₁→ s₁ —a₂→ … —aₙ→ s'` of a relation
`step : σ → α → σ → Prop`. The lemmas here are the rules that the safety and refinement arguments
use: an invariant preserved by every step holds along a whole run (`Run.invariant`); a run that
leaves a region `A`, from which a single step can only stay in `A` or enter `B`, passes through `B`
on its way out (`Run.passes_through`); and a loop of a function whose every turn is a step seen
through an abstraction is a run of the steps (`Run.of_foldl`). Nothing here is specific to one
program.
-/

namespace LogDevice.Lib

variable {σ α : Type _}

/-- A finite run of `step` from `s` to `s'`, labelled by `as`. -/
inductive Run (step : σ → α → σ → Prop) : σ → List α → σ → Prop where
  | nil (s : σ) : Run step s [] s
  | cons {s s' s'' : σ} {a : α} {as : List α} :
    step s a s' → Run step s' as s'' → Run step s (a :: as) s''

namespace Run

variable {step : σ → α → σ → Prop}

/-- A run of one step. -/
lemma single {s s' : σ} {a : α} (h : step s a s') : Run step s [a] s' :=
  .cons h (.nil s')

/-- Runs compose. -/
lemma append {s s' s'' : σ} {as bs : List α} (h₁ : Run step s as s') (h₂ : Run step s' bs s'') :
    Run step s (as ++ bs) s'' := by
  induction h₁ with
  | nil => exact h₂
  | cons hstep _ ih => exact .cons hstep (ih h₂)

/-- A run ending with one more step. -/
lemma snoc {s s' s'' : σ} {as : List α} {a : α} (h₁ : Run step s as s') (h₂ : step s' a s'') :
    Run step s (as ++ [a]) s'' :=
  h₁.append (single h₂)

/-- An invariant that every step preserves holds at the end of every run that starts in it. -/
lemma invariant (inv : σ → Prop) (hstep : ∀ s a s', inv s → step s a s' → inv s')
    {s s' : σ} {as : List α} (h : Run step s as s') (hs : inv s) : inv s' := by
  induction h with
  | nil => exact hs
  | cons hst _ ih => exact ih (hstep _ _ _ hs hst)

/-- A run that starts in `A` and ends outside it passes through `B`, when a single step from `A`
can only stay in `A` or enter `B`: some non-empty prefix of the run ends in `B`. -/
lemma passes_through (A B : σ → Prop) (hstep : ∀ s a s', A s → step s a s' → A s' ∨ B s')
    {s s' : σ} {as : List α} (h : Run step s as s') (hs : A s) (hs' : ¬ A s') :
    ∃ as₁ as₂ m, as = as₁ ++ as₂ ∧ as₁ ≠ [] ∧ Run step s as₁ m ∧ Run step m as₂ s' ∧ B m := by
  induction h with
  | nil => exact absurd hs hs'
  | @cons s₀ s₁ s₂ a as hst hrest ih =>
    rcases hstep _ _ _ hs hst with hA | hB
    · obtain ⟨as₁, as₂, m, rfl, hne, h₁, h₂, hm⟩ := ih hA hs'
      exact ⟨a :: as₁, as₂, m, rfl, List.cons_ne_nil _ _, .cons hst h₁, h₂, hm⟩
    · exact ⟨[a], as, s₁, rfl, List.cons_ne_nil _ _, single hst, hrest, hB⟩

/-- A loop whose every turn, from a state meeting `inv`, is a step of `step` seen through `abs`, is
a run of `step` seen through `abs`: a refinement of `step` by the loop. -/
lemma of_foldl {τ : Type _} (f : τ → α → τ) (abs : τ → σ) (inv : τ → Prop)
    (hinv : ∀ t a, inv t → inv (f t a)) (hstep : ∀ t a, inv t → step (abs t) a (abs (f t a))) :
    ∀ (as : List α) {t : τ}, inv t → Run step (abs t) as (abs (as.foldl f t))
  | [], _, _ => .nil _
  | a :: as, t, ht => .cons (hstep t a ht) (of_foldl f abs inv hinv hstep as (hinv t a ht))

end Run

end LogDevice.Lib
