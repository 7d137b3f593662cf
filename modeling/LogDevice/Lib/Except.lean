import Mathlib

/-!
# Inversion of `Except` computations

A `do` block in `Except ε` succeeds exactly when each of its steps succeeds. The lemmas here peel
a successful or failed bind apart, so that a proof about a fallible function never unfolds the
monad by hand, and give the rules of `Spec`, the pre- and postconditions of a fallible
computation, by which a `do` block is specified step by step. Nothing here is specific to one
program.
-/

namespace Except

variable {ε α β : Type _}

/-- A bind succeeds iff its first step succeeds and the continuation succeeds on its result. -/
lemma bind_eq_ok_iff {x : Except ε α} {f : α → Except ε β} {b : β} :
    x >>= f = .ok b ↔ ∃ a, x = .ok a ∧ f a = .ok b := by
  cases x with
  | error e => simp [bind, Except.bind]
  | ok a => simp [bind, Except.bind]

/-- A bind fails iff its first step fails, or the continuation fails on its result. -/
lemma bind_eq_error_iff {x : Except ε α} {f : α → Except ε β} {e : ε} :
    x >>= f = .error e ↔ x = .error e ∨ ∃ a, x = .ok a ∧ f a = .error e := by
  cases x with
  | error e' => simp [bind, Except.bind]
  | ok a => simp [bind, Except.bind]

@[simp] lemma bind_ok' {a : α} {f : α → Except ε β} : (Except.ok a >>= f) = f a := rfl

@[simp] lemma bind_error' {e : ε} {f : α → Except ε β} :
    (Except.error e >>= f) = Except.error e := rfl

@[simp] lemma pure_eq_ok {a : α} : (pure a : Except ε α) = .ok a := rfl

/-! ### Specifications of fallible computations

`Spec P Q x`: every failure of `x` satisfies `P` and every result satisfies `Q`, the postcondition
of a computation that may throw. A `do` block meets a specification when each step meets one whose
postcondition is the next step's precondition (`Spec.bind`). -/

/-- Every failure of `x` satisfies `P`, every result `Q`. -/
def Spec (P : ε → Prop) (Q : α → Prop) (x : Except ε α) : Prop :=
  (∀ e, x = .error e → P e) ∧ ∀ a, x = .ok a → Q a

namespace Spec

variable {P P' : ε → Prop} {Q Q' : α → Prop}

lemma ok {a : α} (h : Q a) : Spec P Q (.ok a) := by
  refine ⟨fun _ he => ?_, fun _ ha => ?_⟩
  · cases he
  · cases ha
    exact h

lemma pure {a : α} (h : Q a) : Spec P Q (Pure.pure a) := ok h

lemma error {e : ε} (h : P e) : Spec P Q (.error e) := by
  refine ⟨fun _ he => ?_, fun _ ha => ?_⟩
  · cases he
    exact h
  · cases ha

lemma throw {e : ε} (h : P e) : Spec P Q (MonadExcept.throw e) := error h

/-- The rule of a bind: the first step's postcondition is the continuation's precondition. -/
lemma bind {R : α → Prop} {x : Except ε α} {f : α → Except ε β} {Q : β → Prop}
    (hx : Spec P R x) (hf : ∀ a, R a → Spec P Q (f a)) : Spec P Q (x >>= f) := by
  cases hx' : x with
  | error e =>
    rw [hx'] at hx
    exact error (hx.1 e rfl)
  | ok a =>
    rw [hx'] at hx
    exact hf a (hx.2 a rfl)

/-- The rule of a map: the postcondition holds of the mapped result. -/
lemma map {R : α → Prop} {x : Except ε α} {f : α → β} {Q : β → Prop}
    (hx : Spec P R x) (hf : ∀ a, R a → Q (f a)) : Spec P Q (x.map f) := by
  cases hx' : x with
  | error e =>
    rw [hx'] at hx
    exact error (hx.1 e rfl)
  | ok a =>
    rw [hx'] at hx
    exact ok (hf a (hx.2 a rfl))

/-- Weakening: a specification implies every weaker one. -/
lemma mono {x : Except ε α} (h : Spec P Q x) (hP : ∀ e, P e → P' e) (hQ : ∀ a, Q a → Q' a) :
    Spec P' Q' x :=
  ⟨fun e he => hP e (h.1 e he), fun a ha => hQ a (h.2 a ha)⟩

end Spec

end Except
