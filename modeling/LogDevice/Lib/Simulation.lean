import Mathlib

/-!
# Objects that answer calls, and simulations between them

An object with an interface of calls is a function `step : γ → σ → ρ × σ`: a call made in a state
gives a reply and the next state. `answer step cs s` is what it replies to the calls `cs` made one
after another from `s`, with the state it ends in, and `Allowed step pre cs s` says that every call
of `cs` meets its precondition `pre` in the state the object is in when the call is made.

A relation `R` between the states of two objects is a simulation for `pre` when, from related
states, a call that the second object allows gets related replies from the two and leads to
related states. The two objects then give related replies to every allowed sequence of calls
(`answer_forall₂`), by induction on the sequence. Nothing here is specific to one program.
-/

namespace LogDevice.Lib

variable {γ σ τ ρ ρ' : Type _}

/-- The replies of `step` to the calls `cs` made in turn from `s`, and the state after the last. -/
def answer (step : γ → σ → ρ × σ) : List γ → σ → List ρ × σ
  | [], s => ([], s)
  | c :: cs, s =>
    let rest := answer step cs (step c s).2
    ((step c s).1 :: rest.1, rest.2)

/-- Every call of `cs` meets `pre` in the state `step` is in when the call is made. -/
def Allowed (step : γ → σ → ρ × σ) (pre : σ → γ → Prop) : List γ → σ → Prop
  | [], _ => True
  | c :: cs, s => pre s c ∧ Allowed step pre cs (step c s).2

section

variable {step₁ : γ → σ → ρ × σ} {step₂ : γ → τ → ρ' × τ} {pre : τ → γ → Prop}

/-- A simulation gives related replies to every allowed sequence of calls, and related states
after it. -/
theorem answer_forall₂ (R : σ → τ → Prop) (agree : ρ → ρ' → Prop)
    (hstep : ∀ c s t, R s t → pre t c →
      agree (step₁ c s).1 (step₂ c t).1 ∧ R (step₁ c s).2 (step₂ c t).2)
    {cs : List γ} {s : σ} {t : τ} (hR : R s t) (hcs : Allowed step₂ pre cs t) :
    List.Forall₂ agree (answer step₁ cs s).1 (answer step₂ cs t).1 ∧
      R (answer step₁ cs s).2 (answer step₂ cs t).2 := by
  induction cs generalizing s t with
  | nil => exact ⟨.nil, hR⟩
  | cons c cs ih =>
    obtain ⟨hpre, hrest⟩ := hcs
    obtain ⟨hreply, hR'⟩ := hstep c s t hR hpre
    obtain ⟨hreplies, hend⟩ := ih hR' hrest
    exact ⟨.cons hreply hreplies, hend⟩

end

end LogDevice.Lib
