import Mathlib

/-!
# Visiting positions in turn

A loop that visits the positions `n₁, n₂, …` of a state `V : κ → S`, gives each position's value
to a callback, stores back the value the callback returns and stops after the first callback that
returns `false`, is `visit cb ns V`: the (position, value) pairs the callback was given, in order,
and the state after the loop.

The loop changes the state only at the positions it visits (`visit_snd_of_not_mem`), and a change
at a position it does not visit is carried through it (`visit_update_of_not_mem`).
`visit_filter` compares the loop over `ns` with the loop over the positions of `ns` where `p`
holds, up to a relation `r` on values: at the positions the second loop skips the value is related
to a blank one, and there the callback goes on and leaves a value related to that blank, which
`marked` rejects. Then the calls on marked values are the same and the states stay related.
Nothing here is specific to one program.
-/

namespace LogDevice.Lib

variable {κ S : Type _} [DecidableEq κ]

/-- Visit the positions `ns` of `V` in turn with `cb`, up to the first `false` it returns. -/
def visit (cb : κ → S → Bool × S) : List κ → (κ → S) → List (κ × S) × (κ → S)
  | [], V => ([], V)
  | n :: ns, V =>
    let r := cb n (V n)
    if r.1 then
      let rest := visit cb ns (Function.update V n r.2)
      ((n, V n) :: rest.1, rest.2)
    else ([(n, V n)], Function.update V n r.2)

section

variable {cb : κ → S → Bool × S}

@[simp] lemma visit_nil (V : κ → S) : visit cb [] V = ([], V) := rfl

lemma visit_cons_of_continue {n : κ} {ns : List κ} {V : κ → S} (h : (cb n (V n)).1 = true) :
    visit cb (n :: ns) V =
      ((n, V n) :: (visit cb ns (Function.update V n (cb n (V n)).2)).1,
        (visit cb ns (Function.update V n (cb n (V n)).2)).2) := by
  simp [visit, h]

lemma visit_cons_of_stop {n : κ} {ns : List κ} {V : κ → S} (h : (cb n (V n)).1 = false) :
    visit cb (n :: ns) V = ([(n, V n)], Function.update V n (cb n (V n)).2) := by
  simp [visit, h]

/-- The loop leaves the positions it does not visit as they were. -/
lemma visit_snd_of_not_mem {n : κ} {ns : List κ} (hn : n ∉ ns) (V : κ → S) :
    (visit cb ns V).2 n = V n := by
  induction ns generalizing V with
  | nil => rfl
  | cons m ns ih =>
    have hm : n ≠ m := fun h => hn (h ▸ List.mem_cons_self)
    have hns : n ∉ ns := fun h => hn (List.mem_cons_of_mem m h)
    by_cases hcont : (cb m (V m)).1 = true
    · rw [visit_cons_of_continue hcont, ih hns, Function.update_of_ne hm]
    · rw [visit_cons_of_stop (Bool.eq_false_iff.mpr hcont)]
      exact Function.update_of_ne hm _ _

/-- A change at a position the loop does not visit is carried through it. -/
lemma visit_update_of_not_mem {n : κ} {ns : List κ} (hn : n ∉ ns) (V : κ → S) (x : S) :
    visit cb ns (Function.update V n x) =
      ((visit cb ns V).1, Function.update (visit cb ns V).2 n x) := by
  induction ns generalizing V with
  | nil => rfl
  | cons m ns ih =>
    have hm : m ≠ n := fun h => hn (h ▸ List.mem_cons_self)
    have hns : n ∉ ns := fun h => hn (List.mem_cons_of_mem m h)
    have hVm : Function.update V n x m = V m := Function.update_of_ne hm _ _
    have hswap : Function.update (Function.update V n x) m (cb m (V m)).2 =
        Function.update (Function.update V m (cb m (V m)).2) n x :=
      Function.update_comm (Ne.symm hm) _ _ _
    by_cases hcont : (cb m (V m)).1 = true
    · rw [visit_cons_of_continue (hVm ▸ hcont), visit_cons_of_continue hcont, hVm, hswap, ih hns]
    · have hstop := Bool.eq_false_iff.mpr hcont
      rw [visit_cons_of_stop (hVm ▸ hstop), visit_cons_of_stop hstop, hVm, hswap]

end

section Filter

variable {cb : κ → S → Bool × S} (r : S → S → Prop) (marked : S → Bool) (blank : S → Prop)

/-- Visiting `ns`, and visiting only the positions of `ns` where `p` holds, agree up to `r`: the
calls on marked values pair up, and the states stay related everywhere. -/
theorem visit_filter
    (hcb : ∀ n s t, r s t → (cb n s).1 = (cb n t).1 ∧ r (cb n s).2 (cb n t).2)
    (hskip : ∀ n s b, blank b → r s b → (cb n s).1 = true ∧ r (cb n s).2 b)
    (hmarked : ∀ s t, r s t → marked s = marked t)
    (hunmarked : ∀ s b, blank b → r s b → marked s = false)
    (p : κ → Bool) (ns : List κ) (V W : κ → S) (hVW : ∀ n, r (V n) (W n))
    (hblank : ∀ n ∈ ns, p n = false → blank (W n)) :
    List.Forall₂ (fun a b => a.1 = b.1 ∧ r a.2 b.2)
        ((visit cb ns V).1.filter (marked ·.2)) ((visit cb (ns.filter p) W).1.filter (marked ·.2)) ∧
      ∀ n, r ((visit cb ns V).2 n) ((visit cb (ns.filter p) W).2 n) := by
  induction ns generalizing V W with
  | nil => exact ⟨by simp, hVW⟩
  | cons m ns ih =>
    have hrest : ∀ n ∈ ns, p n = false → blank (W n) := fun n hn => hblank n (.tail m hn)
    by_cases hp : p m = true
    · -- both loops visit `m`, on related values
      rw [List.filter_cons_of_pos hp]
      obtain ⟨hcont, hval⟩ := hcb m (V m) (W m) (hVW m)
      have hVW' : ∀ n, r (Function.update V m (cb m (V m)).2 n)
          (Function.update W m (cb m (W m)).2 n) := by
        intro n
        by_cases hn : n = m
        · subst hn
          simpa only [Function.update_self] using hval
        · simpa only [Function.update_of_ne hn] using hVW n
      by_cases hgo : (cb m (V m)).1 = true
      · rw [visit_cons_of_continue hgo, visit_cons_of_continue (hcont ▸ hgo)]
        -- a position the second loop skips is not `m`, so the update leaves it blank
        have hblank' : ∀ n ∈ ns, p n = false → blank (Function.update W m (cb m (W m)).2 n) := by
          intro n hn hpn
          have hne : n ≠ m := fun h => absurd (h ▸ hpn) (by simp [hp])
          rw [Function.update_of_ne hne]
          exact hrest n hn hpn
        obtain ⟨hcalls, hstate⟩ := ih _ _ hVW' hblank'
        refine ⟨?_, hstate⟩
        have hmk := hmarked (V m) (W m) (hVW m)
        by_cases hm : marked (V m) = true
        · have hw : marked (W m) = true := hmk ▸ hm
          simp only [List.filter_cons, hm, hw, if_true]
          exact .cons ⟨rfl, hVW m⟩ hcalls
        · have hw : marked (W m) = false := by rw [← hmk]; simpa using hm
          simp only [List.filter_cons, hm, hw]
          exact hcalls
      · have hstop := Bool.eq_false_iff.mpr hgo
        rw [visit_cons_of_stop hstop, visit_cons_of_stop (hcont ▸ hstop)]
        refine ⟨?_, hVW'⟩
        have hmk := hmarked (V m) (W m) (hVW m)
        by_cases hm : marked (V m) = true
        · have hw : marked (W m) = true := hmk ▸ hm
          simp only [List.filter_cons, hm, hw, if_true, List.filter_nil]
          exact .cons ⟨rfl, hVW m⟩ .nil
        · have hw : marked (W m) = false := by rw [← hmk]; simpa using hm
          simp only [List.filter_cons, hm, hw, List.filter_nil]
          exact .nil
    · -- only the first loop visits `m`: its value is blank, the callback goes on
      have hpm : p m = false := Bool.eq_false_iff.mpr hp
      rw [List.filter_cons_of_neg hp]
      have hb := hblank m List.mem_cons_self hpm
      obtain ⟨hgo, hval⟩ := hskip m (V m) (W m) hb (hVW m)
      have hm : marked (V m) = false := hunmarked _ _ hb (hVW m)
      rw [visit_cons_of_continue hgo]
      simp only [List.filter_cons, hm]
      refine ih _ _ (fun n => ?_) hrest
      by_cases hn : n = m
      · subst hn
        simpa only [Function.update_self] using hval
      · simpa only [Function.update_of_ne hn] using hVW n

end Filter

end LogDevice.Lib
