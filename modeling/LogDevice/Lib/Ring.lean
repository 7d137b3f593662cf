import Mathlib

/-!
# Positions of a circular array

A circular array of `n` slots read from a start slot `t`: the slot at offset `j` is
`buf ((t + j) % n)`. `RingLaid buf n t f` says that the slot at every offset `j < n` holds `f j`.
Writing one slot changes `f` at one offset (`RingLaid.update`), and moving the start one slot on
shifts every offset by one, the old first slot becoming the last (`RingLaid.rotate`). The offsets
below `n` reach every slot once (`add_mod_inj`, `exists_add_mod_eq`). A loop that
steps through the array as `if idx < n - 1 then idx + 1 else 0` moves to the next slot
(`ite_succ_eq_mod`), and rotating by `d` moves the slots at or past `d` down by `d`
(`eq_add_of_add_mod_eq`). Nothing here is specific to one program.
-/

namespace LogDevice.Lib

variable {β : Type _}

/-- Distinct offsets below `n` from one start are distinct slots. -/
lemma add_mod_inj {n t i j : Nat} (hi : i < n) (hj : j < n) (h : (t + i) % n = (t + j) % n) :
    i = j := by
  rcases Nat.lt_trichotomy i j with hij | hij | hij
  · -- `n` would divide `j - i`, which is below `n`
    have hd : n ∣ (t + j) - (t + i) := Nat.dvd_of_mod_eq_zero (Nat.sub_mod_eq_zero_of_mod_eq h.symm)
    have h0 : (t + j) - (t + i) = 0 := Nat.eq_zero_of_dvd_of_lt hd (by omega)
    omega
  · exact hij
  · have hd : n ∣ (t + i) - (t + j) := Nat.dvd_of_mod_eq_zero (Nat.sub_mod_eq_zero_of_mod_eq h)
    have h0 : (t + i) - (t + j) = 0 := Nat.eq_zero_of_dvd_of_lt hd (by omega)
    omega

/-- Every slot is at some offset below `n` from a start slot. -/
lemma exists_add_mod_eq {n t x : Nat} (ht : t < n) (hx : x < n) : ∃ j < n, (t + j) % n = x := by
  refine ⟨(x + (n - t)) % n, Nat.mod_lt _ (by omega), ?_⟩
  -- the offset is `x - t` around the ring
  rw [Nat.add_mod_mod, show t + (x + (n - t)) = x + n by omega, Nat.add_mod_right,
    Nat.mod_eq_of_lt hx]

/-- Stepping to the next slot of a circular array, with the wrap at the end written out. -/
lemma ite_succ_eq_mod {n idx : Nat} (h : idx < n) :
    (if idx < n - 1 then idx + 1 else 0) = (idx + 1) % n := by
  split_ifs with hlt
  · exact (Nat.mod_eq_of_lt (by omega)).symm
  · rw [show idx + 1 = n by omega, Nat.mod_self]

/-- Rotating by `d`: an offset `j < n` lands on a slot `k` at or past `d` only without wrapping. -/
lemma eq_add_of_add_mod_eq {n j d k : Nat} (hj : j < n) (hk : k < n) (hdk : d ≤ k)
    (h : (j + d) % n = k) : k = j + d := by
  by_cases hlt : j + d < n
  · rwa [Nat.mod_eq_of_lt hlt, eq_comm] at h
  · -- the offset wraps once, to below `d`
    rw [Nat.mod_eq_sub_mod (by omega), Nat.mod_eq_of_lt (by omega)] at h
    omega

/-- The slot at every offset `j < n` from the start `t` holds `f j`. -/
structure RingLaid (buf : Nat → β) (n t : Nat) (f : Nat → β) : Prop where
  start_lt : t < n
  get : ∀ j < n, buf ((t + j) % n) = f j

namespace RingLaid

variable {buf : Nat → β} {n t : Nat} {f : Nat → β}

lemma congr (h : RingLaid buf n t f) {g : Nat → β} (hfg : ∀ j < n, f j = g j) :
    RingLaid buf n t g :=
  ⟨h.start_lt, fun j hj => (h.get j hj).trans (hfg j hj)⟩

/-- The start slot holds the offset `0`. -/
lemma get_start (h : RingLaid buf n t f) : buf t = f 0 := by
  have h0 := h.get 0 (by have := h.start_lt; omega)
  rwa [Nat.add_zero, Nat.mod_eq_of_lt h.start_lt] at h0

/-- Writing the slot at one offset changes what is laid out at that offset only. -/
lemma update (h : RingLaid buf n t f) {j : Nat} (hj : j < n) (b : β) :
    RingLaid (Function.update buf ((t + j) % n) b) n t (Function.update f j b) := by
  refine ⟨h.start_lt, fun i hi => ?_⟩
  by_cases hij : i = j
  · subst hij
    rw [Function.update_self, Function.update_self]
  · have hne : (t + i) % n ≠ (t + j) % n := fun he => hij (add_mod_inj hi hj he)
    rw [Function.update_of_ne hne, Function.update_of_ne hij, h.get i hi]

/-- A ring of one value everywhere but its start slot. -/
lemma single (ht : t < n) (b₀ b : β) :
    RingLaid (Function.update (fun _ => b₀) t b) n t (Function.update (fun _ => b₀) 0 b) := by
  have h := (RingLaid.mk ht fun _ _ => rfl : RingLaid (fun _ => b₀) n t fun _ => b₀).update
    (j := 0) (by omega) b
  rwa [Nat.add_zero, Nat.mod_eq_of_lt ht] at h

/-- Read from the next slot on, the offsets move by one and the first slot comes last. -/
lemma rotate (h : RingLaid buf n t f) : RingLaid buf n ((t + 1) % n) fun j => f ((j + 1) % n) := by
  have hn : 0 < n := by have := h.start_lt; omega
  refine ⟨Nat.mod_lt _ hn, fun j _ => ?_⟩
  have hpos : ((t + 1) % n + j) % n = (t + (j + 1) % n) % n := by
    rw [Nat.add_mod_mod, Nat.add_mod, Nat.mod_mod, ← Nat.add_mod, Nat.add_right_comm,
      Nat.add_assoc]
  rw [hpos, h.get _ (Nat.mod_lt _ hn)]

end RingLaid

end LogDevice.Lib
