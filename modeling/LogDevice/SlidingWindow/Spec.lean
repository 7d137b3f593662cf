import LogDevice.Lsn

/-!
# What a sliding window is for

A sliding window grants LSNs to its elements at its right edge, lets its client retire the
elements in any order, and hands them to the deleter from its left edge, in the order they were
granted, each once every earlier one is retired. This module says that without the circular array
of `SlidingWindowSingleEpoch.h` and `SlidingWindow.h`. `History` is what a client has seen: the LSNs
and elements granted, the LSNs it retired and the elements reaped. `Tracks h q` says that `q` is what
the window still holds: the granted elements after the reaped ones, each marked retired exactly when
its LSN was, the first of them not retired.

Granting an element with a new LSN keeps it (`Tracks.grant`), and so does retiring an element the
window holds: the first one, which reaps it and every retired one after it (`Tracks.retire_head`),
or a later one, which only marks it (`Tracks.retire_later`). From it, the reaped elements are the
longest prefix of the granted ones that are all retired (`Tracks.reaped_eq`), and the window holds
as many elements as were granted and not reaped (`Tracks.length_eq`).
-/

namespace LogDevice.SlidingWindow

variable {α : Type}

/-- An element held by a window: its LSN, the element, and whether it was retired. -/
structure Entry (α : Type) where
  lsn : Lsn
  elem : α
  retired : Bool

/-- The LSN and the element of an entry, as they were granted. -/
def Entry.granted (x : Entry α) : Lsn × α := (x.lsn, x.elem)

/-- What a client of a window has seen: the LSNs and elements granted, in order; the LSNs it
retired; the elements the deleter was called on, in order. -/
structure History (α : Type) where
  granted : List (Lsn × α) := []
  retired : List Lsn := []
  reaped : List α := []

/-- The history after a `grow` of `e` that answered `res`: on success, the LSN granted joins it. -/
def History.recordGrow (h : History α) (e : α) : Except E Lsn → History α
  | .ok r => { h with granted := h.granted ++ [(r, e)] }
  | .error _ => h

@[simp] lemma History.recordGrow_ok (h : History α) (e : α) (r : Lsn) :
    h.recordGrow e (.ok r) = { h with granted := h.granted ++ [(r, e)] } := rfl

@[simp] lemma History.recordGrow_error (h : History α) (e : α) (err : E) :
    h.recordGrow e (.error err) = h := rfl

/-- The history after a `retire` of `at_` that passed `reaped` to the deleter. -/
def History.recordRetire (h : History α) (at_ : Lsn) (reaped : List α) : History α :=
  { h with retired := at_ :: h.retired, reaped := h.reaped ++ reaped }

@[simp] lemma History.recordRetire_nil (h : History α) (at_ : Lsn) :
    h.recordRetire at_ [] = { h with retired := at_ :: h.retired } := by
  rw [History.recordRetire, List.append_nil]

/-- The window holds `q`: the granted elements after the reaped ones, which are all retired; each
entry of `q` is marked retired exactly when its LSN was retired, and the first is not. -/
structure Tracks (h : History α) (q : List (Entry α)) : Prop where
  split : ∃ P, h.granted = P ++ q.map Entry.granted ∧ h.reaped = P.map Prod.snd ∧
    ∀ p ∈ P, p.1 ∈ h.retired
  nodup : (h.granted.map Prod.fst).Nodup
  retired_granted : ∀ l ∈ h.retired, l ∈ h.granted.map Prod.fst
  retired_iff : ∀ x ∈ q, x.retired = true ↔ x.lsn ∈ h.retired
  head : ∀ x ∈ q.head?, x.retired = false

namespace Tracks

variable {h : History α} {q : List (Entry α)}

lemma empty : Tracks ({} : History α) [] where
  split := ⟨[], rfl, rfl, fun _ h => by cases h⟩
  nodup := List.nodup_nil
  retired_granted _ h := by cases h
  retired_iff _ h := by cases h
  head _ h := by cases h

/-- The LSNs the window holds are distinct. -/
lemma nodup_lsn (ht : Tracks h q) : (q.map Entry.lsn).Nodup := by
  obtain ⟨P, hP, -, -⟩ := ht.split
  have hn := ht.nodup
  rw [hP, List.map_append, List.map_map] at hn
  exact (List.nodup_append.mp hn).2.1

lemma mem_granted (ht : Tracks h q) {x : Entry α} (hx : x ∈ q) :
    x.lsn ∈ h.granted.map Prod.fst := by
  obtain ⟨P, hP, -, -⟩ := ht.split
  rw [hP, List.map_append, List.map_map]
  exact List.mem_append_right _ (List.mem_map_of_mem hx)

/-- A new LSN joins the window at its right edge, not retired. -/
lemma grant (ht : Tracks h q) {r : Lsn} (hr : r ∉ h.granted.map Prod.fst) (e : α) :
    Tracks { h with granted := h.granted ++ [(r, e)] } (q ++ [⟨r, e, false⟩]) := by
  obtain ⟨P, hP, hD, hPr⟩ := ht.split
  refine ⟨⟨P, ?_, hD, hPr⟩, ?_, fun l hl => ?_, fun x hx => ?_, fun x hx => ?_⟩
  · rw [hP, List.map_append, List.append_assoc]
    rfl
  · rw [List.map_append, List.nodup_append]
    refine ⟨ht.nodup, List.nodup_singleton r, fun a ha b hb hab => ?_⟩
    simp only [List.map_cons, List.map_nil, List.mem_singleton] at hb
    exact hr (by rw [← hb, ← hab]; exact ha)
  · rw [List.map_append]
    exact List.mem_append_left _ (ht.retired_granted l hl)
  · rcases List.mem_append.mp hx with hx | hx
    · exact ht.retired_iff x hx
    · -- the new LSN was never granted, so never retired
      rw [List.mem_singleton.mp hx]
      exact ⟨fun h => (by cases h), fun hm => absurd (ht.retired_granted r hm) hr⟩
  · cases q with
    | nil =>
      rw [List.nil_append, List.head?_singleton, Option.mem_some_iff] at hx
      rw [← hx]
    | cons y q => exact ht.head x hx

/-- A granted LSN that is not retired is held by the window, not yet marked. -/
lemma exists_of_retire (ht : Tracks h q) {l : Lsn} (hg : l ∈ h.granted.map Prod.fst)
    (hr : l ∉ h.retired) : ∃ j, ∃ hj : j < q.length, q[j].lsn = l ∧ q[j].retired = false := by
  obtain ⟨P, hP, -, hPr⟩ := ht.split
  rw [hP, List.map_append, List.map_map, List.mem_append] at hg
  rcases hg with hg | hg
  · -- the reaped elements are all retired
    obtain ⟨p, hp, rfl⟩ := List.mem_map.mp hg
    exact absurd (hPr p hp) hr
  · obtain ⟨x, hx, rfl⟩ := List.mem_map.mp hg
    obtain ⟨j, hj, rfl⟩ := List.mem_iff_getElem.mp hx
    refine ⟨j, hj, rfl, ?_⟩
    exact Bool.eq_false_iff.mpr fun hret => hr ((ht.retired_iff _ hx).mp hret)

/-- Retiring an entry after the first only marks it. -/
lemma retire_later (ht : Tracks h q) {j : Nat} (hj : j < q.length) (hj0 : 0 < j)
    (hx : q[j].retired = false) :
    Tracks { h with retired := q[j].lsn :: h.retired } (q.set j { q[j] with retired := true }) := by
  obtain ⟨P, hP, hD, hPr⟩ := ht.split
  have hgr : (q.set j { q[j] with retired := true }).map Entry.granted = q.map Entry.granted := by
    refine List.ext_getElem (by simp) fun i h₁ h₂ => ?_
    rw [List.getElem_map, List.getElem_map, List.getElem_set]
    split_ifs with hji
    · subst hji
      rfl
    · rfl
  refine ⟨⟨P, ?_, hD, fun p hp => List.mem_cons_of_mem _ (hPr p hp)⟩, ht.nodup,
    fun l hl => ?_, fun y hy => ?_, fun y hy => ?_⟩
  · rw [hgr]
    exact hP
  · rcases List.mem_cons.mp hl with rfl | hl
    · exact ht.mem_granted (List.getElem_mem hj)
    · exact ht.retired_granted l hl
  · obtain ⟨i, hi, rfl⟩ := List.mem_iff_getElem.mp hy
    rw [List.length_set] at hi
    rw [List.getElem_set]
    split_ifs with hji
    · -- the entry retired now
      subst hji
      exact ⟨fun _ => List.mem_cons_self, fun _ => rfl⟩
    · -- another entry: its LSN is not the one retired now
      have hne : q[i].lsn ≠ q[j].lsn := by
        intro he
        have hj' : j < (q.map Entry.lsn).length := by simpa using hj
        have hi' : i < (q.map Entry.lsn).length := by simpa using hi
        have heq : (q.map Entry.lsn)[j] = (q.map Entry.lsn)[i] := by simpa using he.symm
        exact hji (ht.nodup_lsn.getElem_inj_iff.mp heq)
      rw [ht.retired_iff _ (List.getElem_mem hi), List.mem_cons, or_iff_right hne]
  · -- the first entry is not the one marked
    cases q with
    | nil => cases hj
    | cons z q =>
      cases j with
      | zero => cases hj0
      | succ j =>
        rw [List.set_cons_succ, List.head?_cons, Option.mem_some_iff] at hy
        rw [← hy]
        exact ht.head z rfl

/-- Retiring the first entry reaps it and every retired entry after it, in order. -/
lemma retire_head {x : Entry α} {rest : List (Entry α)} (ht : Tracks h (x :: rest)) :
    Tracks
      { h with
        retired := x.lsn :: h.retired
        reaped := h.reaped ++ x.elem :: (rest.takeWhile Entry.retired).map Entry.elem }
      (rest.dropWhile Entry.retired) := by
  obtain ⟨P, hP, hD, hPr⟩ := ht.split
  have hsplit := List.takeWhile_append_dropWhile (p := Entry.retired) (l := rest)
  -- the LSNs after the first are not the first's
  have hout : x.lsn ∉ rest.map Entry.lsn := by
    have hn := ht.nodup_lsn
    rw [List.map_cons, List.nodup_cons] at hn
    exact hn.1
  refine ⟨⟨P ++ x.granted :: (rest.takeWhile Entry.retired).map Entry.granted, ?_, ?_, ?_⟩,
    ht.nodup, fun l hl => ?_, fun y hy => ?_, fun y hy => ?_⟩
  · rw [hP, List.map_cons]
    nth_rewrite 1 [← hsplit]
    rw [List.map_append]
    simp only [List.append_assoc, List.cons_append]
  · rw [hD]
    simp [Function.comp_def, Entry.granted]
  · intro p hp
    rcases List.mem_append.mp hp with hp | hp
    · exact List.mem_cons_of_mem _ (hPr p hp)
    · rcases List.mem_cons.mp hp with rfl | hp
      · exact List.mem_cons_self
      · obtain ⟨y, hy, rfl⟩ := List.mem_map.mp hp
        have hr := List.mem_takeWhile_imp hy
        exact List.mem_cons_of_mem _ ((ht.retired_iff y
          (List.mem_cons_of_mem x ((List.takeWhile_prefix _).subset hy))).mp hr)
  · rcases List.mem_cons.mp hl with rfl | hl
    · exact ht.mem_granted List.mem_cons_self
    · exact ht.retired_granted l hl
  · have hy' : y ∈ rest := (List.dropWhile_suffix _).subset hy
    have hne : y.lsn ≠ x.lsn := fun he => hout (he ▸ List.mem_map_of_mem hy')
    rw [ht.retired_iff y (List.mem_cons_of_mem x hy'), List.mem_cons, or_iff_right hne]
  · have hnot := List.head?_dropWhile_not (fun y : Entry α => y.retired) rest
    rw [Option.mem_def] at hy
    rw [hy] at hnot
    exact hnot

/-- The reaped elements are those of the longest prefix of the granted ones that are all retired:
each is reaped once, in the order it was granted. -/
lemma reaped_eq (ht : Tracks h q) :
    h.reaped = (h.granted.takeWhile fun g => decide (g.1 ∈ h.retired)).map Prod.snd := by
  obtain ⟨P, hP, hD, hPr⟩ := ht.split
  rw [hP, List.takeWhile_append_of_pos fun p hp => decide_eq_true (hPr p hp), hD]
  -- the first entry the window holds is not retired, so the prefix stops there
  cases q with
  | nil => simp
  | cons x q =>
    have hx : x.lsn ∉ h.retired := fun hm =>
      absurd ((ht.retired_iff x List.mem_cons_self).mpr hm) (by rw [ht.head x rfl]; decide)
    have hx' : ¬ decide (x.granted.1 ∈ h.retired) = true := by
      rw [decide_eq_true_eq]
      exact hx
    rw [List.map_cons,
      List.takeWhile_cons_of_neg (p := fun g : Lsn × α => decide (g.1 ∈ h.retired)) hx',
      List.append_nil]

/-- The window holds the elements granted and not reaped. -/
lemma length_eq (ht : Tracks h q) : q.length = h.granted.length - h.reaped.length := by
  obtain ⟨P, hP, hD, -⟩ := ht.split
  rw [hP, hD, List.length_append, List.length_map, List.length_map]
  omega

end Tracks

end LogDevice.SlidingWindow
