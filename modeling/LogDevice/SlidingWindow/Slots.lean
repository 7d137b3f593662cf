import LogDevice.SlidingWindow.Spec
import LogDevice.Lib.Ring

/-!
# The circular array of a sliding window

Both windows of the source, `SlidingWindowSingleEpoch` and `SlidingWindow`, keep their elements in
a circular array of `capacity_` slots; the slot of an LSN is its sequence number modulo the
capacity (`index`). A slot is free, or holds an element pointer with two flags packed into its low
bits, RETIRED and TAIL (`Slot`). The two classes share `index`, `next_index`, `set_tail` and the
loop of `retire` (`retireLoop`): at a slot without the TAIL bit it sets RETIRED and stops; at the
tail slot it reaps the element, frees the slot, gives up its token and passes the TAIL bit to the
next slot, and goes on while that slot was retired.

`Laid capacity state size t q` says that the array holds the window `q` of `Spec` from the tail slot
`t` on: the entry at offset `j` in slot `(t + j) % capacity`, flagged as it is and with the TAIL bit
at offset `0`, every other slot free, `size_` the number of entries, and each entry in the slot of
its LSN. Placing an element at the right edge (`Laid.grow`), marking an entry retired
(`Laid.mark`) and the loop from the tail slot (`retireLoop_tail`) keep it, and move `q` the way
`Tracks` moves it.
-/

namespace LogDevice.SlidingWindow

open LogDevice.Lib

variable {α : Type}

/-- A slot of the circular array: the element pointer (`none` for the source's free slot, `0`),
and the RETIRED and TAIL flags the source keeps in the pointer's low bits. -/
structure Slot (α : Type) where
  elem : Option α := none
  retired : Bool := false
  tail : Bool := false

/-- `SLIDING_WINDOW_MIN_CAPACITY`, the smallest capacity either window takes. -/
def SLIDING_WINDOW_MIN_CAPACITY : Nat := 2

/-- `index`: the slot that can hold the element of an LSN. -/
def index (capacity : Nat) (lsn : Lsn) : Nat :=
  (lsn_to_esn lsn).toNat % capacity

@[simp] lemma index_compose_lsn (capacity : Nat) (epoch : Epoch) (esn : Esn) :
    index capacity (compose_lsn epoch esn) = esn.toNat % capacity := by
  rw [index, lsn_to_esn_compose_lsn]

/-- `next_index`. -/
def next_index (capacity idx : Nat) : Nat :=
  if idx < capacity - 1 then idx + 1 else 0

/-- `set_tail`: the TAIL flag on the slot, and whether the slot is retired. -/
def set_tail (state : Nat → Slot α) (idx : Nat) : (Nat → Slot α) × Bool :=
  (Function.update state idx { state idx with tail := true }, (state idx).retired)

/-- The loop of `retire`, from the slot `idx` whose value is `entry`, at most `fuel` times round:
the new slots, the new `size_`, and the elements passed to the deleter, in order. -/
def retireLoop (capacity : Nat) : Nat → (Nat → Slot α) → Nat → Nat → Slot α →
    (Nat → Slot α) × Nat × List α
  | 0, state, size, _, _ => (state, size, [])
  | fuel + 1, state, size, idx, entry =>
    if !entry.tail then
      -- not at the tail: mark it retired, and let the owner of the tail reap it later
      (Function.update state idx { entry with retired := true }, size, [])
    else
      -- at the tail: reap it, give up its slot and its token, and pass the tail on
      let state := Function.update state idx {}
      let size := size - 1
      let next_idx := next_index capacity idx
      let (state, next_slot_is_retired) := set_tail state next_idx
      if !next_slot_is_retired then (state, size, entry.elem.toList)
      else
        let (state, size, reaped) := retireLoop capacity fuel state size next_idx (state next_idx)
        (state, size, entry.elem.toList ++ reaped)

/-- At a slot without the TAIL flag the loop only marks it retired. -/
lemma retireLoop_of_not_tail {capacity fuel size idx : Nat} {state : Nat → Slot α}
    {entry : Slot α} (h : entry.tail = false) :
    retireLoop capacity (fuel + 1) state size idx entry =
      (Function.update state idx { entry with retired := true }, size, []) := by
  simp [retireLoop, h]

/-! ### The window in the array -/

/-- The slot of the entry at offset `j` from the tail: in use, retired as the entry is, with the
TAIL flag at offset `0`. -/
def Entry.slot (x : Entry α) (j : Nat) : Slot α :=
  { elem := some x.elem, retired := x.retired, tail := j == 0 }

/-- What the slot at offset `j` from the tail holds when the window holds `q`. -/
def layout (q : List (Entry α)) (j : Nat) : Slot α :=
  if h : j < q.length then q[j].slot j else { tail := j == 0 }

/-- An empty window: every slot free, the TAIL flag at offset `0`. -/
lemma layout_nil : layout ([] : List (Entry α)) = Function.update (fun _ => {}) 0 { tail := true } := by
  funext j
  unfold layout
  rw [dif_neg (show ¬ j < ([] : List (Entry α)).length from Nat.not_lt_zero j)]
  by_cases hj : j = 0
  · subst hj
    rfl
  · rw [Function.update_of_ne hj]
    simp [hj]

lemma layout_append (q : List (Entry α)) (x : Entry α) :
    layout (q ++ [x]) = Function.update (layout q) q.length (x.slot q.length) := by
  funext j
  unfold layout
  by_cases hj : j = q.length
  · subst hj
    simp
  · rw [Function.update_of_ne hj]
    by_cases hlt : j < q.length
    · rw [dif_pos (by simp only [List.length_append, List.length_singleton]; omega), dif_pos hlt,
        List.getElem_append_left hlt]
    · rw [dif_neg (by simp only [List.length_append, List.length_singleton]; omega), dif_neg hlt]

lemma layout_set (q : List (Entry α)) {j : Nat} (hj : j < q.length) (y : Entry α) :
    layout (q.set j y) = Function.update (layout q) j (y.slot j) := by
  funext i
  unfold layout
  by_cases hij : i = j
  · subst hij
    rw [Function.update_self, dif_pos (by simpa using hj), List.getElem_set_self]
  · rw [Function.update_of_ne hij]
    by_cases hi : i < q.length
    · rw [dif_pos (by simpa using hi), dif_pos hi, List.getElem_set_ne (Ne.symm hij)]
    · rw [dif_neg (by simpa using hi), dif_neg hi]

/-- Past the first entry, the offsets of the window move down by one. -/
lemma layout_cons_succ (x : Entry α) (rest : List (Entry α)) {j : Nat} (hj : j ≠ 0) :
    layout (x :: rest) (j + 1) = layout rest j := by
  unfold layout Entry.slot
  by_cases hlt : j < rest.length
  · rw [dif_pos (by simp only [List.length_cons]; omega), dif_pos hlt]
    simp [hj]
  · rw [dif_neg (by simp only [List.length_cons]; omega), dif_neg hlt]
    simp [hj]

/-- The slot after the first, given the TAIL flag, is the first slot of the rest. -/
lemma layout_cons_one (x : Entry α) (rest : List (Entry α)) :
    { layout (x :: rest) 1 with tail := true } = layout rest 0 := by
  cases rest <;> rfl

/-- The loop frees the tail slot and sets TAIL on the next: read from the next slot on, that is
the window without its first entry. -/
lemma layout_pop {x : Entry α} {rest : List (Entry α)} {n : Nat} (hn : 2 ≤ n)
    (hlen : (x :: rest).length ≤ n) {j : Nat} (hj : j < n) :
    Function.update (Function.update (layout (x :: rest)) 0 {}) 1
      { layout (x :: rest) 1 with tail := true } ((j + 1) % n) = layout rest j := by
  by_cases hwrap : j + 1 = n
  · -- the freed slot comes last, past the rest of the window
    have hfree : ¬ j < rest.length := by simp only [List.length_cons] at hlen; omega
    rw [hwrap, Nat.mod_self, Function.update_of_ne (by decide), Function.update_self]
    unfold layout
    rw [dif_neg hfree]
    simp only [show (j == 0) = false from by simp only [beq_eq_false_iff_ne]; omega]
  · rw [Nat.mod_eq_of_lt (by omega)]
    by_cases hj0 : j = 0
    · subst hj0
      rw [Function.update_self, layout_cons_one]
    · rw [Function.update_of_ne (by omega), Function.update_of_ne (by omega),
        layout_cons_succ x rest hj0]

/-- The slots hold the window `q` from the tail slot `t` on, `size_` counts its entries, and each
entry is in the slot of its LSN. -/
structure Laid (capacity : Nat) (state : Nat → Slot α) (size t : Nat) (q : List (Entry α)) :
    Prop where
  two_le : 2 ≤ capacity
  ring : RingLaid state capacity t (layout q)
  length_le : q.length ≤ capacity
  size_eq : size = q.length
  index_eq : ∀ j (hj : j < q.length), index capacity q[j].lsn = (t + j) % capacity

namespace Laid

variable {capacity size t : Nat} {state : Nat → Slot α} {q : List (Entry α)}

/-- `grow` puts the element in the free slot at the right edge. -/
lemma grow (hl : Laid capacity state size t q) (hq : q.length < capacity) {r : Lsn}
    (hr : index capacity r = (t + q.length) % capacity) (e : α) :
    Laid capacity
      (Function.update state (index capacity r) { state (index capacity r) with elem := some e })
      (size + 1) t (q ++ [⟨r, e, false⟩]) := by
  have hfree : state (index capacity r) = { tail := q.length == 0 } := by
    rw [hr, hl.ring.get _ hq]
    unfold layout
    rw [dif_neg (lt_irrefl _)]
  refine ⟨hl.two_le, ?_, ?_, ?_, fun j hj => ?_⟩
  · rw [hfree, hr, layout_append]
    exact hl.ring.update hq _
  · rw [List.length_append, List.length_singleton]
    exact hq
  · rw [hl.size_eq, List.length_append, List.length_singleton]
  · rw [List.length_append, List.length_singleton] at hj
    by_cases hjq : j < q.length
    · rw [List.getElem_append_left hjq]
      exact hl.index_eq j hjq
    · -- the new entry, at the right edge
      rw [List.getElem_append_right (by omega)]
      simp only [List.getElem_singleton]
      rw [hr, show j = q.length by omega]

/-- `retire` at a slot without the TAIL flag marks the entry retired. -/
lemma mark (hl : Laid capacity state size t q) {j : Nat} (hj : j < q.length) :
    Laid capacity
      (Function.update state ((t + j) % capacity)
        { state ((t + j) % capacity) with retired := true })
      size t (q.set j { q[j] with retired := true }) := by
  have hslot : state ((t + j) % capacity) = q[j].slot j := by
    rw [hl.ring.get j (by have := hl.length_le; omega)]
    unfold layout
    rw [dif_pos hj]
  refine ⟨hl.two_le, ?_, by rw [List.length_set]; exact hl.length_le,
    by rw [List.length_set]; exact hl.size_eq, fun i hi => ?_⟩
  · rw [hslot, layout_set q hj]
    exact hl.ring.update (by have := hl.length_le; omega) _
  · rw [List.length_set] at hi
    rw [List.getElem_set]
    split_ifs with hji
    · subst hji
      exact hl.index_eq _ hi
    · exact hl.index_eq i hi

/-- The slot of an entry after the first has no TAIL flag. -/
lemma tail_eq_false (hl : Laid capacity state size t q) {j : Nat} (hj : j < q.length)
    (hj0 : 0 < j) : (state ((t + j) % capacity)).tail = false := by
  rw [hl.ring.get j (by have := hl.length_le; omega)]
  unfold layout Entry.slot
  rw [dif_pos hj]
  simp only [beq_eq_false_iff_ne]
  omega

/-- The tail slot holds the first entry. -/
lemma get_tail {x : Entry α} {rest : List (Entry α)} (hl : Laid capacity state size t (x :: rest)) :
    state t = x.slot 0 := by
  rw [hl.ring.get_start]
  rfl

end Laid

/-- From the tail slot, the loop reaps the first entry and every retired entry after it, in
order, and leaves the rest of the window laid out from the slot after the last one reaped. -/
lemma retireLoop_tail {capacity : Nat} : ∀ (rest : List (Entry α)) (x : Entry α) (fuel size t : Nat)
    (state : Nat → Slot α), Laid capacity state size t (x :: rest) →
    (rest.takeWhile Entry.retired).length < fuel →
    ∃ state' size', retireLoop capacity fuel state size t (state t) =
        (state', size', x.elem :: (rest.takeWhile Entry.retired).map Entry.elem) ∧
      Laid capacity state' size' ((t + 1 + (rest.takeWhile Entry.retired).length) % capacity)
        (rest.dropWhile Entry.retired)
  | rest, x, 0, size, t, state, _, hfuel => absurd hfuel (Nat.not_lt_zero _)
  | rest, x, fuel + 1, size, t, state, hl, hfuel => by
    have hn := hl.two_le
    have ht := hl.ring.start_lt
    have hlen := hl.length_le
    -- one round: free the tail slot and put the TAIL flag on the next one
    have hnext : next_index capacity t = (t + 1) % capacity := ite_succ_eq_mod ht
    have h₁ : RingLaid (Function.update state t {}) capacity t
        (Function.update (layout (x :: rest)) 0 {}) := by
      have h := hl.ring.update (j := 0) (by omega) {}
      rwa [Nat.add_zero, Nat.mod_eq_of_lt ht] at h
    have hget₁ : Function.update state t {} ((t + 1) % capacity) = layout (x :: rest) 1 := by
      rw [h₁.get 1 (by omega), Function.update_of_ne (by decide)]
    have h₂ := (h₁.update (j := 1) (by omega) { layout (x :: rest) 1 with tail := true }).rotate
    have hl₂ : Laid capacity (set_tail (Function.update state t {}) ((t + 1) % capacity)).1
        (size - 1) ((t + 1) % capacity) rest := by
      refine ⟨hn, ?_, by simp only [List.length_cons] at hlen; omega,
        by rw [hl.size_eq, List.length_cons, Nat.add_sub_cancel], fun j hj => ?_⟩
      · unfold set_tail
        rw [hget₁]
        exact h₂.congr fun j hj => layout_pop hn hlen hj
      · have hidx := hl.index_eq (j + 1) (by simp only [List.length_cons]; omega)
        rw [List.getElem_cons_succ] at hidx
        rw [hidx, Nat.mod_add_mod, Nat.add_assoc, Nat.add_comm 1 j]
    have hretired : (set_tail (Function.update state t {}) ((t + 1) % capacity)).2 =
        (layout (x :: rest) 1).retired := by
      unfold set_tail
      rw [hget₁]
    have hround : retireLoop capacity (fuel + 1) state size t (state t) =
        if !(layout (x :: rest) 1).retired then
          ((set_tail (Function.update state t {}) ((t + 1) % capacity)).1, size - 1, [x.elem])
        else
          let r := retireLoop capacity fuel
            (set_tail (Function.update state t {}) ((t + 1) % capacity)).1 (size - 1)
            ((t + 1) % capacity)
            ((set_tail (Function.update state t {}) ((t + 1) % capacity)).1 ((t + 1) % capacity))
          (r.1, r.2.1, x.elem :: r.2.2) := by
      rw [hl.get_tail, retireLoop, ← hretired, hnext]
      simp only [Entry.slot, beq_self_eq_true, Bool.not_true, Bool.false_eq_true, if_false,
        Option.toList_some, List.singleton_append]
    rw [hround]
    cases rest with
    | nil =>
      -- the window is empty now: the next slot is free
      refine ⟨_, _, rfl, ?_⟩
      simpa using hl₂
    | cons y rest =>
      have hy : (layout (x :: y :: rest) 1).retired = y.retired := rfl
      rw [hy]
      cases hyr : y.retired with
      | false =>
        -- the next entry is not retired: the tail stops at it
        rw [List.takeWhile_cons_of_neg (by simp [hyr]), List.dropWhile_cons_of_neg (by simp [hyr])]
        exact ⟨_, _, rfl, by simpa using hl₂⟩
      | true =>
        -- the next entry is retired: the loop goes on from it
        rw [List.takeWhile_cons_of_pos (by simp [hyr]), List.dropWhile_cons_of_pos (by simp [hyr])]
        rw [List.takeWhile_cons_of_pos (p := Entry.retired) hyr, List.length_cons] at hfuel
        obtain ⟨state', size', hrun, hl'⟩ := retireLoop_tail rest y fuel (size - 1)
          ((t + 1) % capacity) _ hl₂ (by omega)
        refine ⟨state', size', ?_, ?_⟩
        · simp only [Bool.not_true, Bool.false_eq_true, if_false]
          rw [hrun]
          rfl
        · rw [List.length_cons]
          have hpos : ((t + 1) % capacity + 1 + (rest.takeWhile Entry.retired).length) % capacity =
              (t + 1 + ((rest.takeWhile Entry.retired).length + 1)) % capacity := by
            rw [Nat.add_assoc ((t + 1) % capacity), Nat.mod_add_mod]
            congr 1
            omega
          rwa [← hpos]

/-! ### The array refines the window of `Spec` -/

/-- The slots hold the window that the history `h` leaves, from some tail slot on, and the right
edge `next` maps to the slot after its last entry. -/
def Holds (capacity : Nat) (state : Nat → Slot α) (size : Nat) (next : Lsn) (h : History α) :
    Prop :=
  ∃ q t, Tracks h q ∧ Laid capacity state size t q ∧ (t + q.length) % capacity = index capacity next

namespace Holds

variable {capacity size : Nat} {state : Nat → Slot α} {next : Lsn} {h : History α}

/-- The array a constructor makes: every slot free, the TAIL flag on the slot of the first LSN. -/
lemma init (hc : 2 ≤ capacity) (next : Lsn) :
    Holds capacity (Function.update (fun _ => {}) (index capacity next) { tail := true }) 0 next
      ({} : History α) := by
  have ht : index capacity next < capacity := Nat.mod_lt _ (by omega)
  have hring := RingLaid.single ht ({} : Slot α) { tail := true }
  rw [← layout_nil] at hring
  refine ⟨[], index capacity next, Tracks.empty,
    ⟨hc, hring, Nat.zero_le _, rfl, fun j hj => absurd hj (Nat.not_lt_zero _)⟩, ?_⟩
  rw [List.length_nil, Nat.add_zero, Nat.mod_eq_of_lt ht]

lemma two_le (hh : Holds capacity state size next h) : 2 ≤ capacity := by
  obtain ⟨q, t, -, hl, -⟩ := hh
  exact hl.two_le

/-- `size_` counts the elements granted and not reaped. -/
lemma size_eq (hh : Holds capacity state size next h) :
    size = h.granted.length - h.reaped.length := by
  obtain ⟨q, t, ht, hl, -⟩ := hh
  rw [hl.size_eq, ht.length_eq]

lemma size_le (hh : Holds capacity state size next h) : size ≤ capacity := by
  obtain ⟨q, t, -, hl, -⟩ := hh
  rw [hl.size_eq]
  exact hl.length_le

lemma reaped_eq (hh : Holds capacity state size next h) :
    h.reaped = (h.granted.takeWhile fun g => decide (g.1 ∈ h.retired)).map Prod.snd := by
  obtain ⟨q, t, ht, -, -⟩ := hh
  exact ht.reaped_eq

lemma nodup (hh : Holds capacity state size next h) : (h.granted.map Prod.fst).Nodup := by
  obtain ⟨q, t, ht, -, -⟩ := hh
  exact ht.nodup

/-- Only the slot of the right edge matters. -/
lemma congr_next (hh : Holds capacity state size next h) {next' : Lsn}
    (hidx : index capacity next = index capacity next') : Holds capacity state size next' h := by
  obtain ⟨q, t, ht, hl, hnext⟩ := hh
  exact ⟨q, t, ht, hl, hnext.trans hidx⟩

/-- `grow` of `e` at the right edge `r`, while a slot is free: the slots hold the window with
`(r, e)` granted, and the right edge moves to `r'`, whose slot is the next one. -/
lemma grow (hh : Holds capacity state size r h) (hr : r ∉ h.granted.map Prod.fst)
    (hsize : size < capacity) {r' : Lsn}
    (hnext : index capacity r' = (index capacity r + 1) % capacity) (e : α) :
    Holds capacity
      (Function.update state (index capacity r) { state (index capacity r) with elem := some e })
      (size + 1) r' (h.recordGrow e (.ok r)) := by
  obtain ⟨q, t, ht, hl, hidx⟩ := hh
  rw [History.recordGrow_ok]
  refine ⟨q ++ [⟨r, e, false⟩], t, ht.grant hr e, hl.grow (hl.size_eq ▸ hsize) hidx.symm e, ?_⟩
  rw [List.length_append, List.length_singleton, hnext, ← hidx, Nat.mod_add_mod, Nat.add_assoc]

/-- `retire` of a granted LSN not retired yet: whether the loop reaps from the tail or only marks
the entry, the slots hold the window that the history with `at_` retired leaves. -/
lemma retire (hh : Holds capacity state size next h) {at_ : Lsn}
    (hg : at_ ∈ h.granted.map Prod.fst) (hr : at_ ∉ h.retired) {state' : Nat → Slot α}
    {size' : Nat} {reaped : List α}
    (hrun : retireLoop capacity capacity state size (index capacity at_)
      (state (index capacity at_)) = (state', size', reaped)) :
    Holds capacity state' size' next (h.recordRetire at_ reaped) := by
  obtain ⟨q, t, ht, hl, hidx⟩ := hh
  obtain ⟨j, hj, hlsn, hret⟩ := ht.exists_of_retire hg hr
  have hat : index capacity at_ = (t + j) % capacity := hlsn ▸ hl.index_eq j hj
  rw [hat] at hrun
  cases j with
  | zero =>
    -- the first entry: the loop reaps from the tail slot on
    obtain ⟨x, rest, rfl⟩ := List.exists_cons_of_length_pos hj
    have hfuel : (rest.takeWhile Entry.retired).length < capacity := by
      have hle := (List.takeWhile_sublist (Entry.retired) (l := rest)).length_le
      have := hl.length_le
      simp only [List.length_cons] at this
      omega
    rw [Nat.add_zero, Nat.mod_eq_of_lt hl.ring.start_lt] at hrun
    obtain ⟨state'', size'', hrun', hl'⟩ := retireLoop_tail rest x capacity size t state hl hfuel
    rw [hrun'] at hrun
    simp only [Prod.mk.injEq] at hrun
    obtain ⟨rfl, rfl, rfl⟩ := hrun
    have hx : x.lsn = at_ := hlsn
    refine ⟨rest.dropWhile Entry.retired, _, hx ▸ ht.retire_head, hl', ?_⟩
    have hlen : (rest.takeWhile Entry.retired).length + (rest.dropWhile Entry.retired).length =
        rest.length := by
      rw [← List.length_append, List.takeWhile_append_dropWhile]
    rw [Nat.mod_add_mod, ← hidx, List.length_cons]
    congr 1
    omega
  | succ j =>
    -- a later entry: its slot has no TAIL flag, and the loop only marks it
    have htail := hl.tail_eq_false hj (Nat.succ_pos j)
    obtain ⟨c, rfl⟩ : ∃ c, capacity = c + 1 := ⟨capacity - 1, by have := hl.two_le; omega⟩
    rw [retireLoop_of_not_tail htail] at hrun
    simp only [Prod.mk.injEq] at hrun
    obtain ⟨rfl, rfl, rfl⟩ := hrun
    refine ⟨_, t, ?_, hl.mark hj, by rw [List.length_set]; exact hidx⟩
    rw [History.recordRetire_nil, ← hlsn]
    exact ht.retire_later hj (Nat.succ_pos j) hret

end Holds

end LogDevice.SlidingWindow
