import LogDevice.SlidingWindow.Slots

/-!
# The window over epochs

`SlidingWindow` of `common/SlidingWindow.h`, one call at a time: the constructor, `advanceEpoch`,
`grow`, `retire` and `next`. It is the window of `SlidingWindowSingleEpoch` without the disabled
state and the conditional insert, and with the right edge free to move to a later epoch:
`advanceEpoch` puts it at the sequence number of the new epoch with the same slot (`capacity_`
for the slot `0`), which is why the constructor takes `capacity_` to be at most `esn_max_`.

`Reachable capacity esn_max start w h` says that `w` comes out of the constructor and calls whose
client view is `h`. Every such window keeps `Inv` (`Reachable.inv`): the LSNs granted and then the
right edge are increasing, each the next of the one before or in a later epoch (`Follows`), every
one granted has a sequence number in `ESN_MIN .. esn_max_`, and the slots hold the window of the
history (`Holds`).
-/

namespace LogDevice

open SlidingWindow in
/-- A `SlidingWindow`: its fields, the atomics read as plain values, and the array `state_` of
`capacity_` slots as a function on the slot indices. -/
structure SlidingWindow (α : Type) where
  size_ : Nat
  esn_max_ : Esn
  capacity_ : Nat
  right_ : Lsn
  state_ : Nat → Slot α

namespace SlidingWindow

variable {α : Type}

def MIN_CAPACITY : Nat := SLIDING_WINDOW_MIN_CAPACITY

/-- The constructor; `INVALID_PARAM` and `TOOBIG` stand for its `ConstructorFailed`. -/
def create (capacity : Int) (esn_max : Esn := ESN_MAX)
    (start : Lsn := compose_lsn EPOCH_INVALID ESN_MIN) : Except E (SlidingWindow α) :=
  let esn_max_ := min esn_max (ESN_MAX - 1)
  -- `std::min<uint64_t>(capacity, esn_max_.val_)`: the `int` is read as a 64-bit word
  let capacity_ := min (capacity % 2 ^ 64).toNat esn_max_.toNat
  let right_ := start
  if capacity_ < MIN_CAPACITY ∨ lsn_to_esn right_ < ESN_MIN then .error .INVALID_PARAM
  else if lsn_to_esn right_ > esn_max_ then .error .TOOBIG
  else .ok
    { size_ := 0
      esn_max_ := esn_max_
      capacity_ := capacity_
      right_ := right_
      state_ := Function.update (fun _ => {}) (index capacity_ right_) { tail := true } }

/-- `advanceEpoch`: the new right edge, in `epoch` and on the slot of the old one. -/
def advanceEpoch (w : SlidingWindow α) (epoch : Epoch) : SlidingWindow α × Except E Lsn :=
  let right_now := w.right_
  if epoch ≤ lsn_to_epoch right_now then (w, .error .INVALID_PARAM)
  else
    let right_next_esn := index w.capacity_ right_now
    -- `0` is not a valid ESN: the next larger one of the same slot
    let right_next_esn := if right_next_esn = 0 then w.capacity_ else right_next_esn
    let right_next := compose_lsn epoch (.ofNat right_next_esn)
    ({ w with right_ := right_next }, .ok right_next)

/-- The end of a `grow` that holds a token and the LSN `r`. -/
def growAt (w : SlidingWindow α) (r : Lsn) (e : α) : SlidingWindow α :=
  { w with
    size_ := w.size_ + 1
    right_ := r + 1
    state_ := Function.update w.state_ (index w.capacity_ r)
      { w.state_ (index w.capacity_ r) with elem := some e } }

/-- `grow`: the LSN granted to `e`, or the error; a failure gives its token back. -/
def grow (w : SlidingWindow α) (e : α) : SlidingWindow α × Except E Lsn :=
  -- the token of `size_.fetch_add(1)`
  let token := w.size_
  if token ≥ w.capacity_ then (w, .error .NOBUFS)
  else
    let r := w.right_
    if lsn_to_esn r > w.esn_max_ then (w, .error .TOOBIG)
    else (w.growAt r e, .ok r)

/-- `retire`: the elements passed to the deleter, in order. -/
def retire (w : SlidingWindow α) (at_ : Lsn) : SlidingWindow α × List α :=
  let idx := index w.capacity_ at_
  let r := retireLoop w.capacity_ w.capacity_ w.state_ w.size_ idx (w.state_ idx)
  ({ w with state_ := r.1, size_ := r.2.1 }, r.2.2)

/-- `next`. -/
def next (w : SlidingWindow α) : Lsn := w.right_

/-- `can_grow`. -/
def can_grow (w : SlidingWindow α) : Bool := lsn_to_esn w.right_ ≤ w.esn_max_

/-- `grow` fails and leaves the window as it was, or passes both checks and grants `right_`. -/
lemma grow_cases (w : SlidingWindow α) (e : α) :
    (∃ err, w.grow e = (w, .error err)) ∨
      (w.size_ < w.capacity_ ∧ lsn_to_esn w.right_ ≤ w.esn_max_ ∧
        w.grow e = (w.growAt w.right_ e, .ok w.right_)) := by
  unfold grow
  dsimp only
  split_ifs with hsize hesn
  · exact .inl ⟨_, rfl⟩
  · exact .inl ⟨_, rfl⟩
  · exact .inr ⟨by omega, UInt32.not_lt.mp hesn, rfl⟩

/-- The windows and client views that a run from the constructor reaches, each `retire` at an
LSN granted and not retired yet. -/
inductive Reachable (capacity : Int) (esn_max : Esn) (start : Lsn) :
    SlidingWindow α → History α → Prop
  | create {w : SlidingWindow α} :
      SlidingWindow.create capacity esn_max start = .ok w → Reachable capacity esn_max start w {}
  | grow {w : SlidingWindow α} {h : History α} (e : α) :
      Reachable capacity esn_max start w h →
      Reachable capacity esn_max start (w.grow e).1 (h.recordGrow e (w.grow e).2)
  | retire {w : SlidingWindow α} {h : History α} (at_ : Lsn) :
      Reachable capacity esn_max start w h → at_ ∈ h.granted.map Prod.fst → at_ ∉ h.retired →
      Reachable capacity esn_max start (w.retire at_).1 (h.recordRetire at_ (w.retire at_).2)
  | advanceEpoch {w : SlidingWindow α} {h : History α} (epoch : Epoch) :
      Reachable capacity esn_max start w h →
      Reachable capacity esn_max start (w.advanceEpoch epoch).1 h

/-- Two LSNs one after the other: the next of the epoch, or one of a later epoch. -/
def Follows (l l' : Lsn) : Prop :=
  l' = l + 1 ∨ lsn_to_epoch l < lsn_to_epoch l'

/-- What every reachable window keeps: its constants as the constructor set them, the LSNs
granted and then the right edge in increasing order, each following the one before, every LSN
granted with a sequence number in `ESN_MIN .. esn_max_` and the right edge's at most one past,
and the slots holding the window of the history. -/
structure Inv (capacity : Int) (esn_max : Esn) (w : SlidingWindow α) (h : History α) : Prop where
  esn_max_eq : w.esn_max_ = min esn_max (ESN_MAX - 1)
  capacity_eq : w.capacity_ = min (capacity % 2 ^ 64).toNat w.esn_max_.toNat
  sorted : (h.granted.map Prod.fst ++ [w.right_]).Pairwise (· < ·)
  chain : (h.granted.map Prod.fst ++ [w.right_]).IsChain Follows
  granted_esn : ∀ l ∈ h.granted.map Prod.fst, ESN_MIN ≤ lsn_to_esn l ∧ lsn_to_esn l ≤ w.esn_max_
  right_esn : ESN_MIN ≤ lsn_to_esn w.right_ ∧ (lsn_to_esn w.right_).toNat ≤ w.esn_max_.toNat + 1
  holds : Holds w.capacity_ w.state_ w.size_ w.right_ h

namespace Inv

variable {capacity : Int} {esn_max : Esn} {w : SlidingWindow α} {h : History α}

lemma create {start : Lsn} (hw : SlidingWindow.create capacity esn_max start = .ok w) :
    Inv capacity esn_max w {} := by
  unfold SlidingWindow.create at hw
  dsimp only at hw
  split_ifs at hw with hc hbig
  cases hw
  have hcap := Nat.not_lt.mp (not_or.mp hc).1
  refine ⟨rfl, rfl, List.pairwise_singleton _ _, List.isChain_singleton _,
    fun _ h => (by cases h), ⟨UInt32.not_lt.mp (not_or.mp hc).2, ?_⟩, Holds.init hcap _⟩
  exact Nat.le_succ_of_le (UInt32.le_iff_toNat_le.mp (UInt32.not_lt.mp hbig))

lemma esn_max_lt (hw : Inv capacity esn_max w h) : w.esn_max_.toNat < 2 ^ 32 - 1 := by
  rw [hw.esn_max_eq, UInt32.toNat_min]
  exact lt_of_le_of_lt (min_le_right _ _) (by decide)

/-- The capacity in force is at most `esn_max_`: every slot has a valid sequence number. -/
lemma capacity_le (hw : Inv capacity esn_max w h) : w.capacity_ ≤ w.esn_max_.toNat := by
  rw [hw.capacity_eq]
  exact min_le_right _ _

/-- Every LSN granted is below the right edge. -/
lemma lt_right (hw : Inv capacity esn_max w h) {l : Lsn} (hl : l ∈ h.granted.map Prod.fst) :
    l < w.right_ :=
  (List.pairwise_append.mp hw.sorted).2.2 l hl w.right_ (List.mem_singleton_self _)

lemma nobufs_iff (hw : Inv capacity esn_max w h) :
    w.capacity_ ≤ w.size_ ↔ h.granted.length - h.reaped.length = w.capacity_ := by
  rw [← hw.holds.size_eq]
  have := hw.holds.size_le
  omega

/-- `grow` answers `NOBUFS` while `capacity_` elements are out, then `TOOBIG` past `esn_max_`,
and otherwise grants the right edge. -/
lemma grow_outcome (hw : Inv capacity esn_max w h) (e : α) :
    (w.grow e).2 =
      if h.granted.length - h.reaped.length = w.capacity_ then .error .NOBUFS
      else if w.esn_max_ < lsn_to_esn w.right_ then .error .TOOBIG
      else .ok w.next := by
  unfold grow
  simp only [ge_iff_le, gt_iff_lt, hw.nobufs_iff]
  split_ifs <;> rfl

/-- `grow` keeps the invariant, whether it grants an LSN or fails. -/
lemma grow (hw : Inv capacity esn_max w h) (e : α) :
    Inv capacity esn_max (w.grow e).1 (h.recordGrow e (w.grow e).2) := by
  rcases grow_cases w e with ⟨err, hg⟩ | ⟨hsize, hesn, hg⟩
  · rw [hg, History.recordGrow_error]
    exact hw
  rw [hg, History.recordGrow_ok]
  dsimp only [growAt]
  have hlt := hw.esn_max_lt
  have hesn' := UInt32.le_iff_toNat_le.mp hesn
  have hsucc : (lsn_to_esn w.right_).toNat + 1 < 2 ^ 32 := by omega
  -- the right edge is above every LSN granted, so it is a new one
  have hfresh : w.right_ ∉ h.granted.map Prod.fst := fun hm => UInt64.lt_irrefl _ (hw.lt_right hm)
  have hnext : index w.capacity_ (w.right_ + 1) = (index w.capacity_ w.right_ + 1) % w.capacity_ := by
    unfold index
    rw [lsn_to_esn_add_one hsucc, Nat.mod_add_mod]
  have hgranted : (h.granted ++ [(w.right_, e)]).map Prod.fst ++ [w.right_ + 1] =
      (h.granted.map Prod.fst ++ [w.right_]) ++ [w.right_ + 1] := by
    rw [List.map_append, List.map_singleton]
  refine ⟨hw.esn_max_eq, hw.capacity_eq, ?_, ?_, fun l hl => ?_, ?_, hw.holds.grow hfresh hsize hnext e⟩
  · -- sorted: the new right edge is above the old one, so above all
    rw [hgranted, List.pairwise_append]
    refine ⟨hw.sorted, List.pairwise_singleton _ _, fun a ha b hb => ?_⟩
    rw [List.mem_singleton] at hb
    subst hb
    rcases List.mem_append.mp ha with ha | ha
    · exact UInt64.lt_trans (hw.lt_right ha) (lt_add_one_of_esn hsucc)
    · rw [List.mem_singleton.mp ha]
      exact lt_add_one_of_esn hsucc
  · rw [hgranted]
    refine hw.chain.append (List.isChain_singleton _) fun x hx y hy => ?_
    rw [List.getLast?_append, List.getLast?_singleton, Option.some_or, Option.mem_some_iff] at hx
    rw [List.head?_singleton, Option.mem_some_iff] at hy
    exact .inl (by rw [← hx, ← hy])
  · rw [List.map_append, List.map_singleton, List.mem_append, List.mem_singleton] at hl
    rcases hl with hl | rfl
    · exact hw.granted_esn l hl
    · exact ⟨hw.right_esn.1, hesn⟩
  · show ESN_MIN ≤ lsn_to_esn (w.right_ + 1) ∧
      (lsn_to_esn (w.right_ + 1)).toNat ≤ w.esn_max_.toNat + 1
    rw [UInt32.le_iff_toNat_le, lsn_to_esn_add_one hsucc]
    exact ⟨by simp only [ESN_MIN, UInt32.toNat_one]; omega, by omega⟩

/-- The sequence number `advanceEpoch` picks, that of the old right edge's slot (`capacity_` for
the slot `0`), is a valid one with that slot. -/
lemma right_next_esn (hw : Inv capacity esn_max w h) {s : Nat}
    (hs : s = if index w.capacity_ w.right_ = 0 then w.capacity_ else index w.capacity_ w.right_) :
    1 ≤ s ∧ s ≤ w.esn_max_.toNat ∧ s % w.capacity_ = index w.capacity_ w.right_ ∧
      (UInt32.ofNat s).toNat = s := by
  have htwo := hw.holds.two_le
  have hcap := hw.capacity_le
  have hlt := hw.esn_max_lt
  have hidx : index w.capacity_ w.right_ < w.capacity_ := Nat.mod_lt _ (by omega)
  have hle : 1 ≤ s ∧ s ≤ w.capacity_ := by
    rw [hs]
    split_ifs <;> omega
  have hmod : s % w.capacity_ = index w.capacity_ w.right_ := by
    rw [hs]
    split_ifs with h0
    · rw [h0, Nat.mod_self]
    · exact Nat.mod_eq_of_lt hidx
  refine ⟨hle.1, by omega, hmod, ?_⟩
  rw [UInt32.toNat_ofNat', Nat.mod_eq_of_lt (by omega)]

/-- `advanceEpoch` keeps the invariant: the new right edge is in a later epoch, on the same slot. -/
lemma advanceEpoch (hw : Inv capacity esn_max w h) (epoch : Epoch) :
    Inv capacity esn_max (w.advanceEpoch epoch).1 h := by
  unfold SlidingWindow.advanceEpoch
  dsimp only
  by_cases hep : epoch ≤ lsn_to_epoch w.right_
  · rw [if_pos hep]
    exact hw
  rw [if_neg hep]
  set s := if index w.capacity_ w.right_ = 0 then w.capacity_ else index w.capacity_ w.right_
    with hs
  obtain ⟨hs1, hs2, hsmod, hsnat⟩ := hw.right_next_esn hs
  have hlt : lsn_to_epoch w.right_ < epoch := UInt32.not_le.mp hep
  -- the new right edge is in a later epoch than every LSN so far
  have hlt' : w.right_ < compose_lsn epoch (.ofNat s) := by
    apply lt_of_lsn_to_epoch_lt
    rwa [lsn_to_epoch_compose_lsn]
  refine ⟨hw.esn_max_eq, hw.capacity_eq, ?_, ?_, hw.granted_esn, ?_, ?_⟩
  · rw [List.pairwise_append]
    refine ⟨(List.pairwise_append.mp hw.sorted).1, List.pairwise_singleton _ _, fun a ha b hb => ?_⟩
    rw [List.mem_singleton.mp hb]
    exact UInt64.lt_trans (hw.lt_right ha) hlt'
  · -- the last LSN granted was followed by the old right edge, so it is by the new one
    obtain ⟨hc, -, hlast⟩ := List.isChain_append.mp hw.chain
    refine hc.append (List.isChain_singleton _) fun x hx y hy => ?_
    rw [List.head?_singleton, Option.mem_some_iff] at hy
    rw [← hy]
    have hxe := UInt32.le_iff_toNat_le.mp (hw.granted_esn x (List.mem_of_getLast? hx)).2
    have := hw.esn_max_lt
    right
    rw [lsn_to_epoch_compose_lsn]
    rcases hlast x hx _ rfl with hx' | hx'
    · rwa [hx', lsn_to_epoch_add_one (by omega)] at hlt
    · exact UInt32.lt_trans hx' hlt
  · show ESN_MIN ≤ lsn_to_esn (compose_lsn epoch (.ofNat s)) ∧
      (lsn_to_esn (compose_lsn epoch (.ofNat s))).toNat ≤ w.esn_max_.toNat + 1
    rw [lsn_to_esn_compose_lsn, UInt32.le_iff_toNat_le, hsnat]
    exact ⟨hs1, by omega⟩
  · refine hw.holds.congr_next ?_
    show _ = index w.capacity_ (compose_lsn epoch (.ofNat s))
    rw [index_compose_lsn, hsnat, hsmod]

/-- `retire` of an LSN granted and not retired keeps the invariant. -/
lemma retire (hw : Inv capacity esn_max w h) {at_ : Lsn}
    (hg : at_ ∈ h.granted.map Prod.fst) (hr : at_ ∉ h.retired) :
    Inv capacity esn_max (w.retire at_).1 (h.recordRetire at_ (w.retire at_).2) where
  esn_max_eq := hw.esn_max_eq
  capacity_eq := hw.capacity_eq
  sorted := hw.sorted
  chain := hw.chain
  granted_esn := hw.granted_esn
  right_esn := hw.right_esn
  holds := hw.holds.retire hg hr rfl

end Inv

/-- What a client of a window over epochs can rely on after any run: each LSN granted follows
the one before (the next of its epoch, or in a later epoch, which only `advanceEpoch` moves to),
they increase and have sequence numbers in `ESN_MIN .. esn_max`, the deleter got the longest
prefix of them that is all retired, `NOBUFS` comes exactly while `capacity_` elements are out,
and a grant is the right edge `next` and moves it on by one. -/
structure Contract (capacity : Int) (esn_max : Esn) (w : SlidingWindow α) (h : History α) :
    Prop where
  consecutive : (h.granted.map Prod.fst).IsChain Follows
  increasing : (h.granted.map Prod.fst).Pairwise (· < ·)
  esn_bounds : ∀ l ∈ h.granted.map Prod.fst, ESN_MIN ≤ lsn_to_esn l ∧ lsn_to_esn l ≤ esn_max
  reaped : h.reaped = (h.granted.takeWhile fun g => decide (g.1 ∈ h.retired)).map Prod.snd
  capacity_eq : w.capacity_ = min (capacity % 2 ^ 64).toNat (min esn_max (ESN_MAX - 1)).toNat
  nobufs : ∀ e, (w.grow e).2 = .error .NOBUFS ↔ h.granted.length - h.reaped.length = w.capacity_
  next_grant : ∀ e r, (w.grow e).2 = .ok r → r = w.next ∧ (w.grow e).1.next = r + 1

/-- The invariant gives the contract. -/
lemma Inv.contract {capacity : Int} {esn_max : Esn} {w : SlidingWindow α} {h : History α}
    (hw : Inv capacity esn_max w h) : Contract capacity esn_max w h where
  consecutive := (List.isChain_append.mp hw.chain).1
  increasing := (List.pairwise_append.mp hw.sorted).1
  esn_bounds l hl := by
    refine ⟨(hw.granted_esn l hl).1, UInt32.le_iff_toNat_le.mpr ?_⟩
    have hle := UInt32.le_iff_toNat_le.mp (hw.granted_esn l hl).2
    rw [hw.esn_max_eq, UInt32.toNat_min] at hle
    omega
  reaped := hw.holds.reaped_eq
  capacity_eq := by rw [hw.capacity_eq, hw.esn_max_eq]
  nobufs e := by
    rw [hw.grow_outcome]
    split_ifs with hfull
    · exact iff_of_true rfl hfull
    all_goals exact iff_of_false (by simp) hfull
  next_grant e r hok := by
    rcases grow_cases w e with ⟨err, hg⟩ | ⟨-, -, hg⟩
    · rw [hg] at hok
      cases hok
    · rw [hg] at hok ⊢
      cases hok
      exact ⟨rfl, rfl⟩

/-- Every reachable window keeps the invariant. -/
theorem Reachable.inv {capacity : Int} {esn_max : Esn} {start : Lsn} {w : SlidingWindow α}
    {h : History α} (hr : Reachable capacity esn_max start w h) : Inv capacity esn_max w h := by
  induction hr with
  | create hc => exact Inv.create hc
  | grow e _ ih => exact ih.grow e
  | retire at_ _ hg hret ih => exact ih.retire hg hret
  | advanceEpoch epoch _ ih => exact ih.advanceEpoch epoch

end SlidingWindow

end LogDevice
