import LogDevice.SlidingWindow.Window

/-!
# The window of one epoch

`SlidingWindowSingleEpoch` of `common/SlidingWindowSingleEpoch.h`, one call at a time: the
constructor, `grow` (unconditional, or conditional on the tail it names), `disable`,
`set_prev_tail`, `retire` and `next`. The atomics are plain fields, and every compare-and-swap
succeeds at its first try, which is what a run of one call at a time makes of them.

What a client has seen of a window is an `EpochHistory`: the `History` of `Spec`, the tail of the
previous epoch it set, and whether it disabled the window. `Reachable epoch capacity esn_max w h`
says that `w` comes out of the constructor and calls whose client view is `h`, each `retire` at
an LSN granted and not retired yet. Every such window keeps `Inv` (`Reachable.inv`): the LSNs
granted are `compose_lsn epoch 1`, `compose_lsn epoch 2`, ... up to `esn_max_` at most, the right
edge is the next one (`LSN_DISABLED` once disabled), and the slots hold the window the history
leaves (`Holds`). Under it, `grow` answers what `EpochHistory.growOutcome` computes from the
history alone (`Inv.grow_outcome`).

Two things the header's comments leave out follow from the code: the capacity in force is
`capacity_ = min capacity esn_max_`, with `esn_max_ = min esn_max (ESN_MAX - 1)`; and a full
window answers `NOBUFS` before it looks at whether it is disabled.
-/

namespace LogDevice.SlidingWindow

variable {α : Type}

/-- A `SlidingWindowSingleEpoch`: its fields, the atomics read as plain values, and the array
`state_` of `capacity_` slots as a function on the slot indices. -/
structure SlidingWindowSingleEpoch (α : Type) where
  epoch_ : Epoch
  size_ : Nat
  esn_max_ : Esn
  capacity_ : Nat
  right_ : Lsn
  prev_epoch_tail_ : Lsn
  next_lsn_before_disabled_ : Lsn
  state_ : Nat → Slot α

namespace SlidingWindowSingleEpoch

def MIN_CAPACITY : Nat := SLIDING_WINDOW_MIN_CAPACITY

/-- `LSN_DISABLED`, the right edge of a disabled window. -/
def LSN_DISABLED : Lsn := LSN_INVALID

/-- `LSN_TAIL_UNKNOWN`: no tail named (an unconditional `grow`), or none known yet. -/
def LSN_TAIL_UNKNOWN : Lsn := LSN_MAX

/-- The constructor; `INVALID_PARAM` stands for its `ConstructorFailed`. -/
def create (epoch : Epoch) (capacity : Int) (esn_max : Esn := ESN_MAX) :
    Except E (SlidingWindowSingleEpoch α) :=
  let esn_max_ := min esn_max (ESN_MAX - 1)
  -- `std::min<uint64_t>(capacity, esn_max_.val_)`: the `int` is read as a 64-bit word
  let capacity_ := min (capacity % 2 ^ 64).toNat esn_max_.toNat
  let right_ := compose_lsn epoch ESN_MIN
  if capacity_ < MIN_CAPACITY ∨ esn_max < ESN_MIN then .error .INVALID_PARAM
  else .ok
    { epoch_ := epoch
      size_ := 0
      esn_max_ := esn_max_
      capacity_ := capacity_
      right_ := right_
      prev_epoch_tail_ := LSN_TAIL_UNKNOWN
      next_lsn_before_disabled_ := LSN_DISABLED
      -- every slot free, and the TAIL flag on the slot of the first LSN
      state_ := Function.update (fun _ => {}) (index capacity_ right_) { tail := true } }

/-- The end of a `grow` that holds a token and the LSN `r`: the right edge moves past `r`, and
the element goes into the slot of `r`. -/
def growAt (w : SlidingWindowSingleEpoch α) (r : Lsn) (e : α) : SlidingWindowSingleEpoch α :=
  { w with
    size_ := w.size_ + 1
    right_ := r + 1
    state_ := Function.update w.state_ (index w.capacity_ r)
      { w.state_ (index w.capacity_ r) with elem := some e } }

/-- `grow`: the LSN granted to `e`, or the error; every failure gives its token back, so it
leaves the window as it was. -/
def grow (w : SlidingWindowSingleEpoch α) (e : α) (prev_tail : Lsn := LSN_TAIL_UNKNOWN) :
    SlidingWindowSingleEpoch α × Except E Lsn :=
  -- the token of `size_.fetch_add(1)`
  let token := w.size_
  if token ≥ w.capacity_ then (w, .error .NOBUFS)
  else
    let r := w.right_
    if lsn_to_esn r > w.esn_max_ then (w, .error .TOOBIG)
    else if r = LSN_DISABLED then (w, .error .DISABLED)
    else if prev_tail ≠ LSN_TAIL_UNKNOWN then
      -- a conditional insert: the first LSN of the epoch follows the previous epoch's tail
      let expected_tail := if lsn_to_esn r = ESN_MIN then w.prev_epoch_tail_ else r - 1
      if expected_tail = LSN_TAIL_UNKNOWN then (w, .error .COND_WRITE_NOT_READY)
      else if expected_tail ≠ prev_tail then (w, .error .COND_WRITE_FAILED)
      else (w.growAt r e, .ok r)
    else (w.growAt r e, .ok r)

/-- `disable`: the right edge it had, `LSN_DISABLED` if it was disabled already. -/
def disable (w : SlidingWindowSingleEpoch α) : SlidingWindowSingleEpoch α × Lsn :=
  let current_right := w.right_
  let w := { w with right_ := LSN_DISABLED }
  if current_right ≠ LSN_DISABLED then
    ({ w with next_lsn_before_disabled_ := current_right }, current_right)
  else (w, current_right)

/-- `set_prev_tail`. -/
def set_prev_tail (w : SlidingWindowSingleEpoch α) (prev_tail : Lsn) :
    SlidingWindowSingleEpoch α × Except E Unit :=
  if lsn_to_epoch prev_tail ≥ w.epoch_ then (w, .error .INVALID_PARAM)
  -- `compare_exchange_strong(LSN_TAIL_UNKNOWN, prev_tail)`
  else if w.prev_epoch_tail_ = LSN_TAIL_UNKNOWN then
    ({ w with prev_epoch_tail_ := prev_tail }, .ok ())
  else (w, .error .STALE)

/-- `retire`: the elements passed to the deleter, in order (the source returns their number).
The `for (;;)` loop goes round once per slot at most, so `capacity_` rounds of fuel. -/
def retire (w : SlidingWindowSingleEpoch α) (at_ : Lsn) : SlidingWindowSingleEpoch α × List α :=
  let idx := index w.capacity_ at_
  let r := retireLoop w.capacity_ w.capacity_ w.state_ w.size_ idx (w.state_ idx)
  ({ w with state_ := r.1, size_ := r.2.1 }, r.2.2)

/-- `next`. Disabled, the source spins until `next_lsn_before_disabled_` is set, which `disable`
has done before it returns. -/
def next (w : SlidingWindowSingleEpoch α) : Lsn :=
  if w.right_ = LSN_DISABLED then w.next_lsn_before_disabled_ else w.right_

/-- `is_disabled`. -/
def is_disabled (w : SlidingWindowSingleEpoch α) : Bool :=
  w.right_ == LSN_DISABLED

/-- `can_grow`. -/
def can_grow (w : SlidingWindowSingleEpoch α) : Bool :=
  w.right_ != LSN_DISABLED && lsn_to_esn w.right_ ≤ w.esn_max_

/-- `grow` fails and leaves the window as it was, or passes every check and grants `right_`. -/
lemma grow_cases (w : SlidingWindowSingleEpoch α) (e : α) (prev_tail : Lsn) :
    (∃ err, w.grow e prev_tail = (w, .error err)) ∨
      (w.size_ < w.capacity_ ∧ lsn_to_esn w.right_ ≤ w.esn_max_ ∧ w.right_ ≠ LSN_DISABLED ∧
        w.grow e prev_tail = (w.growAt w.right_ e, .ok w.right_)) := by
  unfold grow
  dsimp only
  split_ifs with hsize hesn hdis
  all_goals first
    | exact .inl ⟨_, rfl⟩
    | exact .inr ⟨by omega, UInt32.not_lt.mp hesn, hdis, rfl⟩

end SlidingWindowSingleEpoch

/-! ### What a client sees -/

/-- What a client of a single-epoch window has seen: the history of `Spec`, the tail of the
previous epoch it set, and whether it disabled the window. -/
structure EpochHistory (α : Type) extends History α where
  prev_tail : Option Lsn := none
  disabled : Bool := false

namespace EpochHistory

open SlidingWindowSingleEpoch

/-- The history after a `grow` of `e` that answered `res`. -/
def recordGrow (h : EpochHistory α) (e : α) (res : Except E Lsn) : EpochHistory α :=
  { h with toHistory := h.toHistory.recordGrow e res }

/-- The history after a `retire` of `at_` that passed `reaped` to the deleter. -/
def recordRetire (h : EpochHistory α) (at_ : Lsn) (reaped : List α) : EpochHistory α :=
  { h with toHistory := h.toHistory.recordRetire at_ reaped }

/-- The history after a `set_prev_tail` of `l` that answered `res`. -/
def recordPrevTail (h : EpochHistory α) (l : Lsn) : Except E Unit → EpochHistory α
  | .ok () => { h with prev_tail := some l }
  | .error _ => h

@[simp] lemma recordGrow_ok (h : EpochHistory α) (e : α) (r : Lsn) :
    h.recordGrow e (.ok r) = { h with granted := h.granted ++ [(r, e)] } := rfl

@[simp] lemma recordGrow_error (h : EpochHistory α) (e : α) (err : E) :
    h.recordGrow e (.error err) = h := rfl

/-- The tail a conditional `grow` has to name: the last LSN granted, or the tail of the previous
epoch while none was granted. -/
def lastTail (h : EpochHistory α) : Option Lsn :=
  (h.granted.getLast?.map Prod.fst).or h.prev_tail

/-- What `grow` answers, from the history alone: `NOBUFS` while `capacity_` elements are out,
`TOOBIG` once `esn_max_` were granted, `DISABLED` after `disable`, and a conditional `grow` fails
unless it names `lastTail`; otherwise the next LSN of the epoch. -/
def growOutcome (h : EpochHistory α) (epoch : Epoch) (capacity_ : Nat) (esn_max_ : Esn)
    (prev_tail : Lsn) : Except E Lsn :=
  if h.granted.length - h.reaped.length = capacity_ then .error .NOBUFS
  else if h.disabled = false ∧ h.granted.length = esn_max_.toNat then .error .TOOBIG
  else if h.disabled = true then .error .DISABLED
  else if prev_tail ≠ LSN_TAIL_UNKNOWN then
    match h.lastTail with
    | none => .error .COND_WRITE_NOT_READY
    | some tail =>
      if tail ≠ prev_tail then .error .COND_WRITE_FAILED
      else .ok (compose_lsn epoch (.ofNat (h.granted.length + 1)))
  else .ok (compose_lsn epoch (.ofNat (h.granted.length + 1)))

section Outcome

variable {h : EpochHistory α} {epoch : Epoch} {capacity_ : Nat} {esn_max_ : Esn}
  {prev_tail : Lsn}

/-- `NOBUFS` comes from the first check only. -/
lemma growOutcome_eq_nobufs_iff :
    h.growOutcome epoch capacity_ esn_max_ prev_tail = .error .NOBUFS ↔
      h.granted.length - h.reaped.length = capacity_ := by
  unfold growOutcome
  by_cases hfull : h.granted.length - h.reaped.length = capacity_
  · rw [if_pos hfull]
    exact iff_of_true rfl hfull
  rw [if_neg hfull, iff_false_intro hfull, iff_false]
  -- every later branch answers another error, or an LSN
  split_ifs
  all_goals try split
  all_goals try split_ifs
  all_goals simp

/-- A conditional `grow` succeeds only if it names `lastTail`. -/
lemma lastTail_of_growOutcome_ok (hp : prev_tail ≠ LSN_TAIL_UNKNOWN) {r : Lsn}
    (hok : h.growOutcome epoch capacity_ esn_max_ prev_tail = .ok r) :
    h.lastTail = some prev_tail := by
  unfold growOutcome at hok
  -- the error branches and the unconditional one are ruled out by `hok` and `hp`
  split_ifs at hok
  revert hok
  cases h.lastTail with
  | none => exact fun hok => by cases hok
  | some tail =>
    intro hok
    dsimp only at hok
    split_ifs at hok with hne
    rw [not_not.mp hne]

/-- Once disabled, `grow` answers `NOBUFS` while full and `DISABLED` otherwise. -/
lemma growOutcome_of_disabled (hd : h.disabled = true) :
    h.growOutcome epoch capacity_ esn_max_ prev_tail =
      .error (if h.granted.length - h.reaped.length = capacity_ then .NOBUFS else .DISABLED) := by
  unfold growOutcome
  by_cases hfull : h.granted.length - h.reaped.length = capacity_
  · rw [if_pos hfull, if_pos hfull]
  · rw [if_neg hfull, if_neg hfull, if_neg (by rw [hd]; exact fun h => Bool.noConfusion h.1),
      if_pos hd]

end Outcome

end EpochHistory

namespace SlidingWindowSingleEpoch

/-- The windows and client views that a run from the constructor reaches, each `retire` at an
LSN granted and not retired yet (the source's "MUST NOT be called more than once"). -/
inductive Reachable (epoch : Epoch) (capacity : Int) (esn_max : Esn) :
    SlidingWindowSingleEpoch α → EpochHistory α → Prop
  | create {w : SlidingWindowSingleEpoch α} :
      SlidingWindowSingleEpoch.create epoch capacity esn_max = .ok w →
      Reachable epoch capacity esn_max w {}
  | grow {w : SlidingWindowSingleEpoch α} {h : EpochHistory α} (e : α) (prev_tail : Lsn) :
      Reachable epoch capacity esn_max w h →
      Reachable epoch capacity esn_max (w.grow e prev_tail).1
        (h.recordGrow e (w.grow e prev_tail).2)
  | retire {w : SlidingWindowSingleEpoch α} {h : EpochHistory α} (at_ : Lsn) :
      Reachable epoch capacity esn_max w h → at_ ∈ h.granted.map Prod.fst → at_ ∉ h.retired →
      Reachable epoch capacity esn_max (w.retire at_).1 (h.recordRetire at_ (w.retire at_).2)
  | disable {w : SlidingWindowSingleEpoch α} {h : EpochHistory α} :
      Reachable epoch capacity esn_max w h →
      Reachable epoch capacity esn_max w.disable.1 { h with disabled := true }
  | set_prev_tail {w : SlidingWindowSingleEpoch α} {h : EpochHistory α} (prev_tail : Lsn) :
      Reachable epoch capacity esn_max w h →
      Reachable epoch capacity esn_max (w.set_prev_tail prev_tail).1
        (h.recordPrevTail prev_tail (w.set_prev_tail prev_tail).2)

/-- What every reachable window keeps: its constants as the constructor set them, the LSNs
granted are those of sequence numbers `1, 2, ...` up to `esn_max_`, the right edge is the next one
unless disabled (and is kept in `next_lsn_before_disabled_` then), the previous epoch's tail is the
one set, and the slots hold the window of the history. -/
structure Inv (epoch : Epoch) (capacity : Int) (esn_max : Esn) (w : SlidingWindowSingleEpoch α)
    (h : EpochHistory α) : Prop where
  epoch_eq : w.epoch_ = epoch
  esn_max_eq : w.esn_max_ = min esn_max (ESN_MAX - 1)
  capacity_eq : w.capacity_ = min (capacity % 2 ^ 64).toNat w.esn_max_.toNat
  granted_eq : h.granted.map Prod.fst =
    (List.range h.granted.length).map fun i => compose_lsn epoch (.ofNat (i + 1))
  granted_le : h.granted.length ≤ w.esn_max_.toNat
  right_eq : w.right_ =
    if h.disabled then LSN_DISABLED else compose_lsn epoch (.ofNat (h.granted.length + 1))
  before_disabled : h.disabled = true →
    w.next_lsn_before_disabled_ = compose_lsn epoch (.ofNat (h.granted.length + 1))
  prev_tail_eq : w.prev_epoch_tail_ = h.prev_tail.getD LSN_TAIL_UNKNOWN
  prev_tail_lt : ∀ l ∈ h.prev_tail, lsn_to_epoch l < epoch
  holds : Holds w.capacity_ w.state_ w.size_ (compose_lsn epoch (.ofNat (h.granted.length + 1)))
    h.toHistory

namespace Inv

variable {epoch : Epoch} {capacity : Int} {esn_max : Esn} {w : SlidingWindowSingleEpoch α}
  {h : EpochHistory α}

lemma create (hw : SlidingWindowSingleEpoch.create epoch capacity esn_max = .ok w) :
    Inv epoch capacity esn_max w {} := by
  unfold SlidingWindowSingleEpoch.create at hw
  dsimp only at hw
  split_ifs at hw with hc
  cases hw
  have hcap := Nat.not_lt.mp (not_or.mp hc).1
  exact ⟨rfl, rfl, rfl, rfl, Nat.zero_le _, rfl, fun h => absurd h Bool.false_ne_true, rfl,
    fun _ h => (by cases h), Holds.init hcap _⟩

lemma esn_max_lt (hw : Inv epoch capacity esn_max w h) : w.esn_max_.toNat < 2 ^ 32 - 1 := by
  rw [hw.esn_max_eq, UInt32.toNat_min]
  exact lt_of_le_of_lt (min_le_right _ _) (by decide)

/-- The sequence number of the next LSN, after `k` grants, is `k + 1`. -/
lemma toNat_next_esn (hw : Inv epoch capacity esn_max w h) :
    (UInt32.ofNat (h.granted.length + 1)).toNat = h.granted.length + 1 := by
  have hle := hw.granted_le
  have hlt := hw.esn_max_lt
  rw [UInt32.toNat_ofNat', Nat.mod_eq_of_lt (by omega)]

lemma nobufs_iff (hw : Inv epoch capacity esn_max w h) :
    w.capacity_ ≤ w.size_ ↔ h.granted.length - h.reaped.length = w.capacity_ := by
  rw [← hw.holds.size_eq]
  have := hw.holds.size_le
  omega

lemma disabled_iff (hw : Inv epoch capacity esn_max w h) :
    w.right_ = LSN_DISABLED ↔ h.disabled = true := by
  rw [hw.right_eq]
  cases h.disabled with
  | false =>
    simp only [Bool.false_eq_true, if_false, iff_false]
    exact compose_lsn_ne_invalid epoch (by rw [hw.toNat_next_esn]; omega)
  | true => simp

lemma toobig_iff (hw : Inv epoch capacity esn_max w h) :
    w.esn_max_ < lsn_to_esn w.right_ ↔
      h.disabled = false ∧ h.granted.length = w.esn_max_.toNat := by
  have hle := hw.granted_le
  rw [hw.right_eq]
  cases h.disabled with
  | false =>
    simp only [Bool.false_eq_true, if_false, lsn_to_esn_compose_lsn, UInt32.lt_iff_toNat_lt,
      hw.toNat_next_esn, true_and]
    omega
  | true =>
    simp only [if_true, Bool.true_eq_false, false_and, iff_false]
    rw [UInt32.lt_iff_toNat_lt, show (lsn_to_esn LSN_DISABLED).toNat = 0 from rfl]
    omega

/-- The last LSN granted, after `k` grants, is the `k`-th of the epoch. -/
lemma last_granted (hw : Inv epoch capacity esn_max w h) :
    h.granted.getLast?.map Prod.fst =
      if h.granted.length = 0 then none else some (compose_lsn epoch (.ofNat h.granted.length)) := by
  rw [← List.getLast?_map, hw.granted_eq, List.getLast?_map, List.getLast?_range]
  split_ifs with hk
  · rfl
  · rw [Option.map_some, Nat.sub_add_cancel (Nat.pos_of_ne_zero hk)]

/-- The tail of an earlier epoch is never `LSN_TAIL_UNKNOWN`, which is in the last epoch. -/
lemma ne_tail_unknown_of_lt {l : Lsn} (hl : lsn_to_epoch l < epoch) : l ≠ LSN_TAIL_UNKNOWN := by
  rintro rfl
  rw [UInt32.lt_iff_toNat_lt, show (lsn_to_epoch LSN_TAIL_UNKNOWN).toNat = 4294967295 from rfl]
    at hl
  have := epoch.toNat_lt
  omega

/-- The tail a conditional `grow` has to name is never `LSN_TAIL_UNKNOWN`. -/
lemma lastTail_ne (hw : Inv epoch capacity esn_max w h) :
    h.lastTail ≠ some LSN_TAIL_UNKNOWN := by
  unfold EpochHistory.lastTail
  rw [hw.last_granted]
  split_ifs with hk
  · -- no grant yet: the previous epoch's tail is in an earlier epoch
    intro hl
    rw [Option.none_or] at hl
    exact ne_tail_unknown_of_lt (hw.prev_tail_lt _ hl) rfl
  · -- a granted LSN has a sequence number below `ESN_MAX`
    intro hl
    have he := congrArg (fun l => (lsn_to_esn l).toNat) (Option.some.inj hl)
    have hle := hw.granted_le
    have hlt := hw.esn_max_lt
    simp only [lsn_to_esn_compose_lsn, UInt32.toNat_ofNat'] at he
    rw [Nat.mod_eq_of_lt (by omega), show (lsn_to_esn LSN_TAIL_UNKNOWN).toNat = 4294967295 from rfl]
      at he
    omega

/-- The tail a conditional `grow` compares with is `lastTail`. -/
lemma expected_tail (hw : Inv epoch capacity esn_max w h) (hd : h.disabled = false) :
    (if lsn_to_esn w.right_ = ESN_MIN then w.prev_epoch_tail_ else w.right_ - 1) =
      h.lastTail.getD LSN_TAIL_UNKNOWN := by
  have hle := hw.granted_le
  have hlt := hw.esn_max_lt
  unfold EpochHistory.lastTail
  rw [hw.last_granted, hw.right_eq, hd, if_neg Bool.false_ne_true, lsn_to_esn_compose_lsn]
  by_cases hk : h.granted.length = 0
  · -- the first LSN of the epoch: the previous epoch's tail
    rw [if_pos hk, if_pos (by rw [hk]; rfl), hw.prev_tail_eq]
    rfl
  · rw [if_neg hk, if_neg ?_, ← compose_lsn_ofNat_add_one epoch (by omega), add_sub_cancel_right]
    · rfl
    · intro he
      have := congrArg UInt32.toNat he
      rw [hw.toNat_next_esn] at this
      exact hk (by simpa [ESN_MIN] using this)

/-- `grow` answers what the history says it should. -/
lemma grow_outcome (hw : Inv epoch capacity esn_max w h) (e : α) (prev_tail : Lsn) :
    (w.grow e prev_tail).2 = h.growOutcome epoch w.capacity_ w.esn_max_ prev_tail := by
  unfold grow EpochHistory.growOutcome
  simp only [ge_iff_le, gt_iff_lt, hw.nobufs_iff, hw.toobig_iff, hw.disabled_iff]
  by_cases hfull : h.granted.length - h.reaped.length = w.capacity_
  · rw [if_pos hfull, if_pos hfull]
  rw [if_neg hfull, if_neg hfull]
  by_cases hbig : h.disabled = false ∧ h.granted.length = w.esn_max_.toNat
  · rw [if_pos hbig, if_pos hbig]
  rw [if_neg hbig, if_neg hbig]
  cases hd : h.disabled with
  | true => rfl
  | false =>
    have hr : w.right_ = compose_lsn epoch (.ofNat (h.granted.length + 1)) := by
      rw [hw.right_eq, hd, if_neg Bool.false_ne_true]
    simp only [Bool.false_eq_true, if_false]
    by_cases hcond : prev_tail ≠ LSN_TAIL_UNKNOWN
    · rw [if_pos hcond, if_pos hcond, hw.expected_tail hd]
      -- the tail to name: none known yet, or a known one
      cases ht : h.lastTail with
      | none => rfl
      | some tail =>
        have hne : tail ≠ LSN_TAIL_UNKNOWN := fun he => hw.lastTail_ne (by rw [ht, he])
        simp only [Option.getD_some, if_neg hne, hr]
        split_ifs <;> rfl
    · rw [if_neg hcond, if_neg hcond, hr]

/-- `grow` keeps the invariant, whether it grants an LSN or fails. -/
lemma grow (hw : Inv epoch capacity esn_max w h) (e : α) (prev_tail : Lsn) :
    Inv epoch capacity esn_max (w.grow e prev_tail).1 (h.recordGrow e (w.grow e prev_tail).2) := by
  rcases grow_cases w e prev_tail with ⟨err, hg⟩ | ⟨hsize, hesn, hne, hg⟩
  · rw [hg, EpochHistory.recordGrow_error]
    exact hw
  rw [hg, EpochHistory.recordGrow_ok]
  have hd : h.disabled = false := Bool.eq_false_iff.mpr fun hd => hne (hw.disabled_iff.mpr hd)
  have hr : w.right_ = compose_lsn epoch (.ofNat (h.granted.length + 1)) := by
    rw [hw.right_eq, hd, if_neg Bool.false_ne_true]
  have hk : h.granted.length + 1 ≤ w.esn_max_.toNat := by
    rwa [hr, lsn_to_esn_compose_lsn, UInt32.le_iff_toNat_le, hw.toNat_next_esn] at hesn
  have hlt := hw.esn_max_lt
  -- the LSN granted now was not granted before
  have hfresh : w.right_ ∉ h.granted.map Prod.fst := by
    rw [hw.granted_eq, hr]
    intro hm
    obtain ⟨i, hi, heq⟩ := List.mem_map.mp hm
    rw [List.mem_range] at hi
    have := compose_lsn_ofNat_inj epoch (by omega) (by omega) heq
    omega
  -- the next right edge has the next slot
  have hnext : index w.capacity_ (compose_lsn epoch (.ofNat (h.granted.length + 1 + 1))) =
      (index w.capacity_ w.right_ + 1) % w.capacity_ := by
    rw [hr, index_compose_lsn, index_compose_lsn, hw.toNat_next_esn, UInt32.toNat_ofNat',
      Nat.mod_eq_of_lt (show h.granted.length + 1 + 1 < 2 ^ 32 by omega), Nat.mod_add_mod]
  have hholds : Holds w.capacity_ w.state_ w.size_ w.right_ h.toHistory := by
    rw [hr]
    exact hw.holds
  exact
    { epoch_eq := hw.epoch_eq
      esn_max_eq := hw.esn_max_eq
      capacity_eq := hw.capacity_eq
      granted_eq := by
        rw [List.map_append, hw.granted_eq, List.length_append, List.length_singleton,
          List.range_succ, List.map_append, List.map_singleton, List.map_singleton, hr]
      granted_le := by
        rw [List.length_append, List.length_singleton]
        exact hk
      right_eq := by
        show w.right_ + 1 = _
        rw [if_neg (show ¬ h.disabled = true by rw [hd]; exact Bool.false_ne_true), hr,
          List.length_append, List.length_singleton, compose_lsn_ofNat_add_one epoch (by omega)]
      before_disabled := fun hd' => (Bool.false_ne_true (hd.symm.trans hd')).elim
      prev_tail_eq := hw.prev_tail_eq
      prev_tail_lt := hw.prev_tail_lt
      holds := by
        rw [List.length_append, List.length_singleton]
        exact hholds.grow hfresh hsize hnext e }

/-- `retire` of an LSN granted and not retired keeps the invariant. -/
lemma retire (hw : Inv epoch capacity esn_max w h) {at_ : Lsn}
    (hg : at_ ∈ h.granted.map Prod.fst) (hr : at_ ∉ h.retired) :
    Inv epoch capacity esn_max (w.retire at_).1 (h.recordRetire at_ (w.retire at_).2) where
  epoch_eq := hw.epoch_eq
  esn_max_eq := hw.esn_max_eq
  capacity_eq := hw.capacity_eq
  granted_eq := hw.granted_eq
  granted_le := hw.granted_le
  right_eq := hw.right_eq
  before_disabled := hw.before_disabled
  prev_tail_eq := hw.prev_tail_eq
  prev_tail_lt := hw.prev_tail_lt
  holds := hw.holds.retire hg hr rfl

/-- `disable` keeps the invariant: the first one keeps the right edge it replaces. -/
lemma disable (hw : Inv epoch capacity esn_max w h) :
    Inv epoch capacity esn_max w.disable.1 { h with disabled := true } := by
  unfold SlidingWindowSingleEpoch.disable
  dsimp only
  split_ifs with hne
  · have hd : h.disabled = false := Bool.eq_false_iff.mpr fun hd => hne (hw.disabled_iff.mpr hd)
    exact
      { hw with
        right_eq := (if_pos rfl).symm
        before_disabled := fun _ => by rw [hw.right_eq, hd, if_neg Bool.false_ne_true] }
  · -- disabled already: only `right_` is written, with the value it has
    have hd : h.disabled = true := hw.disabled_iff.mp (not_not.mp hne)
    exact
      { hw with
        right_eq := (if_pos rfl).symm
        before_disabled := fun _ => hw.before_disabled hd }

/-- `prev_epoch_tail_` is unset exactly while no tail was set. -/
lemma prev_tail_unknown_iff (hw : Inv epoch capacity esn_max w h) :
    w.prev_epoch_tail_ = LSN_TAIL_UNKNOWN ↔ h.prev_tail = none := by
  rw [hw.prev_tail_eq]
  cases hp : h.prev_tail with
  | none => simp
  | some l =>
    simp only [Option.getD_some, reduceCtorEq, iff_false]
    exact ne_tail_unknown_of_lt (hw.prev_tail_lt l hp)

/-- `set_prev_tail` takes a tail of an earlier epoch, once. -/
lemma set_prev_tail_outcome (hw : Inv epoch capacity esn_max w h) (l : Lsn) :
    (w.set_prev_tail l).2 =
      if epoch ≤ lsn_to_epoch l then .error .INVALID_PARAM
      else if h.prev_tail = none then .ok () else .error .STALE := by
  unfold SlidingWindowSingleEpoch.set_prev_tail
  simp only [ge_iff_le, hw.epoch_eq, hw.prev_tail_unknown_iff]
  split_ifs <;> rfl

lemma set_prev_tail (hw : Inv epoch capacity esn_max w h) (l : Lsn) :
    Inv epoch capacity esn_max (w.set_prev_tail l).1
      (h.recordPrevTail l (w.set_prev_tail l).2) := by
  unfold SlidingWindowSingleEpoch.set_prev_tail
  split_ifs with hep hunk
  · exact hw
  · -- the first tail set, of an earlier epoch
    have hlt : lsn_to_epoch l < epoch := by
      rw [← hw.epoch_eq]
      exact UInt32.not_le.mp hep
    exact
      { hw with
        prev_tail_eq := rfl
        prev_tail_lt := fun l' (hl' : some l = some l') => Option.some.inj hl' ▸ hlt }
  · exact hw

/-- The right edge `next` reports, disabled or not, is the next LSN of the epoch. -/
lemma next_eq (hw : Inv epoch capacity esn_max w h) :
    w.next = compose_lsn epoch (.ofNat (h.granted.length + 1)) := by
  unfold SlidingWindowSingleEpoch.next
  by_cases hd : h.disabled = true
  · rw [if_pos (hw.disabled_iff.mpr hd), hw.before_disabled hd]
  · rw [if_neg (mt hw.disabled_iff.mp hd), hw.right_eq, if_neg hd]

lemma is_disabled_eq (hw : Inv epoch capacity esn_max w h) : w.is_disabled = h.disabled := by
  unfold is_disabled
  rw [Bool.eq_iff_iff, beq_iff_eq, hw.disabled_iff]

/-- `can_grow` holds while `grow` fails with neither `DISABLED` nor `TOOBIG`. -/
lemma can_grow_iff (hw : Inv epoch capacity esn_max w h) :
    w.can_grow = true ↔ h.disabled = false ∧ h.granted.length < w.esn_max_.toNat := by
  have hle := hw.granted_le
  unfold can_grow
  rw [Bool.and_eq_true, bne_iff_ne, ne_eq, hw.disabled_iff, decide_eq_true_iff,
    ← UInt32.not_lt, hw.toobig_iff, Bool.not_eq_true]
  constructor
  · rintro ⟨hd, hk⟩
    exact ⟨hd, lt_of_le_of_ne hle fun he => hk ⟨hd, he⟩⟩
  · rintro ⟨hd, hk⟩
    exact ⟨hd, fun hb => absurd hb.2 (Nat.ne_of_lt hk)⟩

end Inv

/-- Every reachable window keeps the invariant. -/
theorem Reachable.inv {epoch : Epoch} {capacity : Int} {esn_max : Esn}
    {w : SlidingWindowSingleEpoch α} {h : EpochHistory α}
    (hr : Reachable epoch capacity esn_max w h) : Inv epoch capacity esn_max w h := by
  induction hr with
  | create hc => exact Inv.create hc
  | grow e prev_tail _ ih => exact ih.grow e prev_tail
  | retire at_ _ hg hret ih => exact ih.retire hg hret
  | disable _ ih => exact ih.disable
  | set_prev_tail l _ ih => exact ih.set_prev_tail l

/-- What a client of a single-epoch window can rely on after any run: the grants are
`compose_lsn epoch 1, 2, ...` and stop before `esn_max` is passed, the deleter got the longest prefix
of them that is all retired, `NOBUFS` comes exactly while `capacity_` elements are out (the capacity
in force, not the one given), a conditional `grow` succeeds only if it names the last grant or,
before any, the previous epoch's tail, and a disabled window fails every `grow`: with `NOBUFS`
while full, with `DISABLED` otherwise. -/
structure EpochContract (epoch : Epoch) (capacity : Int) (esn_max : Esn)
    (w : SlidingWindowSingleEpoch α) (h : EpochHistory α) : Prop where
  consecutive : ∃ k, k ≤ esn_max.toNat ∧ k < ESN_MAX.toNat ∧
    h.granted.map Prod.fst = (List.range k).map fun i => compose_lsn epoch (.ofNat (i + 1))
  reaped : h.reaped = (h.granted.takeWhile fun g => decide (g.1 ∈ h.retired)).map Prod.snd
  capacity_eq : w.capacity_ = min (capacity % 2 ^ 64).toNat (min esn_max (ESN_MAX - 1)).toNat
  nobufs : ∀ e prev_tail,
    (w.grow e prev_tail).2 = .error .NOBUFS ↔ h.granted.length - h.reaped.length = w.capacity_
  conditional : ∀ e prev_tail r, prev_tail ≠ LSN_TAIL_UNKNOWN → (w.grow e prev_tail).2 = .ok r →
    (h.granted.getLast?.map Prod.fst).or h.prev_tail = some prev_tail
  disabled : h.disabled = true → ∀ e prev_tail, (w.grow e prev_tail).2 =
    .error (if h.granted.length - h.reaped.length = w.capacity_ then .NOBUFS else .DISABLED)

/-- The invariant gives the contract. -/
lemma Inv.contract {epoch : Epoch} {capacity : Int} {esn_max : Esn}
    {w : SlidingWindowSingleEpoch α} {h : EpochHistory α} (hw : Inv epoch capacity esn_max w h) :
    EpochContract epoch capacity esn_max w h where
  consecutive := by
    have hle := hw.granted_le
    rw [hw.esn_max_eq, UInt32.toNat_min, show (ESN_MAX - 1).toNat = 4294967294 from rfl] at hle
    refine ⟨h.granted.length, le_trans hle (min_le_left _ _), ?_, hw.granted_eq⟩
    rw [ESN_MAX_toNat]
    omega
  reaped := hw.holds.reaped_eq
  capacity_eq := by rw [hw.capacity_eq, hw.esn_max_eq]
  nobufs e prev_tail := by
    rw [hw.grow_outcome]
    exact EpochHistory.growOutcome_eq_nobufs_iff
  conditional e prev_tail r hp hok := by
    rw [hw.grow_outcome] at hok
    exact EpochHistory.lastTail_of_growOutcome_ok hp hok
  disabled hd e prev_tail := by
    rw [hw.grow_outcome]
    exact EpochHistory.growOutcome_of_disabled hd

end SlidingWindowSingleEpoch

end LogDevice.SlidingWindow
