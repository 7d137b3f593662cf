import LogDevice.ClientReadStream.CircularBuffer
import LogDevice.Lib.Visit

/-!
# What the circular buffer holds for each LSN

`view b n` is the state `ClientReadStreamCircularBuffer` holds for the LSN of value `n`: element
`n - buffer_head_` for the `capacity` values from the head on, the default state elsewhere. Each
operation is described by what it does to the view, for capacities up to `2 ^ 31`, where every
index survives `operator[]`: a write through a pointer into element `i` updates the view at the
head plus `i` (`view_write`), `popFront` resets the head's state, `clear` resets every state
(`view_clear`), and `advanceBufferHead` reads the rotated array from the new head
(`view_advanceBufferHead`). The loop of `findFirstMarker` finds the first element with a marker
(`findFirstMarkerFrom_some`, `findFirstMarkerFrom_none`), and the loop of `forEach` is `visit`
over the LSNs it goes through, from `from` to `to` (`forEach_eq_visit`).
-/

namespace LogDevice

namespace CircularBuffer

variable {T : Type}

/-- A loop that changes elements `0, 1, …, k - 1` by `f` in turn, through `operator[]`, changes
each of them once and nothing else. -/
lemma slot_foldl_modify (f : T → T) (c : CircularBuffer T) (hc : c.size_ ≤ 2 ^ 31) (k : Nat)
    (hk : k ≤ c.size_) :
    let c' := (List.range k).foldl (fun c i => c.setAt (c.ptr (intIndex i)) (f (c.get i))) c
    c'.size_ = c.size_ ∧ c'.front_ = c.front_ ∧
      ∀ j < c.size_, c'.slot j = if j < k then f (c.slot j) else c.slot j := by
  induction k with
  | zero => exact ⟨rfl, rfl, fun j _ => by simp⟩
  | succ k ih =>
    obtain ⟨hsize, hfront, hslot⟩ := ih (by omega)
    simp only [List.range_succ, List.foldl_append, List.foldl_cons, List.foldl_nil]
    generalize hc' : (List.range k).foldl
      (fun c i => c.setAt (c.ptr (intIndex i)) (f (c.get i))) c = c' at hsize hfront hslot
    -- the last step changes element `k` of the array the loop has built so far
    have hk' : k < c'.size_ := by omega
    have hget : c'.get k = c'.slot k := c'.get_eq_slot hk' (by omega)
    rw [get, ← get, hget, intIndex_of_lt (by omega), ptr_eq c' hk']
    refine ⟨hsize, hfront, fun j hj => ?_⟩
    rw [slot_setAt c' hk' (by omega), hslot j hj, hslot k (by omega)]
    by_cases hjk : j = k
    · simp [hjk]
    · have hlt : j < k + 1 ↔ j < k := by omega
      simp [hjk, hlt]

end CircularBuffer

namespace ClientReadStreamCircularBuffer

open ClientReadStreamRecordState ClientReadStreamBuffer CircularBuffer Lib

variable {Record Sender : Type}

/-- The state the buffer holds for the LSN of value `n`. -/
def view (b : ClientReadStreamCircularBuffer Record Sender) (n : Nat) : RecordState Record Sender :=
  if b.buffer_head_.toNat ≤ n ∧ n < b.buffer_head_.toNat + b.capacity then
    b.buffer_.slot (n - b.buffer_head_.toNat)
  else default

/-- The values of the LSNs `forEachLoop` goes through: `n` of them from `a`, down when `reverse`. -/
def lsnsFrom (reverse : Bool) : Nat → Nat → List Nat
  | _, 0 => []
  | a, n + 1 => a :: lsnsFrom reverse (if reverse then a - 1 else a + 1) n

lemma lsnsFrom_false (a n : Nat) : lsnsFrom false a n = List.range' a n := by
  induction n generalizing a with
  | zero => rfl
  | succ n ih => simp [lsnsFrom, ih, List.range'_succ]

lemma lsnsFrom_true (a n : Nat) (h : n ≤ a + 1) :
    lsnsFrom true a n = (List.range' (a + 1 - n) n).reverse := by
  induction n generalizing a with
  | zero => rfl
  | succ n ih =>
    rw [lsnsFrom, if_pos rfl, List.range'_concat, List.reverse_append]
    cases n with
    | zero => simp [lsnsFrom]
    | succ n =>
      rw [ih (a - 1) (by omega), show a - 1 + 1 - (n + 1) = a + 1 - (n + 1 + 1) by omega,
        show a + 1 - (n + 1 + 1) + 1 * (n + 1) = a by omega]
      rfl

section

variable {b : ClientReadStreamCircularBuffer Record Sender}

lemma capacity_eq : b.capacity = b.buffer_.size_ := rfl

lemma capacity_pos : 0 < b.capacity := Nat.zero_lt_of_lt b.buffer_.front_lt

@[simp] lemma buffer_head_write (p : Nat) (w : RecordState Record Sender → RecordState Record Sender) :
    (b.write p w).buffer_head_ = b.buffer_head_ := rfl

@[simp] lemma capacity_write (p : Nat) (w : RecordState Record Sender → RecordState Record Sender) :
    (b.write p w).capacity = b.capacity := rfl

lemma buffer_write (p : Nat) (w : RecordState Record Sender → RecordState Record Sender) :
    (b.write p w).buffer_ = b.buffer_.setAt p (w (b.buffer_.raw p)) := rfl

lemma view_of_mem {n : Nat} (h₁ : b.buffer_head_.toNat ≤ n)
    (h₂ : n < b.buffer_head_.toNat + b.capacity) :
    b.view n = b.buffer_.slot (n - b.buffer_head_.toNat) := by
  rw [view, if_pos ⟨h₁, h₂⟩]

lemma view_of_not_mem {n : Nat} (h : ¬(b.buffer_head_.toNat ≤ n ∧ n < b.buffer_head_.toNat + b.capacity)) :
    b.view n = default := by
  rw [view, if_neg h]

/-- The index of an LSN from the head on is its distance from the head. -/
lemma getIndex_eq {lsn : Lsn} (h : b.buffer_head_.toNat ≤ lsn.toNat) :
    b.getIndex lsn = lsn.toNat - b.buffer_head_.toNat :=
  UInt64.toNat_sub_of_le _ _ (UInt64.le_iff_toNat_le.mpr h)

variable (hcap : b.capacity ≤ 2 ^ 31)
include hcap

/-- The slot of an LSN of the buffer. -/
lemma slotOf_eq {lsn : Lsn} (h₁ : b.buffer_head_.toNat ≤ lsn.toNat)
    (h₂ : lsn.toNat < b.buffer_head_.toNat + b.capacity) :
    b.slotOf lsn = (b.buffer_.front_ + (lsn.toNat - b.buffer_head_.toNat)) % b.capacity := by
  have hidx : lsn.toNat - b.buffer_head_.toNat < b.capacity := by omega
  rw [slotOf, getIndex_eq h₁, intIndex_of_lt (by omega), ptr_eq _ hidx]
  rfl

/-- `buffer_[getIndex(lsn)]` is the state of the LSN. -/
lemma get_getIndex {lsn : Lsn} (h₁ : b.buffer_head_.toNat ≤ lsn.toNat)
    (h₂ : lsn.toNat < b.buffer_head_.toNat + b.capacity) :
    b.buffer_.get (b.getIndex lsn) = b.view lsn.toNat := by
  have hidx : lsn.toNat - b.buffer_head_.toNat < b.capacity := by omega
  rw [getIndex_eq h₁, get_eq_slot _ hidx (by omega), view_of_mem h₁ h₂]

lemma raw_slotOf {lsn : Lsn} (h₁ : b.buffer_head_.toNat ≤ lsn.toNat)
    (h₂ : lsn.toNat < b.buffer_head_.toNat + b.capacity) :
    b.buffer_.raw (b.slotOf lsn) = b.view lsn.toNat := by
  rw [slotOf_eq hcap h₁ h₂, view_of_mem h₁ h₂]
  rfl

omit hcap in
/-- A write into element `i` changes the state of the LSN `i` after the head, and no other. -/
lemma view_write {i : Nat} (hi : i < b.capacity) (w : RecordState Record Sender → RecordState Record Sender) :
    (b.write ((b.buffer_.front_ + i) % b.capacity) w).view =
      Function.update b.view (b.buffer_head_.toNat + i) (w (b.view (b.buffer_head_.toNat + i))) := by
  funext n
  have hslot : b.buffer_.raw ((b.buffer_.front_ + i) % b.capacity) =
      b.view (b.buffer_head_.toNat + i) := by
    rw [view_of_mem (by omega) (by omega), Nat.add_sub_cancel_left]
    rfl
  rw [view, buffer_head_write, capacity_write, buffer_write, hslot]
  rw [capacity_eq] at hi ⊢
  split_ifs with hn
  · rw [slot_setAt _ hi (by omega)]
    by_cases hni : n = b.buffer_head_.toNat + i
    · rw [if_pos (by omega), hni, Function.update_self]
    · rw [if_neg (by omega), Function.update_of_ne hni, view_of_mem hn.1 hn.2]
  · rw [Function.update_of_ne (fun h => hn (by omega)), view_of_not_mem hn]

/-- A write through the pointer to an LSN of the buffer changes that LSN's state. -/
lemma view_write_slotOf {lsn : Lsn} (h₁ : b.buffer_head_.toNat ≤ lsn.toNat)
    (h₂ : lsn.toNat < b.buffer_head_.toNat + b.capacity)
    (w : RecordState Record Sender → RecordState Record Sender) :
    (b.write (b.slotOf lsn) w).view =
      Function.update b.view lsn.toNat (w (b.view lsn.toNat)) := by
  rw [slotOf_eq hcap h₁ h₂, view_write (by omega), Nat.add_sub_cancel' h₁]

omit hcap in
/-- The front is the state of the head. -/
lemma front_eq_view : b.buffer_.front = b.view b.buffer_head_.toNat := by
  rw [front_eq_slot, view_of_mem le_rfl (by have := capacity_pos (b := b); omega), Nat.sub_self]

omit hcap in
/-- A write through the pointer to the front changes the head's state. -/
lemma view_write_front (w : RecordState Record Sender → RecordState Record Sender) :
    (b.write b.buffer_.front_ w).view =
      Function.update b.view b.buffer_head_.toNat (w (b.view b.buffer_head_.toNat)) := by
  have h := view_write (b := b) (capacity_pos (b := b)) w
  rwa [Nat.add_zero, Nat.add_zero, capacity_eq, Nat.mod_eq_of_lt b.buffer_.front_lt] at h

omit hcap in
/-- `popFront` resets the head's state. -/
lemma view_popFront :
    b.popFront.view = Function.update b.view b.buffer_head_.toNat (b.view b.buffer_head_.toNat).reset :=
  view_write_front (b := b) reset

/-- `clear` resets every state of the buffer. -/
lemma view_clear (n : Nat) :
    b.clear.view n =
      if b.buffer_head_.toNat ≤ n ∧ n < b.buffer_head_.toNat + b.capacity then (b.view n).reset
      else default := by
  obtain ⟨hsize, -, hslot⟩ := slot_foldl_modify reset b.buffer_ hcap b.buffer_.size_ le_rfl
  have hhead : b.clear.buffer_head_ = b.buffer_head_ := rfl
  have hcapacity : b.clear.capacity = b.capacity := hsize
  have hreset : ∀ j < b.capacity, b.clear.buffer_.slot j = (b.buffer_.slot j).reset :=
    fun j hj => (hslot j hj).trans (if_pos hj)
  rw [view, hhead, hcapacity]
  split_ifs with hn
  · rw [hreset _ (by omega), view_of_mem hn.1 hn.2]
  · rfl

omit hcap in
/-- After `advanceBufferHead(offset)`, the state of an LSN is read from the rotated array. -/
lemma view_advanceBufferHead (offset n : Nat) :
    (b.advanceBufferHead offset).view n =
      if (b.buffer_head_ + UInt64.ofNat offset).toNat ≤ n ∧
          n < (b.buffer_head_ + UInt64.ofNat offset).toNat + b.capacity then
        b.buffer_.slot ((n - (b.buffer_head_ + UInt64.ofNat offset).toNat + offset) % b.capacity)
      else default := by
  simp only [view, advanceBufferHead, capacity, size_rotate, slot_rotate]
  rfl

/-- The loop of `findFirstMarker` returns nothing where no element it looks at has a marker. -/
lemma findFirstMarkerFrom_none (n i : Nat) (hn : i + n ≤ b.capacity)
    (h : ∀ j, i ≤ j → j < i + n → (b.buffer_.slot j).hasMarker = false) :
    b.findFirstMarkerFrom n i = (none, LSN_INVALID) := by
  induction n generalizing i with
  | zero => rfl
  | succ n ih =>
    have hget : b.buffer_.get i = b.buffer_.slot i := get_eq_slot _ (by simp [capacity] at hn; omega)
      (by omega)
    rw [findFirstMarkerFrom, hget, if_neg (by simp [h i le_rfl (by omega)])]
    exact ih (i + 1) (by omega) fun j hj hj' => h j (by omega) (by omega)

/-- The loop of `findFirstMarker` returns the first element it looks at with a marker. -/
lemma findFirstMarkerFrom_some (n i j : Nat) (hn : i + n ≤ b.capacity) (hij : i ≤ j)
    (hj : j < i + n) (hbefore : ∀ j', i ≤ j' → j' < j → (b.buffer_.slot j').hasMarker = false)
    (hmark : (b.buffer_.slot j).hasMarker = true) :
    b.findFirstMarkerFrom n i = (some ((b.buffer_.front_ + j) % b.capacity), b.getLSN j) := by
  induction n generalizing i with
  | zero => omega
  | succ n ih =>
    have hi : i < b.buffer_.size_ := by simp [capacity] at hn; omega
    have hget : b.buffer_.get i = b.buffer_.slot i := get_eq_slot _ hi (by omega)
    rw [findFirstMarkerFrom, hget]
    by_cases hji : j = i
    · subst hji
      rw [if_pos hmark, intIndex_of_lt (by omega), ptr_eq _ hi]
      rfl
    · rw [if_neg (by simp [hbefore i le_rfl (by omega)])]
      exact ih (i + 1) (by omega) (by omega) (by omega) fun j' h₁ h₂ => hbefore j' (by omega) h₂

end

/-- One step of the loop moves the LSN by one, without wrapping, while LSNs are left to visit. -/
lemma toNat_step {reverse : Bool} {from_lsn : Lsn} {n : Nat}
    (hfit : if reverse then n + 1 ≤ from_lsn.toNat + 1 else from_lsn.toNat + (n + 1) ≤ 2 ^ 64)
    (hn : 0 < n) :
    (if reverse then from_lsn - 1 else from_lsn + 1).toNat =
      if reverse then from_lsn.toNat - 1 else from_lsn.toNat + 1 := by
  have hlt := from_lsn.toNat_lt
  cases reverse with
  | true =>
    simp only [if_true] at hfit ⊢
    have hle : (1 : Lsn) ≤ from_lsn := UInt64.le_iff_toNat_le.mpr (by simp only [UInt64.toNat_one]; omega)
    rw [UInt64.toNat_sub_of_le _ _ hle, UInt64.toNat_one]
  | false =>
    simp only [Bool.false_eq_true, if_false] at hfit ⊢
    rw [UInt64.toNat_add, UInt64.toNat_one, Nat.mod_eq_of_lt (by omega)]

/-- The loop of `forEach` is `visit` over the values of the LSNs it goes through, all in the
buffer: it gives the callback the same states, leaves the same views, and keeps the head. -/
lemma forEachLoop_eq_visit (reverse : Bool)
    (cb : Lsn → RecordState Record Sender → Bool × RecordState Record Sender) (n : Nat) :
    ∀ (from_lsn : Lsn) (b : ClientReadStreamCircularBuffer Record Sender),
      b.capacity ≤ 2 ^ 31 →
      (if reverse then n ≤ from_lsn.toNat + 1 else from_lsn.toNat + n ≤ 2 ^ 64) →
      (∀ q ∈ lsnsFrom reverse from_lsn.toNat n,
        b.buffer_head_.toNat ≤ q ∧ q < b.buffer_head_.toNat + b.capacity) →
      (forEachLoop reverse cb n from_lsn b).1 =
          lsnCalls (visit (callbackAt cb) (lsnsFrom reverse from_lsn.toNat n) b.view).1 ∧
        (forEachLoop reverse cb n from_lsn b).2.view =
          (visit (callbackAt cb) (lsnsFrom reverse from_lsn.toNat n) b.view).2 ∧
        (forEachLoop reverse cb n from_lsn b).2.buffer_head_ = b.buffer_head_ ∧
        (forEachLoop reverse cb n from_lsn b).2.capacity = b.capacity := by
  induction n with
  | zero => intro from_lsn b _ _ _; exact ⟨rfl, rfl, rfl, rfl⟩
  | succ n ih =>
    intro from_lsn b hcap hfit hrange
    obtain ⟨h₁, h₂⟩ := hrange from_lsn.toNat List.mem_cons_self
    -- the callback gets the state of `from`, and the write leaves its result there
    have hs : b.buffer_.get (b.getIndex from_lsn) = b.view from_lsn.toNat := get_getIndex hcap h₁ h₂
    have hcb : cb from_lsn (b.view from_lsn.toNat) =
        callbackAt cb from_lsn.toNat (b.view from_lsn.toNat) := by
      rw [callbackAt, UInt64.ofNat_toNat]
    rw [lsnsFrom] at hrange ⊢
    simp only [forEachLoop, hs, hcb]
    set r := callbackAt cb from_lsn.toNat (b.view from_lsn.toNat) with hr
    set next := if reverse then from_lsn - 1 else from_lsn + 1 with hnext
    set b' := b.write (b.slotOf from_lsn) fun _ => r.2 with hb'
    have hview' : b'.view = Function.update b.view from_lsn.toNat r.2 :=
      view_write_slotOf hcap h₁ h₂ _
    -- the next LSN has the next value, while there is one
    have hnext_lsns : lsnsFrom reverse next.toNat n =
        lsnsFrom reverse (if reverse then from_lsn.toNat - 1 else from_lsn.toNat + 1) n := by
      rcases Nat.eq_zero_or_pos n with rfl | hn
      · rfl
      · have hval : next.toNat = if reverse then from_lsn.toNat - 1 else from_lsn.toNat + 1 :=
          toNat_step hfit hn
        rw [hval]
    have hfit' : if reverse then n ≤ next.toNat + 1 else next.toNat + n ≤ 2 ^ 64 := by
      have hlt := next.toNat_lt
      rcases Nat.eq_zero_or_pos n with rfl | hn
      · split_ifs <;> omega
      · have hval : next.toNat = if reverse then from_lsn.toNat - 1 else from_lsn.toNat + 1 :=
          toNat_step hfit hn
        rw [hval]
        split_ifs at hfit ⊢ <;> omega
    by_cases hgo : r.1 = true
    · rw [if_pos hgo, visit_cons_of_continue hgo]
      obtain ⟨hcalls, hviews, hhead, hcapacity⟩ := ih next b' hcap hfit' (by
        rw [hnext_lsns]
        exact fun q hq => hrange q (List.mem_cons_of_mem _ hq))
      rw [hnext_lsns, hview'] at hcalls hviews
      refine ⟨?_, hviews, hhead, hcapacity⟩
      rw [hcalls]
      simp [lsnCalls, hr]
    · rw [if_neg hgo, visit_cons_of_stop (Bool.eq_false_iff.mpr hgo)]
      exact ⟨by simp [lsnCalls], hview', rfl, rfl⟩

/-- `forEach` between two LSNs of the buffer is `visit` over the values from `from` to `to`,
downwards where `from > to`. -/
lemma forEach_eq_visit (b : ClientReadStreamCircularBuffer Record Sender) (hcap : b.capacity ≤ 2 ^ 31)
    {from_lsn to_lsn : Lsn}
    (hfrom : b.buffer_head_.toNat ≤ from_lsn.toNat ∧
      from_lsn.toNat < b.buffer_head_.toNat + b.capacity)
    (hto : b.buffer_head_.toNat ≤ to_lsn.toNat ∧ to_lsn.toNat < b.buffer_head_.toNat + b.capacity)
    (cb : Lsn → RecordState Record Sender → Bool × RecordState Record Sender) :
    let lsns := if to_lsn.toNat < from_lsn.toNat then
        (List.range' to_lsn.toNat (from_lsn.toNat - to_lsn.toNat + 1)).reverse
      else List.range' from_lsn.toNat (to_lsn.toNat - from_lsn.toNat + 1)
    (b.forEach from_lsn to_lsn cb).1 = lsnCalls (visit (callbackAt cb) lsns b.view).1 ∧
      (b.forEach from_lsn to_lsn cb).2.view = (visit (callbackAt cb) lsns b.view).2 ∧
      (b.forEach from_lsn to_lsn cb).2.buffer_head_ = b.buffer_head_ ∧
      (b.forEach from_lsn to_lsn cb).2.capacity = b.capacity := by
  intro lsns
  have hf := from_lsn.toNat_lt
  have ht := to_lsn.toNat_lt
  unfold forEach
  by_cases hrev : to_lsn.toNat < from_lsn.toNat
  · -- downwards: `from - to + 1` LSNs, all of them in the buffer
    have hgt : from_lsn > to_lsn := UInt64.lt_iff_toNat_lt.mpr hrev
    have hcount : (from_lsn - to_lsn + 1).toNat = from_lsn.toNat - to_lsn.toNat + 1 := by
      rw [UInt64.toNat_add, UInt64.toNat_sub_of_le _ _ (UInt64.le_of_lt hgt), UInt64.toNat_one,
        Nat.mod_eq_of_lt (by omega)]
    have hlsns : lsnsFrom true from_lsn.toNat (from_lsn.toNat - to_lsn.toNat + 1) = lsns := by
      rw [lsnsFrom_true _ _ (by omega), show from_lsn.toNat + 1 -
        (from_lsn.toNat - to_lsn.toNat + 1) = to_lsn.toNat by omega]
      simp [lsns, hrev]
    simp only [hgt, decide_true, if_true, hcount, Nat.min_eq_left (by omega : from_lsn.toNat -
      to_lsn.toNat + 1 ≤ b.capacity)]
    rw [← hlsns]
    refine forEachLoop_eq_visit true cb _ from_lsn b hcap (by simp) fun q hq => ?_
    rw [hlsns] at hq
    simp only [lsns, if_pos hrev, List.mem_reverse, List.mem_range'_1] at hq
    omega
  · -- upwards: `to - from + 1` LSNs
    have hle : from_lsn ≤ to_lsn := UInt64.le_iff_toNat_le.mpr (by omega)
    have hngt : ¬ from_lsn > to_lsn := fun h => hrev (UInt64.lt_iff_toNat_lt.mp h)
    have hcount : (to_lsn - from_lsn + 1).toNat = to_lsn.toNat - from_lsn.toNat + 1 := by
      rw [UInt64.toNat_add, UInt64.toNat_sub_of_le _ _ hle, UInt64.toNat_one,
        Nat.mod_eq_of_lt (by omega)]
    have hlsns : lsnsFrom false from_lsn.toNat (to_lsn.toNat - from_lsn.toNat + 1) = lsns := by
      rw [lsnsFrom_false]
      simp [lsns, hrev]
    simp only [hngt, decide_false, Bool.false_eq_true, if_false, hcount,
      Nat.min_eq_left (by omega : to_lsn.toNat - from_lsn.toNat + 1 ≤ b.capacity)]
    rw [← hlsns]
    refine forEachLoop_eq_visit false cb _ from_lsn b hcap (by simp; omega) fun q hq => ?_
    rw [hlsns] at hq
    simp only [lsns, if_neg hrev, List.mem_range'_1] at hq
    omega

section Head

variable {b : ClientReadStreamCircularBuffer Record Sender}

/-- Element `j` is the state of the LSN `j` after the head. -/
lemma slot_eq_view {j : Nat} (hj : j < b.capacity) :
    b.buffer_.slot j = b.view (b.buffer_head_.toNat + j) := by
  rw [view_of_mem (by omega) (by omega), Nat.add_sub_cancel_left]

/-- `getLSN` of the distance of an LSN from the head is that LSN. -/
lemma getLSN_eq {k : Nat} (h₁ : b.buffer_head_.toNat ≤ k) (h₂ : k < 2 ^ 64) :
    b.getLSN (k - b.buffer_head_.toNat) = UInt64.ofNat k := by
  apply UInt64.toNat_inj.mp
  rw [getLSN, UInt64.toNat_add, UInt64.toNat_ofNat', UInt64.toNat_ofNat',
    Nat.mod_eq_of_lt (show k - b.buffer_head_.toNat < 2 ^ 64 by omega), Nat.add_sub_cancel' h₁]

/-- The bound `findFirstMarker` puts on its loop so as not to pass `LSN_MAX`. -/
lemma toNat_findFirstMarker_limit (h : Lsn) :
    (LSN_MAX - max h 1 + 1).toNat = 2 ^ 64 - max h.toNat 1 := by
  have hmax : (max h 1).toNat = max h.toNat 1 := by simp [UInt64.toNat_max]
  have hlt := h.toNat_lt
  rw [UInt64.toNat_add, UInt64.toNat_sub_of_le _ _ (UInt64.le_iff_toNat_le.mpr (by
    rw [hmax, toNat_LSN_MAX]; omega)), hmax, toNat_LSN_MAX, UInt64.toNat_one]
  omega

lemma capacity_clear (hcap : b.capacity ≤ 2 ^ 31) : b.clear.capacity = b.capacity :=
  (slot_foldl_modify reset b.buffer_ hcap b.buffer_.size_ le_rfl).1

/-- After `advanceBufferHead`, every state is the default one or a state the buffer held. -/
lemma view_advanceBufferHead_mem (offset n : Nat) :
    (b.advanceBufferHead offset).view n = default ∨
      ∃ j < b.capacity,
        (b.advanceBufferHead offset).view n = b.view (b.buffer_head_.toNat + j) := by
  have hpos := capacity_pos (b := b)
  rw [view_advanceBufferHead]
  split_ifs
  · exact .inr ⟨_, Nat.mod_lt _ hpos, slot_eq_view (Nat.mod_lt _ hpos)⟩
  · exact .inl rfl

/-- Advancing by no more than the capacity, without passing `LSN_MAX`: the LSNs still in the
buffer keep their states, and the elements that went round the end hold the states of the LSNs
advanced over. -/
lemma view_advanceBufferHead_of_le {offset : Nat} (hoff : offset ≤ b.capacity)
    (hfit : b.buffer_head_.toNat + offset < 2 ^ 64) (n : Nat) :
    (b.advanceBufferHead offset).view n =
      if b.buffer_head_.toNat + offset ≤ n ∧ n < b.buffer_head_.toNat + b.capacity then b.view n
      else if b.buffer_head_.toNat + b.capacity ≤ n ∧
          n < b.buffer_head_.toNat + offset + b.capacity then b.view (n - b.capacity)
      else default := by
  have hhead : (b.buffer_head_ + UInt64.ofNat offset).toNat = b.buffer_head_.toNat + offset := by
    rw [UInt64.toNat_add, UInt64.toNat_ofNat', Nat.mod_eq_of_lt (show offset < 2 ^ 64 by omega),
      Nat.mod_eq_of_lt hfit]
  have hpos := capacity_pos (b := b)
  rw [view_advanceBufferHead, hhead]
  by_cases h₁ : b.buffer_head_.toNat + offset ≤ n ∧ n < b.buffer_head_.toNat + b.capacity
  · -- still in the buffer: the element `n - head` as before
    rw [if_pos ⟨h₁.1, by omega⟩, if_pos h₁,
      show n - (b.buffer_head_.toNat + offset) + offset = n - b.buffer_head_.toNat by omega,
      Nat.mod_eq_of_lt (by omega), view_of_mem (by omega) h₁.2]
  · by_cases h₂ : b.buffer_head_.toNat + b.capacity ≤ n ∧
        n < b.buffer_head_.toNat + offset + b.capacity
    · -- round the end: the element of the LSN a capacity before
      have hidx : (n - (b.buffer_head_.toNat + offset) + offset) % b.capacity =
          n - b.capacity - b.buffer_head_.toNat := by
        rw [show n - (b.buffer_head_.toNat + offset) + offset =
          n - b.capacity - b.buffer_head_.toNat + b.capacity by omega, Nat.add_mod_right,
          Nat.mod_eq_of_lt (by omega)]
      rw [if_pos ⟨by omega, by omega⟩, if_neg h₁, if_pos h₂, hidx, view_of_mem (by omega) (by omega)]
    · rw [if_neg (by omega), if_neg h₁, if_neg h₂]

end Head

end ClientReadStreamCircularBuffer

end LogDevice
