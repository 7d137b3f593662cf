import LogDevice.ClientReadStream.Buffer
import LogDevice.Lib.Ring

/-!
# The circular buffer of a client read stream

`CircularBuffer<T>` (`common/CircularBuffer.h`) is an array of `size_` slots read from the slot
`front_`: element `idx` is `idx` slots after it, round the end (`ptr`). `rotate(n)` moves the front
`n` slots on. Element `idx` is slot `(front_ + idx) % size_` (`ptr_eq`), so the elements in order
are `slot 0, slot 1, …` (`slot`); writing an element changes only that one (`slot_setAt`), and
rotating by `n` makes element `j` the old element `(j + n) % size_` (`slot_rotate`).
`operator[]` takes an `int`: an index of `2 ^ 31` or more does not survive the conversion
(`intIndex`), so the buffers below are exact for capacities up to `2 ^ 31`.

`ClientReadStreamCircularBuffer` (`common/client_read_stream/ClientReadStreamCircularBuffer.cpp`)
keeps the state of LSN `buffer_head_ + i` in element `i`. A pointer it returns is modelled as the
slot it points to, an offset from `raw_begin_`. Its `findFirstMarker` and `forEach` loops are
`findFirstMarkerFrom` and `forEachLoop`, and `call` is the interface of
`LogDevice.ClientReadStream.Buffer` with the caller's write through a returned pointer.
-/

namespace LogDevice

/-- `CircularBuffer<T>`: `size_` slots (`raw` at the offset `i` from `raw_begin_`) and the front,
as an offset from `raw_begin_`. -/
structure CircularBuffer (T : Type) where
  size_ : Nat
  raw : Nat → T
  front_ : Nat
  front_lt : front_ < size_

namespace CircularBuffer

variable {T : Type}

/-- `CircularBuffer(n)`: `n` default slots, the front at the first. -/
def init [Inhabited T] (n : Nat) (hn : 0 < n) : CircularBuffer T :=
  ⟨n, fun _ => default, 0, hn⟩

/-- `ptr(idx)`: the slot of element `idx`, `idx` slots after the front, round the end. -/
def ptr (c : CircularBuffer T) (idx : Nat) : Nat :=
  if c.front_ < c.size_ - idx then c.front_ + idx else c.front_ - (c.size_ - idx)

/-- An index given to the `int` parameter of `operator[]` and read back as the `size_t` of `ptr`:
its low 32 bits, sign-extended to 64. -/
def intIndex (idx : Nat) : Nat :=
  if idx % 2 ^ 32 < 2 ^ 31 then idx % 2 ^ 32 else idx % 2 ^ 32 + (2 ^ 64 - 2 ^ 32)

/-- `operator[](idx)`. -/
def get (c : CircularBuffer T) (idx : Nat) : T :=
  c.raw (c.ptr (intIndex idx))

/-- `front()`. -/
def front (c : CircularBuffer T) : T :=
  c.raw c.front_

/-- The slot at the offset `p` from `raw_begin_` overwritten, through a reference into it. -/
def setAt (c : CircularBuffer T) (p : Nat) (v : T) : CircularBuffer T :=
  { c with raw := Function.update c.raw p v }

/-- `rotate(n)`: the new front offset, `n % size_` slots on, round the end. -/
def rotateFront (c : CircularBuffer T) (n : Nat) : Nat :=
  let n := if n ≥ c.size_ then n % c.size_ else n
  let d := c.size_ - c.front_
  if n < d then c.front_ + n else n - d

lemma rotateFront_eq (c : CircularBuffer T) (n : Nat) :
    c.rotateFront n = (c.front_ + n) % c.size_ := by
  have hlt := c.front_lt
  -- the reduced `n` is below `size_`; the front moves by it, once round the end at most
  have hred : (if n ≥ c.size_ then n % c.size_ else n) = n % c.size_ := by
    split_ifs with h
    · rfl
    · exact (Nat.mod_eq_of_lt (by omega)).symm
  have hmod := Nat.mod_lt n (by omega : 0 < c.size_)
  have hsum : (c.front_ + n) % c.size_ = (c.front_ + n % c.size_) % c.size_ := by
    rw [Nat.add_mod, Nat.mod_eq_of_lt hlt]
  simp only [rotateFront]
  rw [hred, hsum]
  generalize n % c.size_ = m at hmod ⊢
  split_ifs with h
  · exact (Nat.mod_eq_of_lt (by omega)).symm
  · rw [Nat.mod_eq_sub_mod (by omega), Nat.mod_eq_of_lt (by omega)]
    omega

/-- `rotate(n)`. -/
def rotate (c : CircularBuffer T) (n : Nat) : CircularBuffer T :=
  { c with
    front_ := c.rotateFront n
    front_lt := by rw [rotateFront_eq]; exact Nat.mod_lt _ (by have := c.front_lt; omega) }

/-! ### The elements in order -/

/-- Element `j`, `j` slots after the front. -/
def slot (c : CircularBuffer T) (j : Nat) : T :=
  c.raw ((c.front_ + j) % c.size_)

lemma ptr_eq (c : CircularBuffer T) {idx : Nat} (h : idx < c.size_) :
    c.ptr idx = (c.front_ + idx) % c.size_ := by
  have hlt := c.front_lt
  unfold ptr
  split_ifs with hwrap
  · exact (Nat.mod_eq_of_lt (by omega)).symm
  · rw [Nat.mod_eq_sub_mod (by omega), Nat.mod_eq_of_lt (by omega)]
    omega

lemma intIndex_of_lt {idx : Nat} (h : idx < 2 ^ 31) : intIndex idx = idx := by
  have hmod : idx % 2 ^ 32 = idx := Nat.mod_eq_of_lt (by omega)
  rw [intIndex, hmod, if_pos h]

/-- `operator[]` reads element `idx` where `idx` fits an `int`. -/
lemma get_eq_slot (c : CircularBuffer T) {idx : Nat} (h : idx < c.size_) (h' : idx < 2 ^ 31) :
    c.get idx = c.slot idx := by
  rw [get, intIndex_of_lt h', ptr_eq c h, slot]

lemma front_eq_slot (c : CircularBuffer T) : c.front = c.slot 0 := by
  rw [front, slot, Nat.add_zero, Nat.mod_eq_of_lt c.front_lt]

/-- Writing the slot of element `i` changes element `i` only. -/
lemma slot_setAt (c : CircularBuffer T) {i j : Nat} (hi : i < c.size_) (hj : j < c.size_)
    (v : T) :
    (c.setAt ((c.front_ + i) % c.size_) v).slot j = if j = i then v else c.slot j := by
  simp only [slot, setAt]
  split_ifs with hji
  · rw [hji, Function.update_self]
  · exact Function.update_of_ne (fun h => hji (Lib.add_mod_inj hj hi h)) _ _

/-- After `rotate(n)`, element `j` is the old element `(j + n) % size_`. -/
lemma slot_rotate (c : CircularBuffer T) (n : Nat) {j : Nat} :
    (c.rotate n).slot j = c.slot ((j + n) % c.size_) := by
  simp only [slot, rotate, rotateFront_eq]
  rw [Nat.mod_add_mod, Nat.add_assoc, Nat.add_comm n j, Nat.add_mod_mod]

@[simp] lemma size_setAt (c : CircularBuffer T) (p : Nat) (v : T) : (c.setAt p v).size_ = c.size_ :=
  rfl

@[simp] lemma front_setAt (c : CircularBuffer T) (p : Nat) (v : T) :
    (c.setAt p v).front_ = c.front_ := rfl

@[simp] lemma size_rotate (c : CircularBuffer T) (n : Nat) : (c.rotate n).size_ = c.size_ := rfl

/-- `operator[](idx) = v`: element `idx` overwritten through the reference `operator[]` returns. -/
def set (c : CircularBuffer T) (idx : Nat) (v : T) : CircularBuffer T :=
  c.setAt (c.ptr (intIndex idx)) v

@[simp] lemma size_set (c : CircularBuffer T) (idx : Nat) (v : T) : (c.set idx v).size_ = c.size_ :=
  rfl

/-- Writing element `i`, where `i` fits an `int`, changes element `i` only. -/
lemma slot_set (c : CircularBuffer T) {i j : Nat} (hi : i < c.size_) (hi' : i < 2 ^ 31)
    (hj : j < c.size_) (v : T) : (c.set i v).slot j = if j = i then v else c.slot j := by
  rw [set, intIndex_of_lt hi', ptr_eq c hi]
  exact c.slot_setAt hi hj v

/-! ### The weight of what the slots hold -/

/-- The total weight `w` of the values held in the `size_` slots, whatever their order. -/
def weight (c : CircularBuffer (Option T)) (w : T → Nat) : Nat :=
  ∑ k ∈ Finset.range c.size_, ((c.raw k).map w).getD 0

/-- Overwriting a slot trades the weight of what it held for that of the new value. -/
lemma weight_setAt (c : CircularBuffer (Option T)) (w : T → Nat) {p : Nat} (hp : p < c.size_)
    (v : Option T) :
    (c.setAt p v).weight w + ((c.raw p).map w).getD 0 = c.weight w + (v.map w).getD 0 := by
  have hmem : p ∈ Finset.range c.size_ := Finset.mem_range.mpr hp
  -- the other slots keep their values
  have hrest : ∑ k ∈ (Finset.range c.size_).erase p, ((Function.update c.raw p v k).map w).getD 0 =
      ∑ k ∈ (Finset.range c.size_).erase p, ((c.raw k).map w).getD 0 :=
    Finset.sum_congr rfl fun k hk => by rw [Function.update_of_ne (Finset.ne_of_mem_erase hk)]
  simp only [weight, setAt]
  rw [← Finset.add_sum_erase _ _ hmem, ← Finset.add_sum_erase _ _ hmem, hrest,
    Function.update_self]
  omega

/-- Writing element `i` trades the weight of what it held for that of the new value. -/
lemma weight_set (c : CircularBuffer (Option T)) (w : T → Nat) {i : Nat} (hi : i < c.size_)
    (hi' : i < 2 ^ 31) (v : Option T) :
    (c.set i v).weight w + ((c.slot i).map w).getD 0 = c.weight w + (v.map w).getD 0 := by
  have hp : (c.front_ + i) % c.size_ < c.size_ := Nat.mod_lt _ (by omega)
  rw [set, intIndex_of_lt hi', ptr_eq c hi]
  exact c.weight_setAt w hp v

@[simp] lemma weight_rotate (c : CircularBuffer (Option T)) (w : T → Nat) (n : Nat) :
    (c.rotate n).weight w = c.weight w := rfl

end CircularBuffer

/-- `ClientReadStreamCircularBuffer`: the state of LSN `buffer_head_ + i` is element `i`. -/
structure ClientReadStreamCircularBuffer (Record Sender : Type) where
  buffer_ : CircularBuffer (RecordState Record Sender)
  buffer_head_ : Lsn

namespace ClientReadStreamCircularBuffer

open ClientReadStreamRecordState ClientReadStreamBuffer CircularBuffer

variable {Record Sender : Type}

/-- `ClientReadStreamCircularBuffer(capacity, buffer_head)`. -/
def init (capacity : Nat) (buffer_head : Lsn) (h : 0 < capacity) :
    ClientReadStreamCircularBuffer Record Sender :=
  ⟨CircularBuffer.init capacity h, buffer_head⟩

section

variable (b : ClientReadStreamCircularBuffer Record Sender)

/-- `capacity()`. -/
def capacity : Nat := b.buffer_.size_

/-- `LSNInBuffer(lsn)` of the interface, at this buffer's head and capacity. -/
def LSNInBuffer (lsn : Lsn) : Bool :=
  ClientReadStreamBuffer.LSNInBuffer b.buffer_head_ b.capacity lsn

/-- `getIndex(lsn)`. -/
def getIndex (lsn : Lsn) : Nat := (lsn - b.buffer_head_).toNat

/-- `getLSN(index)`. -/
def getLSN (index : Nat) : Lsn := b.buffer_head_ + UInt64.ofNat index

/-- The slot `&buffer_[getIndex(lsn)]` points to. -/
def slotOf (lsn : Lsn) : Nat := b.buffer_.ptr (intIndex (b.getIndex lsn))

/-- The state at a slot changed by the caller, through the pointer to it. -/
def write (p : Nat) (w : RecordState Record Sender → RecordState Record Sender) :
    ClientReadStreamCircularBuffer Record Sender :=
  { b with buffer_ := b.buffer_.setAt p (w (b.buffer_.raw p)) }

/-- `createOrGet(lsn)`. -/
def createOrGet (lsn : Lsn) : Option Nat :=
  if !b.LSNInBuffer lsn then none else some (b.slotOf lsn)

/-- `find(lsn)`: `nullptr` for a placeholder without a marker. -/
def find (lsn : Lsn) : Option Nat :=
  if !b.LSNInBuffer lsn then none
  else if !(b.buffer_.raw (b.slotOf lsn)).hasMarker then none
  else some (b.slotOf lsn)

/-- The loop of `findFirstMarker()` from the index `i`, with `n` indices left below `limit`. -/
def findFirstMarkerFrom : Nat → Nat → Option Nat × Lsn
  | 0, _ => (none, LSN_INVALID)
  | n + 1, i =>
    if (b.buffer_.get i).hasMarker then (some (b.buffer_.ptr (intIndex i)), b.getLSN i)
    else findFirstMarkerFrom n (i + 1)

/-- `findFirstMarker()`: no further than the capacity, nor past `LSN_MAX`. -/
def findFirstMarker : Option Nat × Lsn :=
  b.findFirstMarkerFrom (min b.capacity (LSN_MAX - max b.buffer_head_ 1 + 1).toNat) 0

/-- `front()`. -/
def front : Option Nat :=
  if b.buffer_.front.hasMarker then some b.buffer_.front_ else none

/-- `popFront()`. -/
def popFront : ClientReadStreamCircularBuffer Record Sender :=
  { b with buffer_ := b.buffer_.setAt b.buffer_.front_ b.buffer_.front.reset }

/-- `advanceBufferHead(offset)`. -/
def advanceBufferHead (offset : Nat) : ClientReadStreamCircularBuffer Record Sender :=
  { buffer_ := b.buffer_.rotate offset, buffer_head_ := b.buffer_head_ + UInt64.ofNat offset }

/-- `clear()`: `buffer_[i].reset()` for every index. -/
def clear : ClientReadStreamCircularBuffer Record Sender :=
  let buffer := (List.range b.buffer_.size_).foldl
    (fun c i => c.setAt (c.ptr (intIndex i)) (c.get i).reset) b.buffer_
  { b with buffer_ := buffer }

end

/-- The loop of `forEach`: `n` more LSNs from `from_lsn`, downwards when `reverse`. The callback
gets `buffer_[getIndex(from)]` and changes it in place; the loop stops after it returns false. -/
def forEachLoop (reverse : Bool)
    (cb : Lsn → RecordState Record Sender → Bool × RecordState Record Sender) :
    Nat → Lsn → ClientReadStreamCircularBuffer Record Sender →
      List (Lsn × RecordState Record Sender) × ClientReadStreamCircularBuffer Record Sender
  | 0, _, b => ([], b)
  | n + 1, from_lsn, b =>
    let s := b.buffer_.get (b.getIndex from_lsn)
    let r := cb from_lsn s
    let b' := b.write (b.slotOf from_lsn) fun _ => r.2
    if r.1 then
      let rest := forEachLoop reverse cb n (if reverse then from_lsn - 1 else from_lsn + 1) b'
      ((from_lsn, s) :: rest.1, rest.2)
    else ([(from_lsn, s)], b')

section

variable (b : ClientReadStreamCircularBuffer Record Sender)

/-- `forEach(from, to, cb)`: the LSNs from `from` to `to`, downwards where `from > to`, no more
than the capacity. -/
def forEach (from_lsn to_lsn : Lsn)
    (cb : Lsn → RecordState Record Sender → Bool × RecordState Record Sender) :
    List (Lsn × RecordState Record Sender) × ClientReadStreamCircularBuffer Record Sender :=
  let reverse := decide (from_lsn > to_lsn)
  let count := (if reverse then from_lsn - to_lsn + 1 else to_lsn - from_lsn + 1).toNat
  forEachLoop reverse cb (min count b.capacity) from_lsn b

/-- `forEachUpto(to, cb)`: `forEach` from the buffer head, with a callback that always goes on. -/
def forEachUpto (to_lsn : Lsn) (cb : Lsn → RecordState Record Sender → RecordState Record Sender) :
    List (Lsn × RecordState Record Sender) × ClientReadStreamCircularBuffer Record Sender :=
  b.forEach b.buffer_head_ to_lsn fun lsn s => (true, cb lsn s)

/-- The state at a returned pointer, and the buffer after the caller's write through it. -/
def atPointer (p : Option Nat) (w : RecordState Record Sender → RecordState Record Sender) :
    Option (RecordState Record Sender) × ClientReadStreamCircularBuffer Record Sender :=
  match p with
  | none => (none, b)
  | some p => (some (b.buffer_.raw p), b.write p w)

end

/-- A call of the interface on the buffer, with the caller's write through the pointer it returns. -/
def call : Call Record Sender → ClientReadStreamCircularBuffer Record Sender →
    Reply Record Sender × ClientReadStreamCircularBuffer Record Sender
  | .createOrGet lsn w, b => let r := b.atPointer (b.createOrGet lsn) w; (.state r.1, r.2)
  | .find lsn w, b => let r := b.atPointer (b.find lsn) w; (.state r.1, r.2)
  | .findFirstMarker w, b =>
    let r := b.atPointer b.findFirstMarker.1 w
    (.marker r.1 b.findFirstMarker.2, r.2)
  | .front w, b => let r := b.atPointer b.front w; (.state r.1, r.2)
  | .popFront, b => (.done, b.popFront)
  | .getBufferHead, b => (.head b.buffer_head_, b)
  | .advanceBufferHead offset, b => (.done, b.advanceBufferHead offset)
  | .clear, b => (.done, b.clear)
  | .forEach from_lsn to_lsn cb, b =>
    let r := b.forEach from_lsn to_lsn cb
    (.calls (markedCalls r.1), r.2)
  | .forEachUpto to_lsn cb, b =>
    let r := b.forEachUpto to_lsn cb
    (.calls (markedCalls r.1), r.2)

end ClientReadStreamCircularBuffer

end LogDevice
