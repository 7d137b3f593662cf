import LogDevice.ClientReadStream.Buffer
import LogDevice.Lib.OrderedMap

/-!
# The ordered-map buffer of a client read stream

`ClientReadStreamOrderedMapBuffer`
(`common/client_read_stream/ClientReadStreamOrderedMapBuffer.cpp`) keeps only the LSNs that have a
state, in a `std::map<lsn_t, ClientReadStreamRecordState>`: an `OrderedMap` keyed by the value of
the LSN. A pointer it returns is modelled as the key of the entry it points into.

`forEach` starts from the entry of `from`, or where there is none from `lower_bound(from)`,
stepping back one entry when going down; it then goes entry by entry, in either direction, until it
passes `to`, and erases each entry the callback leaves without a marker (`forEachLoop`). The entries
it visits are those on the right side of `from`: its loop runs over the part of the map after
`from` (`takeWhile`/`dropWhile` of the entries), backwards when going down, and the map is put back
together around the result, which keeps its order (`keys_forEachLoop_sublist`).
-/

namespace LogDevice

/-- `ClientReadStreamOrderedMapBuffer`. -/
structure ClientReadStreamOrderedMapBuffer (Record Sender : Type) where
  capacity_ : Nat
  buffer_head_ : Lsn
  map_ : Lib.OrderedMap Nat (RecordState Record Sender)

namespace ClientReadStreamOrderedMapBuffer

open ClientReadStreamRecordState ClientReadStreamBuffer

variable {Record Sender : Type}

/-- `ClientReadStreamOrderedMapBuffer(capacity, buffer_head)`. -/
def init (capacity : Nat) (buffer_head : Lsn) : ClientReadStreamOrderedMapBuffer Record Sender :=
  ⟨capacity, buffer_head, Lib.OrderedMap.empty⟩

/-- The loop of `forEach` over the entries from `it` on, in the order it visits them: it stops at
an entry past `to`, erases an entry the callback leaves without a marker, and stops after the
callback returns false. The entries left, and the calls made. -/
def forEachLoop (reverse : Bool) (to_lsn : Lsn)
    (cb : Lsn → RecordState Record Sender → Bool × RecordState Record Sender) :
    List (Nat × RecordState Record Sender) →
      List (Nat × RecordState Record Sender) × List (Lsn × RecordState Record Sender)
  | [] => ([], [])
  | (k, s) :: rest =>
    if (reverse && decide (k < to_lsn.toNat)) || (!reverse && decide (k > to_lsn.toNat)) then
      ((k, s) :: rest, [])
    else
      let r := cb (UInt64.ofNat k) s
      let kept := if r.2.hasMarker then [(k, r.2)] else []
      if r.1 then
        let rest' := forEachLoop reverse to_lsn cb rest
        (kept ++ rest'.1, (UInt64.ofNat k, s) :: rest'.2)
      else (kept ++ rest, [(UInt64.ofNat k, s)])

/-- The loop keeps entries of the keys it was given, in their order. -/
lemma keys_forEachLoop_sublist (reverse : Bool) (to_lsn : Lsn)
    (cb : Lsn → RecordState Record Sender → Bool × RecordState Record Sender)
    (l : List (Nat × RecordState Record Sender)) :
    List.Sublist ((forEachLoop reverse to_lsn cb l).1.map Prod.fst) (l.map Prod.fst) := by
  induction l with
  | nil => exact List.Sublist.slnil
  | cons e rest ih =>
    obtain ⟨k, s⟩ := e
    simp only [forEachLoop]
    -- the entry is kept, with its key, or erased
    have hkept : ∀ t : RecordState Record Sender, List.Sublist
        ((if t.hasMarker then [(k, t)] else []).map Prod.fst) [k] := by
      intro t
      split_ifs
      · exact List.Sublist.refl _
      · exact List.nil_sublist _
    by_cases hout :
        (reverse && decide (k < to_lsn.toNat) || !reverse && decide (k > to_lsn.toNat)) = true
    · rw [if_pos hout]
    rw [if_neg hout]
    by_cases hgo : (cb (UInt64.ofNat k) s).1 = true
    · rw [if_pos hgo, List.map_append]
      exact (hkept _).append ih
    · rw [if_neg hgo, List.map_append]
      exact (hkept _).append (List.Sublist.refl _)

/-- Entries before a point put back with what a loop over the entries from that point left keep
the order of the keys. -/
lemma keys_append_sublist (p : Nat × RecordState Record Sender → Bool)
    {l R : List (Nat × RecordState Record Sender)}
    (hR : List.Sublist (R.map Prod.fst) ((l.dropWhile p).map Prod.fst)) :
    List.Sublist ((l.takeWhile p ++ R).map Prod.fst) (l.map Prod.fst) := by
  rw [List.map_append]
  conv => rhs; rw [← List.takeWhile_append_dropWhile (p := p) (l := l), List.map_append]
  exact (List.Sublist.refl _).append hR

/-- What a loop over the entries up to a point left, in reverse, put back before the entries after
that point keeps the order of the keys. -/
lemma keys_reverse_append_sublist (p : Nat × RecordState Record Sender → Bool)
    {l R : List (Nat × RecordState Record Sender)}
    (hR : List.Sublist (R.map Prod.fst) ((l.takeWhile p).reverse.map Prod.fst)) :
    List.Sublist ((R.reverse ++ l.dropWhile p).map Prod.fst) (l.map Prod.fst) := by
  have hsub := hR.reverse
  rw [← List.map_reverse, ← List.map_reverse, List.reverse_reverse] at hsub
  rw [List.map_append]
  conv => rhs; rw [← List.takeWhile_append_dropWhile (p := p) (l := l), List.map_append]
  exact hsub.append (List.Sublist.refl _)

section

variable (b : ClientReadStreamOrderedMapBuffer Record Sender)

/-- `capacity()`. -/
def capacity : Nat := b.capacity_

/-- `LSNInBuffer(lsn)` of the interface, at this buffer's head and capacity. -/
def LSNInBuffer (lsn : Lsn) : Bool :=
  ClientReadStreamBuffer.LSNInBuffer b.buffer_head_ b.capacity_ lsn

/-- The state of the entry of `k` changed by the caller, through the pointer into it. -/
def write (k : Nat) (w : RecordState Record Sender → RecordState Record Sender) :
    ClientReadStreamOrderedMapBuffer Record Sender :=
  { b with map_ := b.map_.modify k w }

/-- `createOrGet(lsn)`: `&map_[lsn]`, which adds a default entry where there is none. -/
def createOrGet (lsn : Lsn) : Option Nat × ClientReadStreamOrderedMapBuffer Record Sender :=
  if !b.LSNInBuffer lsn then (none, b)
  else (some lsn.toNat, { b with map_ := b.map_.insertIfAbsent lsn.toNat default })

/-- `find(lsn)`. -/
def find (lsn : Lsn) : Option Nat :=
  match b.map_.entries with
  | [] => none
  | first :: _ =>
    if lsn.toNat < first.1 then none
    else if (b.map_.find? lsn.toNat).isSome then some lsn.toNat else none

/-- `findFirstMarker()`: the first entry. -/
def findFirstMarker : Option Nat × Lsn :=
  match b.map_.entries with
  | [] => (none, LSN_INVALID)
  | first :: _ => (some first.1, UInt64.ofNat first.1)

/-- `front()`: the first entry, where it is the head's. -/
def front : Option Nat :=
  match b.map_.entries with
  | [] => none
  | first :: _ => if first.1 > b.buffer_head_.toNat then none else some first.1

/-- `popFront()`: the first entry erased, where it is the head's. -/
def popFront : ClientReadStreamOrderedMapBuffer Record Sender :=
  match b.map_.entries with
  | [] => b
  | first :: _ =>
    if first.1 = b.buffer_head_.toNat then { b with map_ := b.map_.erase first.1 } else b

/-- `advanceBufferHead(offset)`. -/
def advanceBufferHead (offset : Nat) : ClientReadStreamOrderedMapBuffer Record Sender :=
  { b with buffer_head_ := b.buffer_head_ + UInt64.ofNat offset }

/-- `clear()`. -/
def clear : ClientReadStreamOrderedMapBuffer Record Sender :=
  { b with map_ := Lib.OrderedMap.empty }

/-- `forEach(from, to, cb)`. Going up, `it` is the first entry from `from` on; going down, the last
entry up to `from`: the loop runs over the entries on that side of `from`, backwards when going
down, and the map is the entries of the other side with what the loop left. -/
def forEach (from_lsn to_lsn : Lsn)
    (cb : Lsn → RecordState Record Sender → Bool × RecordState Record Sender) :
    List (Lsn × RecordState Record Sender) × ClientReadStreamOrderedMapBuffer Record Sender :=
  if from_lsn > to_lsn then
    let below := b.map_.entries.takeWhile (·.1 ≤ from_lsn.toNat)
    let above := b.map_.entries.dropWhile (·.1 ≤ from_lsn.toNat)
    let r := forEachLoop true to_lsn cb below.reverse
    (r.2, { b with map_ := ⟨r.1.reverse ++ above, Lib.sorted_of_keys_sublist
      (keys_reverse_append_sublist _ (keys_forEachLoop_sublist true to_lsn cb below.reverse))
      b.map_.sorted⟩ })
  else
    let before := b.map_.entries.takeWhile (·.1 < from_lsn.toNat)
    let after := b.map_.entries.dropWhile (·.1 < from_lsn.toNat)
    let r := forEachLoop false to_lsn cb after
    (r.2, { b with map_ := ⟨before ++ r.1, Lib.sorted_of_keys_sublist
      (keys_append_sublist _ (keys_forEachLoop_sublist false to_lsn cb after)) b.map_.sorted⟩ })

/-- `forEachUpto(to, cb)`: `forEach` from the first entry, where it is not past `to`. -/
def forEachUpto (to_lsn : Lsn) (cb : Lsn → RecordState Record Sender → RecordState Record Sender) :
    List (Lsn × RecordState Record Sender) × ClientReadStreamOrderedMapBuffer Record Sender :=
  match b.map_.entries with
  | [] => ([], b)
  | first :: _ =>
    if first.1 > to_lsn.toNat then ([], b)
    else b.forEach (UInt64.ofNat first.1) to_lsn fun lsn s => (true, cb lsn s)

/-- The state at a returned pointer, and the buffer after the caller's write through it. -/
def atPointer (p : Option Nat) (w : RecordState Record Sender → RecordState Record Sender) :
    Option (RecordState Record Sender) × ClientReadStreamOrderedMapBuffer Record Sender :=
  match p with
  | none => (none, b)
  | some k => (b.map_.find? k, b.write k w)

end

/-- A call of the interface on the buffer, with the caller's write through the pointer it returns. -/
def call : Call Record Sender → ClientReadStreamOrderedMapBuffer Record Sender →
    Reply Record Sender × ClientReadStreamOrderedMapBuffer Record Sender
  | .createOrGet lsn w, b =>
    let r := (b.createOrGet lsn).2.atPointer (b.createOrGet lsn).1 w
    (.state r.1, r.2)
  | .find lsn w, b => let r := b.atPointer (b.find lsn) w; (.state r.1, r.2)
  | .findFirstMarker w, b =>
    let r := b.atPointer b.findFirstMarker.1 w
    (.marker r.1 b.findFirstMarker.2, r.2)
  | .front w, b => let r := b.atPointer b.front w; (.state r.1, r.2)
  | .popFront, b => (.done, b.popFront)
  | .getBufferHead, b => (.head b.buffer_head_, b)
  | .advanceBufferHead offset, b => (.done, b.advanceBufferHead offset)
  | .clear, b => (.done, b.clear)
  | .forEach from_lsn to_lsn cb, b =>
    let r := b.forEach from_lsn to_lsn cb
    (.calls (markedCalls r.1), r.2)
  | .forEachUpto to_lsn cb, b =>
    let r := b.forEachUpto to_lsn cb
    (.calls (markedCalls r.1), r.2)

end ClientReadStreamOrderedMapBuffer

end LogDevice
