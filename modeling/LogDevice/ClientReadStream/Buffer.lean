import LogDevice.Lsn

/-!
# The buffer of a client read stream

`ClientReadStreamBuffer` (`common/client_read_stream/ClientReadStreamBuffer.h`) is the interface of
the buffer in which `ClientReadStream` keeps what the storage shards sent it: one
`ClientReadStreamRecordState` for each LSN from the buffer head to `maxLSNToAccept()`, that is
`capacity` LSNs, or fewer where that would pass `LSN_MAX`. A state holds a marker when it has a
record, a gap or the filtered-out flag (`hasMarker`).

The two implementations differ in what a state without a marker is: a slot of a circular array,
which keeps whatever `reset()` left in it, or no entry of an ordered map. `reset()` clears the
three markers but leaves `record_corrupted`, so the two can hold states that differ in that flag
where there is no record, the one place `ClientReadStream` does not read it (`Agrees`).

A call of the interface is a `Call`. The pointer a call returns lets the caller change the state
before its next call (`write`); `forEach` and `forEachUpto` take the callback. What a call returns
is a `Reply`: the state at the pointer, or `nullptr`; the pair of `findFirstMarker`; the buffer
head; or, for an iteration, the calls it made on states with a marker.
-/

namespace LogDevice

/-- `ClientReadStreamRecordState`: what the buffer holds for one LSN. `Record` stands for
`DataRecordOwnsPayload` and `Sender` for `ClientReadStreamSenderState`. -/
structure ClientReadStreamRecordState (Record Sender : Type) where
  record : Option Record := none
  record_corrupted : Bool := false
  list : List Sender := []
  gap : Bool := false
  filtered_out : Bool := false
  deriving DecidableEq

/-- `using RecordState = ClientReadStreamRecordState;` of both buffers. -/
abbrev RecordState := ClientReadStreamRecordState

namespace ClientReadStreamRecordState

variable {Record Sender : Type}

instance : Inhabited (RecordState Record Sender) := ⟨{}⟩

/-- `record || gap || filtered_out`, the test both buffers make for a marker. -/
def hasMarker (s : RecordState Record Sender) : Bool :=
  s.record.isSome || s.gap || s.filtered_out

/-- `reset()`: the record, gap and filtered-out markers cleared. -/
def reset (s : RecordState Record Sender) : RecordState Record Sender :=
  { s with record := none, gap := false, filtered_out := false }

@[simp] lemma hasMarker_default : (default : RecordState Record Sender).hasMarker = false := rfl

@[simp] lemma hasMarker_reset (s : RecordState Record Sender) : s.reset.hasMarker = false := rfl

@[simp] lemma list_reset (s : RecordState Record Sender) : s.reset.list = s.list := rfl

/-- Two states `ClientReadStream` cannot tell apart: equal, but for `record_corrupted` where there
is no record, since the stream reads the flag only beside a record. -/
structure Agrees (s t : RecordState Record Sender) : Prop where
  record : s.record = t.record
  record_corrupted : s.record.isSome → s.record_corrupted = t.record_corrupted
  list : s.list = t.list
  gap : s.gap = t.gap
  filtered_out : s.filtered_out = t.filtered_out

namespace Agrees

variable {s t u : RecordState Record Sender}

@[refl] lemma refl (s : RecordState Record Sender) : Agrees s s :=
  ⟨rfl, fun _ => rfl, rfl, rfl, rfl⟩

lemma of_eq (h : s = t) : Agrees s t := h ▸ refl s

@[symm] lemma symm (h : Agrees s t) : Agrees t s :=
  ⟨h.record.symm, fun ht => (h.record_corrupted (h.record ▸ ht)).symm, h.list.symm, h.gap.symm,
    h.filtered_out.symm⟩

@[trans] lemma trans (h₁ : Agrees s t) (h₂ : Agrees t u) : Agrees s u :=
  ⟨h₁.record.trans h₂.record, fun hs => (h₁.record_corrupted hs).trans
      (h₂.record_corrupted (h₁.record ▸ hs)), h₁.list.trans h₂.list, h₁.gap.trans h₂.gap,
    h₁.filtered_out.trans h₂.filtered_out⟩

/-- States that agree have the same markers. -/
lemma hasMarker_eq (h : Agrees s t) : s.hasMarker = t.hasMarker := by
  simp only [hasMarker, h.record, h.gap, h.filtered_out]

lemma reset (h : Agrees s t) : Agrees s.reset t.reset :=
  ⟨rfl, fun hs => by simp [ClientReadStreamRecordState.reset] at hs, h.list, rfl, rfl⟩

end Agrees

/-- A state agrees with the default one exactly when it has no marker and an empty list: what a
slot the circular buffer holds for an LSN the ordered map has no entry of must be. -/
lemma agrees_default_iff (s : RecordState Record Sender) :
    Agrees s default ↔ s.hasMarker = false ∧ s.list = [] := by
  constructor
  · intro h
    exact ⟨h.hasMarker_eq, h.list⟩
  · rintro ⟨hm, hl⟩
    simp only [hasMarker, Bool.or_eq_false_iff, Option.isSome_eq_false_iff,
      Option.isNone_iff_eq_none] at hm
    obtain ⟨⟨hr, hg⟩, hf⟩ := hm
    exact ⟨hr, fun h => by simp [hr] at h, hl, hg, hf⟩

/-- A change of a state, by the caller or a callback, that does not read `record_corrupted` where
there is no record. -/
def Respects (w : RecordState Record Sender → RecordState Record Sender) : Prop :=
  ∀ s t, Agrees s t → Agrees (w s) (w t)

end ClientReadStreamRecordState

namespace ClientReadStreamBuffer

/-- `maxLSNToAccept(buffer_head, capacity)`: the last LSN the buffer can hold. -/
def maxLSNToAccept (buffer_head : Lsn) (capacity : Nat) : Lsn :=
  if buffer_head < LSN_MAX - UInt64.ofNat capacity + 1 then
    buffer_head + UInt64.ofNat capacity - 1
  else LSN_MAX

/-- `LSNInBuffer(lsn)`. -/
def LSNInBuffer (buffer_head : Lsn) (capacity : Nat) (lsn : Lsn) : Bool :=
  lsn ≥ buffer_head && lsn ≤ maxLSNToAccept buffer_head capacity

section

variable {capacity : Nat}

lemma toNat_LSN_MAX : LSN_MAX.toNat = 2 ^ 64 - 1 := rfl

/-- The last LSN the buffer holds is `capacity - 1` after the head, or `LSN_MAX` before that. -/
lemma toNat_maxLSNToAccept (buffer_head : Lsn) (hpos : 0 < capacity) (hlt : capacity < 2 ^ 64) :
    (maxLSNToAccept buffer_head capacity).toNat =
      min (buffer_head.toNat + capacity - 1) (2 ^ 64 - 1) := by
  have hc : (UInt64.ofNat capacity).toNat = capacity := UInt64.toNat_ofNat_of_lt' hlt
  have hhead := buffer_head.toNat_lt
  -- `LSN_MAX - capacity + 1` does not wrap: it is `2 ^ 64 - capacity`
  have hbound : (LSN_MAX - UInt64.ofNat capacity + 1).toNat = 2 ^ 64 - capacity := by
    rw [UInt64.toNat_add, UInt64.toNat_sub_of_le _ _ (UInt64.le_iff_toNat_le.mpr (by
      rw [hc, toNat_LSN_MAX]; omega)), hc, toNat_LSN_MAX]
    simp only [UInt64.toNat_one]
    omega
  unfold maxLSNToAccept
  split_ifs with hfits
  · rw [UInt64.lt_iff_toNat_lt, hbound] at hfits
    have hsum : (buffer_head + UInt64.ofNat capacity).toNat = buffer_head.toNat + capacity := by
      rw [UInt64.toNat_add, hc]
      omega
    rw [UInt64.toNat_sub_of_le _ _ (UInt64.le_iff_toNat_le.mpr (by simp [hsum]; omega)), hsum]
    simp only [UInt64.toNat_one]
    omega
  · rw [UInt64.lt_iff_toNat_lt, hbound] at hfits
    rw [toNat_LSN_MAX]
    omega

/-- An LSN is in the buffer when it is one of the `capacity` LSNs from the head on. -/
lemma LSNInBuffer_iff (buffer_head lsn : Lsn) (hpos : 0 < capacity) (hlt : capacity < 2 ^ 64) :
    LSNInBuffer buffer_head capacity lsn = true ↔
      buffer_head.toNat ≤ lsn.toNat ∧ lsn.toNat < buffer_head.toNat + capacity := by
  have hmax := toNat_maxLSNToAccept buffer_head hpos hlt
  have hlsn := lsn.toNat_lt
  simp only [LSNInBuffer, Bool.and_eq_true, decide_eq_true_eq, ge_iff_le, UInt64.le_iff_toNat_le,
    hmax]
  omega

end

end ClientReadStreamBuffer

/-- A call of the `ClientReadStreamBuffer` interface. `write` is what the caller does to the state
at the pointer the call returns, before its next call; `cb` is the callback of an iteration, given
an LSN and its state, and returning whether to go on and the state to leave. -/
inductive ClientReadStreamBuffer.Call (Record Sender : Type) where
  | createOrGet (lsn : Lsn) (write : RecordState Record Sender → RecordState Record Sender)
  | find (lsn : Lsn) (write : RecordState Record Sender → RecordState Record Sender)
  | findFirstMarker (write : RecordState Record Sender → RecordState Record Sender)
  | front (write : RecordState Record Sender → RecordState Record Sender)
  | popFront
  | getBufferHead
  | advanceBufferHead (offset : Nat)
  | clear
  | forEach (from_lsn to_lsn : Lsn)
      (cb : Lsn → RecordState Record Sender → Bool × RecordState Record Sender)
  | forEachUpto (to_lsn : Lsn) (cb : Lsn → RecordState Record Sender → RecordState Record Sender)

/-- What a call returns: the state at the pointer (`none` for `nullptr`); the state and LSN of
`findFirstMarker`; the buffer head; or the (LSN, state) pairs an iteration passed its callback
that held a marker. -/
inductive ClientReadStreamBuffer.Reply (Record Sender : Type) where
  | state (s : Option (RecordState Record Sender))
  | marker (s : Option (RecordState Record Sender)) (lsn : Lsn)
  | head (lsn : Lsn)
  | calls (l : List (Lsn × RecordState Record Sender))
  | done
  deriving DecidableEq

namespace ClientReadStreamBuffer

open ClientReadStreamRecordState

variable {Record Sender : Type}

/-- Replies `ClientReadStream` cannot tell apart: the same, with states that agree. -/
def Reply.Agrees : Reply Record Sender → Reply Record Sender → Prop
  | .state s, .state t => Option.Rel ClientReadStreamRecordState.Agrees s t
  | .marker s lsn, .marker t lsn' => Option.Rel ClientReadStreamRecordState.Agrees s t ∧ lsn = lsn'
  | .head lsn, .head lsn' => lsn = lsn'
  | .calls l, .calls l' =>
    List.Forall₂ (fun a b => a.1 = b.1 ∧ ClientReadStreamRecordState.Agrees a.2 b.2) l l'
  | .done, .done => True
  | _, _ => False

/-- The calls an iteration reports: those on a state with a marker. -/
def markedCalls (l : List (Lsn × RecordState Record Sender)) : List (Lsn × RecordState Record Sender) :=
  l.filter (·.2.hasMarker)

/-- A callback of an iteration, at the LSN of value `n`: both buffers are compared on the values of
LSNs. -/
def callbackAt (cb : Lsn → RecordState Record Sender → Bool × RecordState Record Sender) (n : Nat)
    (s : RecordState Record Sender) : Bool × RecordState Record Sender :=
  cb (UInt64.ofNat n) s

/-- Calls made at values of LSNs, as calls at the LSNs. -/
def lsnCalls (l : List (Nat × RecordState Record Sender)) : List (Lsn × RecordState Record Sender) :=
  l.map fun p => (UInt64.ofNat p.1, p.2)

end ClientReadStreamBuffer

end LogDevice
