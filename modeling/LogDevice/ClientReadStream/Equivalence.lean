import LogDevice.ClientReadStream.CircularBufferSpec
import LogDevice.ClientReadStream.OrderedMapBufferSpec
import LogDevice.Lib.Simulation

/-!
# The two buffers answer alike

`ClientReadStream` may keep its records in either buffer. They answer every sequence of calls
alike, as `ClientReadStream` can tell (`Reply.Agrees`), when each call meets what the interface
asks of its caller (`Pre`):

* the caller's writes through a returned pointer and the callbacks of iterations do not read
  `record_corrupted` where there is no record (`Respects`, `CallbackOK.respects`);
* `find`, `front` and `findFirstMarker` are not called where the ordered map holds an entry
  without a marker at the LSN they return (the circular buffer cannot tell it from an empty slot);
* `popFront` and `clear` find the sender lists they drop already empty, as the circular buffer's
  `ld_check`s and the map's `ld_check` before `erase` ask;
* `advanceBufferHead` passes no entry;
* `forEach` and `forEachUpto` stay within the buffer, and their callbacks go on past an empty slot
  and leave it empty (`CallbackOK.blank`) and leave no sender list on a state they clear
  (`CallbackOK.erases`);
* the capacity is at most `2 ^ 31`, so that every index survives `operator[]`.

The proof is a simulation (`Lib.answer_forall₂`): `Sim` says the two buffers have the same head and
capacity, the map's keys are LSNs of the buffer, and the states they hold for each LSN agree. Each
call keeps it (`step`). The iterations compare through `Lib.visit_filter`: the circular buffer
visits every LSN from `from` to `to`, the map the keys among them, and the callback cannot tell
the others from nothing.
-/

namespace LogDevice

namespace ClientReadStreamBuffer

open ClientReadStreamRecordState Lib

variable {Record Sender : Type}

/-- A callback of an iteration that `ClientReadStream` can give either buffer: it cannot tell
states that agree apart, it goes on past a state without a marker or list and leaves it so, and
it leaves no sender list on a state it leaves without a marker. -/
structure CallbackOK (cb : Lsn → RecordState Record Sender → Bool × RecordState Record Sender) :
    Prop where
  respects : ∀ lsn s t, Agrees s t → (cb lsn s).1 = (cb lsn t).1 ∧ Agrees (cb lsn s).2 (cb lsn t).2
  blank : ∀ lsn s, Agrees s default → (cb lsn s).1 = true ∧ Agrees (cb lsn s).2 default
  erases : ∀ lsn s, (cb lsn s).2.hasMarker = false → (cb lsn s).2.list = []

/-- What a call asks of its caller, read on the ordered-map buffer. -/
def Pre (m : ClientReadStreamOrderedMapBuffer Record Sender) : Call Record Sender → Prop
  | .createOrGet _ w => Respects w
  | .find lsn w => Respects w ∧ ∀ s, m.map_.find? lsn.toNat = some s → s.hasMarker = true
  | .findFirstMarker w => Respects w ∧ ∀ e ∈ m.map_.entries.head?, e.2.hasMarker = true
  | .front w =>
    Respects w ∧ ∀ s, m.map_.find? m.buffer_head_.toNat = some s → s.hasMarker = true
  | .popFront => ∀ s, m.map_.find? m.buffer_head_.toNat = some s → s.list = []
  | .getBufferHead => True
  | .advanceBufferHead offset =>
    ∀ k ∈ m.map_.entries.map Prod.fst, m.buffer_head_.toNat + offset ≤ k
  | .clear => ∀ e ∈ m.map_.entries, e.2.list = []
  | .forEach from_lsn to_lsn cb =>
    m.LSNInBuffer from_lsn = true ∧ m.LSNInBuffer to_lsn = true ∧ CallbackOK cb
  | .forEachUpto to_lsn cb =>
    m.LSNInBuffer to_lsn = true ∧ CallbackOK fun lsn s => (true, cb lsn s)

/-- The circular buffer and the ordered map hold the same thing: the same head and capacity, keys
that are LSNs of the buffer, and states that agree for every LSN. -/
structure Sim (c : ClientReadStreamCircularBuffer Record Sender)
    (m : ClientReadStreamOrderedMapBuffer Record Sender) : Prop where
  head : c.buffer_head_ = m.buffer_head_
  capacity : c.capacity = m.capacity_
  capacity_le : c.capacity ≤ 2 ^ 31
  keys : ∀ k ∈ m.map_.entries.map Prod.fst,
    m.buffer_head_.toNat ≤ k ∧ k < m.buffer_head_.toNat + m.capacity_ ∧ k < 2 ^ 64
  views : ∀ n, Agrees (c.view n) (m.view n)

/-- A change of one state on both sides, to states that agree, keeps the states agreeing. -/
lemma agrees_update {V W : Nat → RecordState Record Sender} (hVW : ∀ n, Agrees (V n) (W n))
    (k : Nat) {s t : RecordState Record Sender} (hst : Agrees s t) (n : Nat) :
    Agrees (Function.update V k s n) (Function.update W k t n) := by
  by_cases hn : n = k
  · rw [hn, Function.update_self, Function.update_self]
    exact hst
  · rw [Function.update_of_ne hn, Function.update_of_ne hn]
    exact hVW n

lemma markedCalls_lsnCalls (l : List (Nat × RecordState Record Sender)) :
    markedCalls (lsnCalls l) = lsnCalls (l.filter (·.2.hasMarker)) := by
  rw [markedCalls, lsnCalls, List.filter_map]
  rfl

lemma forall₂_lsnCalls {l l' : List (Nat × RecordState Record Sender)}
    (h : List.Forall₂ (fun a b => a.1 = b.1 ∧ Agrees a.2 b.2) l l') :
    List.Forall₂ (fun a b => a.1 = b.1 ∧ Agrees a.2 b.2) (lsnCalls l) (lsnCalls l') := by
  rw [lsnCalls, lsnCalls, List.forall₂_map_left_iff, List.forall₂_map_right_iff]
  exact h.imp fun a b hab => ⟨by rw [hab.1], hab.2⟩

namespace Sim

variable {c : ClientReadStreamCircularBuffer Record Sender}
  {m : ClientReadStreamOrderedMapBuffer Record Sender}

lemma capacity_pos (h : Sim c m) : 0 < m.capacity_ :=
  h.capacity ▸ ClientReadStreamCircularBuffer.capacity_pos

/-- An LSN is in both buffers or in neither. -/
lemma LSNInBuffer_eq (h : Sim c m) (lsn : Lsn) : c.LSNInBuffer lsn = m.LSNInBuffer lsn := by
  rw [ClientReadStreamCircularBuffer.LSNInBuffer, ClientReadStreamOrderedMapBuffer.LSNInBuffer,
    h.head, h.capacity]

lemma LSNInBuffer_iff (h : Sim c m) (lsn : Lsn) :
    m.LSNInBuffer lsn = true ↔
      m.buffer_head_.toNat ≤ lsn.toNat ∧ lsn.toNat < m.buffer_head_.toNat + m.capacity_ :=
  ClientReadStreamBuffer.LSNInBuffer_iff _ _ h.capacity_pos
    (by have := h.capacity_le; rw [h.capacity] at this; omega)

/-- Where the map has no entry, the circular buffer's state agrees with the default one. -/
lemma agrees_default (h : Sim c m) {n : Nat} (hn : n ∉ m.map_.entries.map Prod.fst) :
    Agrees (c.view n) default := by
  have hview := h.views n
  rwa [ClientReadStreamOrderedMapBuffer.view,
    ClientReadStreamOrderedMapBuffer.listView_of_not_mem hn] at hview

/-- Where the map has an entry, the circular buffer's state agrees with it. -/
lemma agrees_find? (h : Sim c m) {n : Nat} {s : RecordState Record Sender}
    (hs : m.map_.find? n = some s) : Agrees (c.view n) s := by
  have hview : m.view n = s := by
    show (m.map_.find? n).getD default = s
    rw [hs]
    rfl
  exact hview ▸ h.views n

lemma mem_keys_of_find? {n : Nat} {s : RecordState Record Sender}
    (hs : m.map_.find? n = some s) : n ∈ m.map_.entries.map Prod.fst :=
  List.mem_map_of_mem (f := Prod.fst) (mem_of_lookup_eq_some hs)

lemma not_mem_keys_of_find? {n : Nat} (hs : m.map_.find? n = none) :
    n ∉ m.map_.entries.map Prod.fst := by
  intro hn
  obtain ⟨e, he, rfl⟩ := List.mem_map.mp hn
  have hfound : m.map_.find? e.1 = some e.2 := lookup_of_mem m.map_.sorted he
  rw [hs] at hfound
  cases hfound

/-- A step that keeps both heads and capacities and whose keys keep to the buffer keeps `Sim`
when the states agree. -/
lemma of_views (h : Sim c m) {c' : ClientReadStreamCircularBuffer Record Sender}
    {m' : ClientReadStreamOrderedMapBuffer Record Sender}
    (hcH : c'.buffer_head_ = c.buffer_head_) (hcC : c'.capacity = c.capacity)
    (hmH : m'.buffer_head_ = m.buffer_head_) (hmC : m'.capacity_ = m.capacity_)
    (hkeys : ∀ k ∈ m'.map_.entries.map Prod.fst,
      m.buffer_head_.toNat ≤ k ∧ k < m.buffer_head_.toNat + m.capacity_ ∧ k < 2 ^ 64)
    (hviews : ∀ n, Agrees (c'.view n) (m'.view n)) : Sim c' m' where
  head := by rw [hcH, hmH, h.head]
  capacity := by rw [hcC, hmC, h.capacity]
  capacity_le := hcC ▸ h.capacity_le
  keys := by rw [hmH, hmC]; exact hkeys
  views := hviews

end Sim

/-! ### One call -/

section Step

variable {c : ClientReadStreamCircularBuffer Record Sender}
  {m : ClientReadStreamOrderedMapBuffer Record Sender}

lemma step_createOrGet (h : Sim c m) (lsn : Lsn)
    {w : RecordState Record Sender → RecordState Record Sender} (hw : Respects w) :
    Reply.Agrees (ClientReadStreamCircularBuffer.call (.createOrGet lsn w) c).1
        (ClientReadStreamOrderedMapBuffer.call (.createOrGet lsn w) m).1 ∧
      Sim (ClientReadStreamCircularBuffer.call (.createOrGet lsn w) c).2
        (ClientReadStreamOrderedMapBuffer.call (.createOrGet lsn w) m).2 := by
  have hcap := h.capacity_le
  by_cases hin : m.LSNInBuffer lsn = true
  · -- both point to the LSN's state; the map makes an entry of the default state if needed
    obtain ⟨h₁, h₂⟩ := (h.LSNInBuffer_iff lsn).mp hin
    have h₁' : c.buffer_head_.toNat ≤ lsn.toNat := h.head ▸ h₁
    have h₂' : lsn.toNat < c.buffer_head_.toNat + c.capacity := h.head ▸ h.capacity ▸ h₂
    have hc : c.createOrGet lsn = some (c.slotOf lsn) := by
      rw [ClientReadStreamCircularBuffer.createOrGet,
        if_neg (by simp [(h.LSNInBuffer_eq lsn).trans hin])]
    set m₁ : ClientReadStreamOrderedMapBuffer Record Sender :=
      { m with map_ := m.map_.insertIfAbsent lsn.toNat default } with hm₁
    have hfind : m₁.map_.find? lsn.toNat = some (m.view lsn.toNat) :=
      m.find?_insertIfAbsent_self _
    simp only [ClientReadStreamCircularBuffer.call, ClientReadStreamOrderedMapBuffer.call, hc,
      m.createOrGet_of_mem hin, ClientReadStreamCircularBuffer.atPointer,
      ClientReadStreamOrderedMapBuffer.atPointer]
    rw [ClientReadStreamCircularBuffer.raw_slotOf hcap h₁' h₂', hfind]
    refine ⟨Option.Rel.some (h.views _), h.of_views rfl rfl rfl rfl ?_ ?_⟩
    · -- the new key is the LSN, of the buffer
      intro k hk
      rw [m₁.keys_write] at hk
      rcases m.mem_keys_insertIfAbsent hk with rfl | hk'
      · exact ⟨h₁, h₂, lsn.toNat_lt⟩
      · exact h.keys k hk'
    · rw [ClientReadStreamCircularBuffer.view_write_slotOf hcap h₁' h₂',
        m₁.view_write_of_find? hfind, m.view_insertIfAbsent]
      exact agrees_update h.views _ (hw _ _ (h.views _))
  · -- neither points anywhere, and nothing changes
    have hout : m.LSNInBuffer lsn = false := Bool.eq_false_iff.mpr hin
    have hc : c.createOrGet lsn = none := by
      rw [ClientReadStreamCircularBuffer.createOrGet,
        if_pos (by simp [(h.LSNInBuffer_eq lsn).trans hout])]
    simp only [ClientReadStreamCircularBuffer.call, ClientReadStreamOrderedMapBuffer.call, hc,
      m.createOrGet_of_not_mem hout, ClientReadStreamCircularBuffer.atPointer,
      ClientReadStreamOrderedMapBuffer.atPointer]
    exact ⟨Option.Rel.none, h⟩

lemma step_find (h : Sim c m) (lsn : Lsn)
    {w : RecordState Record Sender → RecordState Record Sender} (hw : Respects w)
    (hmark : ∀ s, m.map_.find? lsn.toNat = some s → s.hasMarker = true) :
    Reply.Agrees (ClientReadStreamCircularBuffer.call (.find lsn w) c).1
        (ClientReadStreamOrderedMapBuffer.call (.find lsn w) m).1 ∧
      Sim (ClientReadStreamCircularBuffer.call (.find lsn w) c).2
        (ClientReadStreamOrderedMapBuffer.call (.find lsn w) m).2 := by
  have hcap := h.capacity_le
  cases hs : m.map_.find? lsn.toNat with
  | none =>
    -- no entry: the circular buffer's state has no marker, so neither points anywhere
    have hm : m.find lsn = none := by rw [m.find_eq, hs]; rfl
    have hc : c.find lsn = none := by
      unfold ClientReadStreamCircularBuffer.find
      split_ifs with hin hmk
      · rfl
      · rfl
      · have hin' : m.LSNInBuffer lsn = true := by
          rw [← h.LSNInBuffer_eq]; simpa using hin
        obtain ⟨h₁, h₂⟩ := (h.LSNInBuffer_iff lsn).mp hin'
        rw [ClientReadStreamCircularBuffer.raw_slotOf hcap (h.head ▸ h₁)
          (h.head ▸ h.capacity ▸ h₂)] at hmk
        have hnone := h.agrees_default (Sim.not_mem_keys_of_find? hs)
        simp [hnone.hasMarker_eq] at hmk
    simp only [ClientReadStreamCircularBuffer.call, ClientReadStreamOrderedMapBuffer.call, hc, hm,
      ClientReadStreamCircularBuffer.atPointer, ClientReadStreamOrderedMapBuffer.atPointer]
    exact ⟨Option.Rel.none, h⟩
  | some s =>
    -- an entry, with a marker: both point to the LSN's state
    obtain ⟨h₁, h₂, -⟩ := h.keys _ (Sim.mem_keys_of_find? hs)
    have h₁' : c.buffer_head_.toNat ≤ lsn.toNat := h.head ▸ h₁
    have h₂' : lsn.toNat < c.buffer_head_.toNat + c.capacity := h.head ▸ h.capacity ▸ h₂
    have hagree := h.agrees_find? hs
    have hm : m.find lsn = some lsn.toNat := by rw [m.find_eq, hs]; rfl
    have hc : c.find lsn = some (c.slotOf lsn) := by
      have hin : c.LSNInBuffer lsn = true := by
        rw [h.LSNInBuffer_eq]; exact (h.LSNInBuffer_iff lsn).mpr ⟨h₁, h₂⟩
      have hmk : (c.buffer_.raw (c.slotOf lsn)).hasMarker = true := by
        rw [ClientReadStreamCircularBuffer.raw_slotOf hcap h₁' h₂', hagree.hasMarker_eq]
        exact hmark s hs
      unfold ClientReadStreamCircularBuffer.find
      rw [if_neg (by simp [hin]), if_neg (by simp [hmk])]
    simp only [ClientReadStreamCircularBuffer.call, ClientReadStreamOrderedMapBuffer.call, hc, hm,
      ClientReadStreamCircularBuffer.atPointer, ClientReadStreamOrderedMapBuffer.atPointer]
    rw [ClientReadStreamCircularBuffer.raw_slotOf hcap h₁' h₂', hs]
    refine ⟨Option.Rel.some hagree, h.of_views rfl rfl rfl rfl ?_ ?_⟩
    · intro k hk
      rw [m.keys_write] at hk
      exact h.keys k hk
    · rw [ClientReadStreamCircularBuffer.view_write_slotOf hcap h₁' h₂', m.view_write_of_find? hs]
      exact agrees_update h.views _ (hw _ _ hagree)

lemma step_front (h : Sim c m)
    {w : RecordState Record Sender → RecordState Record Sender} (hw : Respects w)
    (hmark : ∀ s, m.map_.find? m.buffer_head_.toNat = some s → s.hasMarker = true) :
    Reply.Agrees (ClientReadStreamCircularBuffer.call (.front w) c).1
        (ClientReadStreamOrderedMapBuffer.call (.front w) m).1 ∧
      Sim (ClientReadStreamCircularBuffer.call (.front w) c).2
        (ClientReadStreamOrderedMapBuffer.call (.front w) m).2 := by
  have hhead : ∀ k ∈ m.map_.entries.map Prod.fst, m.buffer_head_.toNat ≤ k :=
    fun k hk => (h.keys k hk).1
  have hfront : c.buffer_.front = c.view m.buffer_head_.toNat := by
    rw [ClientReadStreamCircularBuffer.front_eq_view, h.head]
  cases hs : m.map_.find? m.buffer_head_.toNat with
  | none =>
    -- no entry at the head: neither points anywhere
    have hm : m.front = none := by rw [m.front_eq hhead, hs]; rfl
    have hc : c.front = none := by
      have hnone := h.agrees_default (Sim.not_mem_keys_of_find? hs)
      rw [ClientReadStreamCircularBuffer.front, hfront, hnone.hasMarker_eq, hasMarker_default,
        if_neg (by simp)]
    simp only [ClientReadStreamCircularBuffer.call, ClientReadStreamOrderedMapBuffer.call, hc, hm,
      ClientReadStreamCircularBuffer.atPointer, ClientReadStreamOrderedMapBuffer.atPointer]
    exact ⟨Option.Rel.none, h⟩
  | some s =>
    -- the head's entry, with a marker: both point to it
    have hagree := h.agrees_find? hs
    have hm : m.front = some m.buffer_head_.toNat := by rw [m.front_eq hhead, hs]; rfl
    have hc : c.front = some c.buffer_.front_ := by
      rw [ClientReadStreamCircularBuffer.front, hfront, hagree.hasMarker_eq, hmark s hs, if_pos rfl]
    simp only [ClientReadStreamCircularBuffer.call, ClientReadStreamOrderedMapBuffer.call, hc, hm,
      ClientReadStreamCircularBuffer.atPointer, ClientReadStreamOrderedMapBuffer.atPointer]
    have hraw : c.buffer_.raw c.buffer_.front_ = c.view m.buffer_head_.toNat := hfront
    rw [hs, hraw]
    refine ⟨Option.Rel.some hagree, h.of_views rfl rfl rfl rfl ?_ ?_⟩
    · intro k hk
      rw [m.keys_write] at hk
      exact h.keys k hk
    · rw [ClientReadStreamCircularBuffer.view_write_front, m.view_write_of_find? hs, h.head]
      exact agrees_update h.views _ (hw _ _ hagree)

lemma step_popFront (h : Sim c m)
    (hempty : ∀ s, m.map_.find? m.buffer_head_.toNat = some s → s.list = []) :
    Reply.Agrees (ClientReadStreamCircularBuffer.call .popFront c).1
        (ClientReadStreamOrderedMapBuffer.call .popFront m).1 ∧
      Sim (ClientReadStreamCircularBuffer.call .popFront c).2
        (ClientReadStreamOrderedMapBuffer.call .popFront m).2 := by
  have hhead : ∀ k ∈ m.map_.entries.map Prod.fst, m.buffer_head_.toNat ≤ k :=
    fun k hk => (h.keys k hk).1
  -- the head's list is empty on both sides, so the reset state agrees with the erased one
  have hlist : (c.view m.buffer_head_.toNat).list = [] := by
    cases hs : m.map_.find? m.buffer_head_.toNat with
    | none => exact (h.agrees_default (Sim.not_mem_keys_of_find? hs)).list
    | some s => exact (h.agrees_find? hs).list.trans (hempty s hs)
  have hreset : Agrees (c.view m.buffer_head_.toNat).reset default :=
    (agrees_default_iff _).mpr ⟨hasMarker_reset _, by rw [list_reset, hlist]⟩
  obtain ⟨hmH, hmC⟩ := m.head_capacity_popFront
  refine ⟨trivial, h.of_views rfl rfl hmH hmC (fun k hk => h.keys k (m.mem_keys_popFront hk)) ?_⟩
  show ∀ n, Agrees (c.popFront.view n) (m.popFront.view n)
  rw [ClientReadStreamCircularBuffer.view_popFront, m.view_popFront hhead, h.head]
  exact agrees_update h.views _ hreset

lemma step_getBufferHead (h : Sim c m) :
    Reply.Agrees (ClientReadStreamCircularBuffer.call .getBufferHead c).1
        (ClientReadStreamOrderedMapBuffer.call .getBufferHead m).1 ∧
      Sim (ClientReadStreamCircularBuffer.call .getBufferHead c).2
        (ClientReadStreamOrderedMapBuffer.call .getBufferHead m).2 :=
  ⟨h.head, h⟩

lemma step_clear (h : Sim c m) (hempty : ∀ e ∈ m.map_.entries, e.2.list = []) :
    Reply.Agrees (ClientReadStreamCircularBuffer.call .clear c).1
        (ClientReadStreamOrderedMapBuffer.call .clear m).1 ∧
      Sim (ClientReadStreamCircularBuffer.call .clear c).2
        (ClientReadStreamOrderedMapBuffer.call .clear m).2 := by
  have hcap := h.capacity_le
  refine ⟨trivial, h.of_views rfl
    (ClientReadStreamCircularBuffer.capacity_clear hcap) rfl rfl (fun k hk => by cases hk) ?_⟩
  intro n
  show Agrees (c.clear.view n) default
  rw [ClientReadStreamCircularBuffer.view_clear hcap]
  split_ifs
  · -- a reset state whose list was already empty
    have hlist : (c.view n).list = [] := (h.views n).list.trans (m.list_view_of_lists_empty hempty n)
    exact (agrees_default_iff _).mpr ⟨hasMarker_reset _, by rw [list_reset, hlist]⟩
  · exact Agrees.refl _

lemma step_advanceBufferHead (h : Sim c m) (offset : Nat)
    (hpast : ∀ k ∈ m.map_.entries.map Prod.fst, m.buffer_head_.toNat + offset ≤ k) :
    Reply.Agrees (ClientReadStreamCircularBuffer.call (.advanceBufferHead offset) c).1
        (ClientReadStreamOrderedMapBuffer.call (.advanceBufferHead offset) m).1 ∧
      Sim (ClientReadStreamCircularBuffer.call (.advanceBufferHead offset) c).2
        (ClientReadStreamOrderedMapBuffer.call (.advanceBufferHead offset) m).2 := by
  refine ⟨trivial, ⟨?_, h.capacity, h.capacity_le, ?_, fun n => ?_⟩⟩
  · show c.buffer_head_ + UInt64.ofNat offset = m.buffer_head_ + UInt64.ofNat offset
    rw [h.head]
  · -- with a key, the head moves by `offset` without passing `LSN_MAX`
    intro k hk
    change k ∈ m.map_.entries.map Prod.fst at hk
    have hkey := h.keys k hk
    have hle := hpast k hk
    have hnewhead : (m.buffer_head_ + UInt64.ofNat offset).toNat =
        m.buffer_head_.toNat + offset := by
      rw [UInt64.toNat_add, UInt64.toNat_ofNat', Nat.mod_eq_of_lt (show offset < 2 ^ 64 by omega),
        Nat.mod_eq_of_lt (by omega)]
    show (m.buffer_head_ + UInt64.ofNat offset).toNat ≤ k ∧
      k < (m.buffer_head_ + UInt64.ofNat offset).toNat + m.capacity_ ∧ k < 2 ^ 64
    rw [hnewhead]
    omega
  show Agrees ((c.advanceBufferHead offset).view n) (m.view n)
  by_cases hE : m.map_.entries = []
  · -- no entry: every state of the circular buffer agrees with the default one, wherever it goes
    have hdefault : ∀ n, Agrees (c.view n) default := fun n =>
      h.agrees_default (by rw [hE]; exact List.not_mem_nil)
    rw [ClientReadStreamOrderedMapBuffer.view, hE]
    rcases ClientReadStreamCircularBuffer.view_advanceBufferHead_mem (b := c) offset n with
      hn | ⟨j, -, hn⟩
    · rw [hn]
      exact Agrees.refl _
    · rw [hn]
      exact hdefault _
  · -- an entry: `offset` is less than the capacity, and the head does not pass `LSN_MAX`
    obtain ⟨e, he⟩ := List.exists_mem_of_ne_nil _ hE
    have hkey := h.keys e.1 (List.mem_map_of_mem he)
    have hle := hpast e.1 (List.mem_map_of_mem he)
    have hfit : c.buffer_head_.toNat + offset < 2 ^ 64 := by rw [h.head]; omega
    have hcapacity := h.capacity
    -- the values the map has no key for: below `head + offset`, and from `head + capacity` on
    have hnotkey : ∀ n, (n < m.buffer_head_.toNat + offset ∨
        m.buffer_head_.toNat + m.capacity_ ≤ n) → m.view n = default := by
      intro n hn
      apply ClientReadStreamOrderedMapBuffer.listView_of_not_mem
      intro hk
      have := h.keys n hk
      have := hpast n hk
      omega
    rw [ClientReadStreamCircularBuffer.view_advanceBufferHead_of_le (by omega) hfit, h.head,
      h.capacity]
    split_ifs with h₁ h₂
    · exact h.views n
    · -- an element that went round the end: the state of an LSN advanced over
      rw [hnotkey n (.inr h₂.1)]
      have hgone := h.views (n - m.capacity_)
      rwa [hnotkey _ (.inl (by omega))] at hgone
    · rw [hnotkey n (by omega)]

lemma step_findFirstMarker (h : Sim c m)
    {w : RecordState Record Sender → RecordState Record Sender} (hw : Respects w)
    (hmark : ∀ e ∈ m.map_.entries.head?, e.2.hasMarker = true) :
    Reply.Agrees (ClientReadStreamCircularBuffer.call (.findFirstMarker w) c).1
        (ClientReadStreamOrderedMapBuffer.call (.findFirstMarker w) m).1 ∧
      Sim (ClientReadStreamCircularBuffer.call (.findFirstMarker w) c).2
        (ClientReadStreamOrderedMapBuffer.call (.findFirstMarker w) m).2 := by
  have hcap := h.capacity_le
  have hcapacity := h.capacity
  have hhead := h.head
  -- the loop looks at the elements below the capacity, and not past `LSN_MAX`
  have hlimit : min c.capacity (LSN_MAX - max c.buffer_head_ 1 + 1).toNat =
      min c.capacity (2 ^ 64 - max c.buffer_head_.toNat 1) := by
    rw [ClientReadStreamCircularBuffer.toNat_findFirstMarker_limit]
  have hpos := ClientReadStreamCircularBuffer.capacity_pos (b := c)
  cases hE : m.map_.entries with
  | nil =>
    -- no entry: no element has a marker
    have hc : c.findFirstMarker = (none, LSN_INVALID) := by
      unfold ClientReadStreamCircularBuffer.findFirstMarker
      rw [hlimit]
      refine ClientReadStreamCircularBuffer.findFirstMarkerFrom_none hcap _ _
        (by rw [Nat.zero_add]; exact Nat.min_le_left _ _) fun j _ hj => ?_
      rw [ClientReadStreamCircularBuffer.slot_eq_view (by omega),
        (h.agrees_default (by rw [hE]; exact List.not_mem_nil)).hasMarker_eq, hasMarker_default]
    simp only [ClientReadStreamCircularBuffer.call, ClientReadStreamOrderedMapBuffer.call, hc,
      m.findFirstMarker_of_nil hE, ClientReadStreamCircularBuffer.atPointer,
      ClientReadStreamOrderedMapBuffer.atPointer]
    exact ⟨⟨Option.Rel.none, rfl⟩, h⟩
  | cons first rest =>
    -- the first entry has a marker, and the elements before it are empty
    have hfirst : first.2.hasMarker = true := hmark first (by rw [hE]; rfl)
    have hkmem : first.1 ∈ m.map_.entries.map Prod.fst := by
      rw [hE]; exact List.mem_map_of_mem List.mem_cons_self
    obtain ⟨hk₁, hk₂, hk₃⟩ := h.keys _ hkmem
    rw [← h.head] at hk₁
    rw [← h.head, ← h.capacity] at hk₂
    have hfind : m.map_.find? first.1 = some first.2 :=
      lookup_of_mem m.map_.sorted (hE ▸ List.mem_cons_self)
    have hagree := h.agrees_find? hfind
    set j := first.1 - c.buffer_head_.toNat with hj
    have hslot : c.buffer_.slot j = c.view first.1 := by
      rw [ClientReadStreamCircularBuffer.slot_eq_view (by omega), hj, Nat.add_sub_cancel' (by omega)]
    have hc : c.findFirstMarker = (some ((c.buffer_.front_ + j) % c.capacity), c.getLSN j) := by
      unfold ClientReadStreamCircularBuffer.findFirstMarker
      rw [hlimit]
      apply ClientReadStreamCircularBuffer.findFirstMarkerFrom_some hcap _ 0 j
        (by rw [Nat.zero_add]; exact Nat.min_le_left _ _) (Nat.zero_le _) (by omega)
      · intro j' _ hj'
        -- an LSN below the first key has no entry
        have hnot : c.buffer_head_.toNat + j' ∉ m.map_.entries.map Prod.fst := fun hmem => by
          have := m.first_le_key hE _ hmem
          omega
        rw [ClientReadStreamCircularBuffer.slot_eq_view (by omega),
          (h.agrees_default hnot).hasMarker_eq, hasMarker_default]
      · rw [hslot, hagree.hasMarker_eq, hfirst]
    have hlsn : c.getLSN j = UInt64.ofNat first.1 :=
      ClientReadStreamCircularBuffer.getLSN_eq (by omega) hk₃
    simp only [ClientReadStreamCircularBuffer.call, ClientReadStreamOrderedMapBuffer.call, hc,
      m.findFirstMarker_of_cons hE, ClientReadStreamCircularBuffer.atPointer,
      ClientReadStreamOrderedMapBuffer.atPointer]
    have hraw : c.buffer_.raw ((c.buffer_.front_ + j) % c.capacity) = c.view first.1 := hslot
    rw [hfind, hraw, hlsn]
    refine ⟨⟨Option.Rel.some hagree, rfl⟩, h.of_views rfl rfl rfl rfl ?_ ?_⟩
    · intro k hk
      rw [m.keys_write] at hk
      exact h.keys k hk
    · rw [ClientReadStreamCircularBuffer.view_write (by omega), m.view_write_of_find? hfind, hj,
        Nat.add_sub_cancel' (by omega)]
      exact agrees_update h.views _ (hw _ _ hagree)

/-- Both iterations report the same calls on states with a marker and leave states that agree,
when the map visits the keys among the LSNs the circular buffer goes through. -/
lemma iteration_agrees {cb : Lsn → RecordState Record Sender → Bool × RecordState Record Sender}
    (hcb : CallbackOK cb) (h : Sim c m) {lsns K : List Nat}
    (hK : lsns.filter (fun n => decide (n ∈ m.map_.entries.map Prod.fst)) = K)
    {c' : ClientReadStreamCircularBuffer Record Sender}
    {m' : ClientReadStreamOrderedMapBuffer Record Sender}
    {callsC callsM : List (Lsn × RecordState Record Sender)}
    (hcC : callsC = lsnCalls (visit (callbackAt cb) lsns c.view).1)
    (hcV : c'.view = (visit (callbackAt cb) lsns c.view).2)
    (hmC : callsM = lsnCalls (visit (callbackAt cb) K m.view).1)
    (hmV : ∀ n, Agrees (m'.view n) ((visit (callbackAt cb) K m.view).2 n)) :
    Reply.Agrees (.calls (markedCalls callsC)) (.calls (markedCalls callsM)) ∧
      ∀ n, Agrees (c'.view n) (m'.view n) := by
  have hrespects : ∀ n s t, Agrees s t → (callbackAt cb n s).1 = (callbackAt cb n t).1 ∧
      Agrees (callbackAt cb n s).2 (callbackAt cb n t).2 :=
    fun n s t hst => hcb.respects _ s t hst
  -- a value the map has no key for holds the default state, which the callback goes past
  obtain ⟨hcalls, hstates⟩ := visit_filter Agrees hasMarker (· = default) hrespects
    (fun n s b hb hsb => by subst hb; exact hcb.blank _ s hsb)
    (fun s t hst => hst.hasMarker_eq)
    (fun s b hb hsb => by subst hb; rw [hsb.hasMarker_eq, hasMarker_default])
    (fun n => decide (n ∈ m.map_.entries.map Prod.fst)) lsns c.view m.view h.views
    (fun n _ hn => ClientReadStreamOrderedMapBuffer.listView_of_not_mem (by simpa using hn))
  rw [hK] at hcalls hstates
  refine ⟨?_, fun n => ?_⟩
  · rw [hcC, hmC, markedCalls_lsnCalls, markedCalls_lsnCalls]
    exact forall₂_lsnCalls hcalls
  · rw [hcV]
    exact (hstates n).trans (hmV n).symm

lemma step_forEach (h : Sim c m) {from_lsn to_lsn : Lsn} (hfrom : m.LSNInBuffer from_lsn = true)
    (hto : m.LSNInBuffer to_lsn = true)
    {cb : Lsn → RecordState Record Sender → Bool × RecordState Record Sender}
    (hcb : CallbackOK cb) :
    Reply.Agrees (ClientReadStreamCircularBuffer.call (.forEach from_lsn to_lsn cb) c).1
        (ClientReadStreamOrderedMapBuffer.call (.forEach from_lsn to_lsn cb) m).1 ∧
      Sim (ClientReadStreamCircularBuffer.call (.forEach from_lsn to_lsn cb) c).2
        (ClientReadStreamOrderedMapBuffer.call (.forEach from_lsn to_lsn cb) m).2 := by
  have hcap := h.capacity_le
  obtain ⟨hf₁, hf₂⟩ := (h.LSNInBuffer_iff _).mp hfrom
  obtain ⟨ht₁, ht₂⟩ := (h.LSNInBuffer_iff _).mp hto
  have hsorted := (keysSorted_iff _).mp m.map_.sorted
  obtain ⟨hcC, hcV, hcH, hcCap⟩ := ClientReadStreamCircularBuffer.forEach_eq_visit c hcap
    ⟨h.head ▸ hf₁, h.head ▸ h.capacity ▸ hf₂⟩ ⟨h.head ▸ ht₁, h.head ▸ h.capacity ▸ ht₂⟩ cb
  obtain ⟨hmH, hmCap⟩ := m.head_capacity_forEach from_lsn to_lsn cb
  have hkeys : ∀ k ∈ (m.forEach from_lsn to_lsn cb).2.map_.entries.map Prod.fst,
      m.buffer_head_.toNat ≤ k ∧ k < m.buffer_head_.toNat + m.capacity_ ∧ k < 2 ^ 64 :=
    fun k hk => h.keys k (m.mem_keys_forEach _ _ _ hk)
  simp only [ClientReadStreamCircularBuffer.call, ClientReadStreamOrderedMapBuffer.call]
  by_cases hrev : to_lsn.toNat < from_lsn.toNat
  · -- downwards: the map visits the keys from `from` down to `to`
    obtain ⟨hmC, hmV⟩ := m.forEach_spec_down cb hcb.erases (UInt64.lt_iff_toNat_lt.mpr hrev)
    rw [if_pos hrev] at hcC hcV
    have hK : (List.range' to_lsn.toNat (from_lsn.toNat - to_lsn.toNat + 1)).reverse.filter
        (fun n => decide (n ∈ m.map_.entries.map Prod.fst)) =
        ((m.map_.entries.map Prod.fst).filter
          fun k => to_lsn.toNat ≤ k ∧ k ≤ from_lsn.toNat).reverse := by
      rw [List.filter_reverse, filter_range'_mem hsorted]
      congr 1
      apply List.filter_congr
      intro k _
      simp only [decide_eq_decide]
      omega
    obtain ⟨hreply, hviews⟩ := iteration_agrees hcb h hK hcC hcV hmC hmV
    exact ⟨hreply, h.of_views hcH hcCap hmH hmCap hkeys hviews⟩
  · -- upwards: the map visits the keys from `from` to `to`
    have hle : ¬ from_lsn > to_lsn := fun hgt => hrev (UInt64.lt_iff_toNat_lt.mp hgt)
    obtain ⟨hmC, hmV⟩ := m.forEach_spec_up cb hcb.erases hle
    rw [if_neg hrev] at hcC hcV
    have hK : (List.range' from_lsn.toNat (to_lsn.toNat - from_lsn.toNat + 1)).filter
        (fun n => decide (n ∈ m.map_.entries.map Prod.fst)) =
        (m.map_.entries.map Prod.fst).filter
          fun k => from_lsn.toNat ≤ k ∧ k ≤ to_lsn.toNat := by
      rw [filter_range'_mem hsorted]
      apply List.filter_congr
      intro k _
      simp only [decide_eq_decide]
      omega
    obtain ⟨hreply, hviews⟩ := iteration_agrees hcb h hK hcC hcV hmC hmV
    exact ⟨hreply, h.of_views hcH hcCap hmH hmCap hkeys hviews⟩

lemma step_forEachUpto (h : Sim c m) {to_lsn : Lsn} (hto : m.LSNInBuffer to_lsn = true)
    {cb : Lsn → RecordState Record Sender → RecordState Record Sender}
    (hcb : CallbackOK fun lsn s => (true, cb lsn s)) :
    Reply.Agrees (ClientReadStreamCircularBuffer.call (.forEachUpto to_lsn cb) c).1
        (ClientReadStreamOrderedMapBuffer.call (.forEachUpto to_lsn cb) m).1 ∧
      Sim (ClientReadStreamCircularBuffer.call (.forEachUpto to_lsn cb) c).2
        (ClientReadStreamOrderedMapBuffer.call (.forEachUpto to_lsn cb) m).2 := by
  have hcap := h.capacity_le
  have hhead := h.head
  obtain ⟨ht₁, ht₂⟩ := (h.LSNInBuffer_iff _).mp hto
  have hsorted := (keysSorted_iff _).mp m.map_.sorted
  -- the circular buffer goes from its head to `to`
  have hfrom : c.buffer_head_.toNat ≤ c.buffer_head_.toNat ∧
      c.buffer_head_.toNat < c.buffer_head_.toNat + c.capacity :=
    ⟨le_rfl, by have := ClientReadStreamCircularBuffer.capacity_pos (b := c); omega⟩
  obtain ⟨hcC, hcV, hcH, hcCap⟩ := ClientReadStreamCircularBuffer.forEach_eq_visit c hcap hfrom
    ⟨h.head ▸ ht₁, h.head ▸ h.capacity ▸ ht₂⟩ fun lsn s => (true, cb lsn s)
  rw [if_neg (by rw [h.head]; omega)] at hcC hcV
  have hup : c.forEachUpto to_lsn cb =
      c.forEach c.buffer_head_ to_lsn fun lsn s => (true, cb lsn s) := rfl
  obtain ⟨hmC, hmV⟩ := m.forEachUpto_spec (fun k hk => (h.keys k hk).2.2) to_lsn cb hcb.erases
  obtain ⟨hmH, hmCap⟩ := m.head_capacity_forEachUpto to_lsn cb
  have hK : (List.range' c.buffer_head_.toNat (to_lsn.toNat - c.buffer_head_.toNat + 1)).filter
      (fun n => decide (n ∈ m.map_.entries.map Prod.fst)) =
      (m.map_.entries.map Prod.fst).filter fun k => k ≤ to_lsn.toNat := by
    rw [filter_range'_mem hsorted]
    apply List.filter_congr
    intro k hk
    have := (h.keys k hk).1
    rw [h.head]
    simp only [decide_eq_decide]
    omega
  simp only [ClientReadStreamCircularBuffer.call, ClientReadStreamOrderedMapBuffer.call, hup]
  obtain ⟨hreply, hviews⟩ := iteration_agrees hcb h hK hcC hcV hmC hmV
  exact ⟨hreply, h.of_views hcH hcCap hmH hmCap
    (fun k hk => h.keys k (m.mem_keys_forEachUpto _ _ hk)) hviews⟩

/-- A call that meets `Pre` gets replies that agree and keeps the buffers related. -/
theorem sim_call (h : Sim c m) (call : Call Record Sender) (hpre : Pre m call) :
    Reply.Agrees (ClientReadStreamCircularBuffer.call call c).1
        (ClientReadStreamOrderedMapBuffer.call call m).1 ∧
      Sim (ClientReadStreamCircularBuffer.call call c).2
        (ClientReadStreamOrderedMapBuffer.call call m).2 := by
  cases call with
  | createOrGet lsn w => exact step_createOrGet h lsn hpre
  | find lsn w => exact step_find h lsn hpre.1 hpre.2
  | findFirstMarker w => exact step_findFirstMarker h hpre.1 hpre.2
  | front w => exact step_front h hpre.1 hpre.2
  | popFront => exact step_popFront h hpre
  | getBufferHead => exact step_getBufferHead h
  | advanceBufferHead offset => exact step_advanceBufferHead h offset hpre
  | clear => exact step_clear h hpre
  | forEach from_lsn to_lsn cb => exact step_forEach h hpre.1 hpre.2.1 hpre.2.2
  | forEachUpto to_lsn cb => exact step_forEachUpto h hpre.1 hpre.2

end Step

/-- Two buffers created with the same capacity and head hold the same thing. -/
lemma sim_init (capacity : Nat) (buffer_head : Lsn) (hpos : 0 < capacity)
    (hcap : capacity ≤ 2 ^ 31) :
    Sim (ClientReadStreamCircularBuffer.init capacity buffer_head hpos :
        ClientReadStreamCircularBuffer Record Sender)
      (ClientReadStreamOrderedMapBuffer.init capacity buffer_head) where
  head := rfl
  capacity := rfl
  capacity_le := hcap
  keys := fun k hk => by cases hk
  views := fun n => by
    show Agrees (ClientReadStreamCircularBuffer.view _ n) default
    unfold ClientReadStreamCircularBuffer.view
    split_ifs
    · exact Agrees.refl _
    · exact Agrees.refl _

/-- A run in which `reset()` leaves `record_corrupted` behind in the circular buffer: a gap at
LSN 1 marked corrupted, popped off the front, the head advanced past it, and a gap made at LSN 2
in the element LSN 1 had, which `find` then returns. -/
def staleCorruptionRun : List (Call Unit Unit) :=
  [.createOrGet 1 fun s => { s with gap := true, record_corrupted := true }, .popFront,
    .advanceBufferHead 1, .createOrGet 2 fun s => { s with gap := true }, .find 2 id]

end ClientReadStreamBuffer

end LogDevice
