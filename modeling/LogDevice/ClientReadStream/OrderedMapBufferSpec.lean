import LogDevice.ClientReadStream.OrderedMapBuffer
import LogDevice.Lib.Visit

/-!
# What the ordered-map buffer holds for each LSN

`view b n` is the state `ClientReadStreamOrderedMapBuffer` holds for the LSN of value `n`: its
entry's, or the default state where the map has no entry. A write through a pointer changes the
entry's state (`view_write`), `createOrGet` leaves every state as it was (`view_createOrGet`),
`popFront` and `clear` reset to the default state by erasing.

The loop of `forEach` is `visit` over the keys it reaches, from states that are the entries'
(`forEachLoop_spec`): the same calls, and afterwards states that agree with the visit's, where an
erased entry agrees with the default state because the callback emptied its list first (the
`ld_check` before `map_.erase(cur)`). Going up it visits the keys from `from` to `to` in increasing
order (`forEach_spec_up`), going down those from `from` to `to` in decreasing order
(`forEach_spec_down`); the entries on the other side of `from` are put back unchanged
(`listView_rejoin`).
-/

namespace LogDevice

namespace ClientReadStreamOrderedMapBuffer

open ClientReadStreamRecordState ClientReadStreamBuffer Lib

variable {Record Sender : Type}

/-- The state a list of entries holds for the LSN of value `n`: its entry's, or the default state. -/
def listView (l : List (Nat × RecordState Record Sender)) (n : Nat) : RecordState Record Sender :=
  (l.lookup n).getD default

/-- The state the buffer holds for the LSN of value `n`. -/
def view (b : ClientReadStreamOrderedMapBuffer Record Sender) : Nat → RecordState Record Sender :=
  listView b.map_.entries

/-! ### Views of lists of entries -/

section ListView

variable {l l₁ l₂ : List (Nat × RecordState Record Sender)}

lemma listView_of_mem (hl : (l.map Prod.fst).Nodup) {e : Nat × RecordState Record Sender}
    (he : e ∈ l) : listView l e.1 = e.2 := by
  rw [listView, lookup_of_mem_nodup hl he, Option.getD_some]

lemma listView_of_not_mem {n : Nat} (h : n ∉ l.map Prod.fst) : listView l n = default := by
  rw [listView, lookup_eq_none_of_not_mem h, Option.getD_none]

lemma listView_append_of_not_mem_left {n : Nat} (h : n ∉ l₁.map Prod.fst) :
    listView (l₁ ++ l₂) n = listView l₂ n := by
  rw [listView, listView, lookup_append_of_not_mem_left h]

lemma listView_append_of_not_mem_right {n : Nat} (h : n ∉ l₂.map Prod.fst) :
    listView (l₁ ++ l₂) n = listView l₁ n := by
  rw [listView, listView, lookup_append_of_not_mem_right h]

lemma listView_reverse (hl : (l.map Prod.fst).Nodup) : listView l.reverse = listView l := by
  funext n
  rw [listView, listView, lookup_reverse hl]

/-- What the loop keeps of an entry the callback left as `t`: nothing where `t` has no marker. -/
def kept (k : Nat) (t : RecordState Record Sender) : List (Nat × RecordState Record Sender) :=
  if t.hasMarker then [(k, t)] else []

/-- The entry the loop keeps or erases, before entries of other keys: its state is the callback's,
up to an erased state with an empty list, which agrees with the default one. -/
lemma listView_kept_append {k : Nat} (hk : k ∉ l.map Prod.fst) (t : RecordState Record Sender)
    (ht : t.hasMarker = false → t.list = []) (n : Nat) :
    Agrees (listView (kept k t ++ l) n) (if n = k then t else listView l n) := by
  by_cases hn : n = k
  · subst hn
    rw [if_pos rfl]
    by_cases hm : t.hasMarker = true
    · rw [kept, if_pos hm, List.singleton_append, listView, lookup_cons_eq_ite, if_pos rfl,
        Option.getD_some]
    · have hm' : t.hasMarker = false := Bool.eq_false_iff.mpr hm
      rw [kept, if_neg hm, List.nil_append, listView_of_not_mem hk]
      exact ((agrees_default_iff t).mpr ⟨hm', ht hm'⟩).symm
  · rw [if_neg hn, kept]
    split_ifs
    · rw [List.singleton_append, listView, listView, lookup_cons_eq_ite, if_neg hn]
    · rw [List.nil_append]

/-- A loop over the entries on one side of where it starts, its result `R` put back with the
entries `A` of the other side, in either order: where the loop looked, the states are the loop's;
elsewhere, those of `A`. -/
lemma listView_rejoin {A B R : List (Nat × RecordState Record Sender)}
    {W : Nat → RecordState Record Sender}
    (hdisj : ∀ n ∈ A.map Prod.fst, n ∉ B.map Prod.fst)
    (hR : ∀ n ∈ R.map Prod.fst, n ∈ B.map Prod.fst)
    (hloop : ∀ n ∈ B.map Prod.fst, Agrees (listView R n) (W n))
    (hW : ∀ n ∉ B.map Prod.fst, W n = listView A n) (n : Nat) :
    Agrees (listView (A ++ R) n) (W n) ∧ Agrees (listView (R ++ A) n) (W n) := by
  by_cases hB : n ∈ B.map Prod.fst
  · -- a key of the side the loop went through: only `R` can have it
    have hA : n ∉ A.map Prod.fst := fun h => hdisj n h hB
    rw [listView_append_of_not_mem_left hA, listView_append_of_not_mem_right hA]
    exact ⟨hloop n hB, hloop n hB⟩
  · -- any other key: only `A` can have it
    have hR' : n ∉ R.map Prod.fst := fun h => hB (hR n h)
    rw [listView_append_of_not_mem_right hR', listView_append_of_not_mem_left hR', hW n hB]
    exact ⟨Agrees.refl _, Agrees.refl _⟩

end ListView

/-! ### The loop of `forEach` -/

section Loop

variable (reverse : Bool) (to_lsn : Lsn)
  (cb : Lsn → RecordState Record Sender → Bool × RecordState Record Sender)

/-- Whether the loop of `forEach` has gone past `to` at the key `k`. -/
def passed (k : Nat) : Bool :=
  (reverse && decide (k < to_lsn.toNat)) || (!reverse && decide (k > to_lsn.toNat))

/-- The keys the loop reaches before it goes past `to`. -/
def visited (l : List (Nat × RecordState Record Sender)) : List Nat :=
  (l.takeWhile fun e => !passed reverse to_lsn e.1).map Prod.fst

lemma visited_sublist (l : List (Nat × RecordState Record Sender)) :
    List.Sublist (visited reverse to_lsn l) (l.map Prod.fst) :=
  (List.takeWhile_sublist _).map _

variable {reverse to_lsn cb} {k : Nat} {s : RecordState Record Sender}
  {rest : List (Nat × RecordState Record Sender)}

lemma forEachLoop_of_passed (h : passed reverse to_lsn k = true) :
    forEachLoop reverse to_lsn cb ((k, s) :: rest) = ((k, s) :: rest, []) := by
  rw [forEachLoop]
  exact if_pos h

lemma forEachLoop_of_continue (h : passed reverse to_lsn k = false)
    (hgo : (callbackAt cb k s).1 = true) :
    forEachLoop reverse to_lsn cb ((k, s) :: rest) =
      (kept k (callbackAt cb k s).2 ++ (forEachLoop reverse to_lsn cb rest).1,
        (UInt64.ofNat k, s) :: (forEachLoop reverse to_lsn cb rest).2) := by
  rw [forEachLoop]
  exact (if_neg (Bool.eq_false_iff.mp h)).trans (if_pos hgo)

lemma forEachLoop_of_stop (h : passed reverse to_lsn k = false)
    (hstop : (callbackAt cb k s).1 = false) :
    forEachLoop reverse to_lsn cb ((k, s) :: rest) =
      (kept k (callbackAt cb k s).2 ++ rest, [(UInt64.ofNat k, s)]) := by
  rw [forEachLoop]
  exact (if_neg (Bool.eq_false_iff.mp h)).trans (if_neg (Bool.eq_false_iff.mp hstop))

variable (reverse to_lsn cb)

/-- The loop of `forEach` over entries with each key once is `visit` of the keys it reaches, from
states that are the entries': the same calls, and where the loop looked, states that agree. -/
lemma forEachLoop_spec (herase : ∀ lsn s, (cb lsn s).2.hasMarker = false → (cb lsn s).2.list = [])
    (l : List (Nat × RecordState Record Sender)) (V : Nat → RecordState Record Sender)
    (hl : (l.map Prod.fst).Nodup) (hV : ∀ e ∈ l, V e.1 = e.2) :
    (forEachLoop reverse to_lsn cb l).2 =
        lsnCalls (visit (callbackAt cb) (visited reverse to_lsn l) V).1 ∧
      ∀ n ∈ l.map Prod.fst, Agrees (listView (forEachLoop reverse to_lsn cb l).1 n)
        ((visit (callbackAt cb) (visited reverse to_lsn l) V).2 n) := by
  induction l generalizing V with
  | nil => exact ⟨rfl, fun n hn => by cases hn⟩
  | cons e rest ih =>
    obtain ⟨k, s⟩ := e
    have hnd := hl
    rw [List.map_cons, List.nodup_cons] at hl
    obtain ⟨hk, hrest⟩ := hl
    change k ∉ rest.map Prod.fst at hk
    have hVk : V k = s := hV (k, s) List.mem_cons_self
    by_cases hpass : passed reverse to_lsn k = true
    · -- past `to`: nothing is visited and nothing changes
      have hvis : visited reverse to_lsn ((k, s) :: rest) = [] := by
        simp [visited, hpass]
      rw [forEachLoop_of_passed hpass, hvis, visit_nil]
      refine ⟨rfl, fun n hn => ?_⟩
      obtain ⟨e, he, rfl⟩ := List.mem_map.mp hn
      show Agrees (listView _ e.1) (V e.1)
      rw [listView_of_mem hnd he, hV e he]
    have hpass' : passed reverse to_lsn k = false := Bool.eq_false_iff.mpr hpass
    have hvis : visited reverse to_lsn ((k, s) :: rest) = k :: visited reverse to_lsn rest := by
      simp [visited, hpass']
    rw [hvis]
    -- the callback gets the entry's state; `k` is not among the keys after it
    have hcb : callbackAt cb k (V k) = callbackAt cb k s := by rw [hVk]
    have herase' := herase (UInt64.ofNat k) s
    have hkvis : k ∉ visited reverse to_lsn rest :=
      fun h => hk ((visited_sublist reverse to_lsn rest).subset h)
    have hkloop : k ∉ (forEachLoop reverse to_lsn cb rest).1.map Prod.fst :=
      fun h => hk ((keys_forEachLoop_sublist reverse to_lsn cb rest).subset h)
    have hV' : ∀ e ∈ rest, Function.update V k (callbackAt cb k s).2 e.1 = e.2 := by
      intro e he
      have hmem : e.1 ∈ rest.map Prod.fst := List.mem_map_of_mem he
      have hne : e.1 ≠ k := fun h => hk (h ▸ hmem)
      rw [Function.update_of_ne hne, hV e (List.mem_cons_of_mem _ he)]
    by_cases hgo : (callbackAt cb k s).1 = true
    · have hgo' : (callbackAt cb k (V k)).1 = true := hcb ▸ hgo
      rw [forEachLoop_of_continue hpass' hgo, visit_cons_of_continue hgo', hcb]
      obtain ⟨hcalls, hstates⟩ := ih _ hrest hV'
      refine ⟨by rw [hcalls, hVk]; rfl, fun n hn => ?_⟩
      refine (listView_kept_append hkloop _ herase' n).trans ?_
      by_cases hnk : n = k
      · rw [if_pos hnk, hnk, visit_snd_of_not_mem hkvis, Function.update_self]
        exact Agrees.refl _
      · rw [if_neg hnk]
        exact hstates n ((List.mem_cons.mp hn).resolve_left hnk)
    · have hstop : (callbackAt cb k s).1 = false := Bool.eq_false_iff.mpr hgo
      have hstop' : (callbackAt cb k (V k)).1 = false := hcb ▸ hstop
      rw [forEachLoop_of_stop hpass' hstop, visit_cons_of_stop hstop', hcb]
      dsimp only
      refine ⟨by rw [hVk]; rfl, fun n hn => ?_⟩
      refine (listView_kept_append hk _ herase' n).trans ?_
      by_cases hnk : n = k
      · rw [if_pos hnk, hnk, Function.update_self]
        exact Agrees.refl _
      · -- an entry after the one where the loop stopped keeps its state
        have hn' : n ∈ rest.map Prod.fst := (List.mem_cons.mp hn).resolve_left hnk
        obtain ⟨e, he, rfl⟩ := List.mem_map.mp hn'
        rw [if_neg hnk, Function.update_of_ne hnk, listView_of_mem hrest he,
          hV e (List.mem_cons_of_mem _ he)]

end Loop

/-! ### `forEach` -/

section ForEach

variable (b : ClientReadStreamOrderedMapBuffer Record Sender)

lemma nodup_keys : (b.map_.entries.map Prod.fst).Nodup := b.map_.sorted.nodup

/-- The view holds each entry's state. -/
lemma view_of_mem {e : Nat × RecordState Record Sender} (he : e ∈ b.map_.entries) :
    b.view e.1 = e.2 :=
  listView_of_mem b.nodup_keys he

/-- The keys of the entries before and after a point are different. -/
lemma keys_disjoint (p : Nat × RecordState Record Sender → Bool) :
    ∀ n ∈ (b.map_.entries.takeWhile p).map Prod.fst,
      n ∉ (b.map_.entries.dropWhile p).map Prod.fst := by
  have hnd := b.nodup_keys
  rw [← List.takeWhile_append_dropWhile (p := p) (l := b.map_.entries), List.map_append,
    List.nodup_append] at hnd
  exact fun n hn hn' => hnd.2.2 n hn n hn' rfl

variable (cb : Lsn → RecordState Record Sender → Bool × RecordState Record Sender)
  {from_lsn to_lsn : Lsn}

/-- Going up, the loop reaches the keys from `from` to `to`. -/
lemma visited_up :
    visited false to_lsn (b.map_.entries.dropWhile (·.1 < from_lsn.toNat)) =
      (b.map_.entries.map Prod.fst).filter fun k => from_lsn.toNat ≤ k ∧ k ≤ to_lsn.toNat := by
  have hsorted := b.map_.sorted
  -- the entries from `from` on are a filter, and so is the part of them up to `to`
  have hafter : b.map_.entries.dropWhile (·.1 < from_lsn.toNat) =
      b.map_.entries.filter fun e => !decide (e.1 < from_lsn.toNat) :=
    dropWhile_eq_filter hsorted fun a b hab hb => by simp only [decide_eq_true_eq] at hb ⊢; omega
  have hto : ∀ l : List (Nat × RecordState Record Sender), KeysSorted l →
      l.takeWhile (fun e => !passed false to_lsn e.1) =
        l.filter fun e => !passed false to_lsn e.1 := fun l hl =>
    takeWhile_eq_filter hl fun a b hab hb => by simp only [passed] at hb ⊢; simp at hb ⊢; omega
  rw [visited, hafter, hto _ (hsorted.filter _), List.filter_filter, List.filter_map]
  congr 1
  apply List.filter_congr
  intro e _
  rw [Bool.eq_iff_iff]
  simp only [passed, Function.comp, Bool.false_and, Bool.not_false, Bool.true_and, Bool.false_or]
  simp
  omega

/-- Going down, the loop reaches the keys from `from` down to `to`. -/
lemma visited_down :
    visited true to_lsn (b.map_.entries.takeWhile (·.1 ≤ from_lsn.toNat)).reverse =
      ((b.map_.entries.map Prod.fst).filter
        fun k => to_lsn.toNat ≤ k ∧ k ≤ from_lsn.toNat).reverse := by
  have hsorted := b.map_.sorted
  have hbelow : b.map_.entries.takeWhile (·.1 ≤ from_lsn.toNat) =
      b.map_.entries.filter fun e => decide (e.1 ≤ from_lsn.toNat) :=
    takeWhile_eq_filter hsorted fun a b hab hb => by simp only [decide_eq_true_eq] at hb ⊢; omega
  -- in decreasing order, the part down to `to` is a filter too
  have hdesc : (b.map_.entries.filter fun e => decide (e.1 ≤ from_lsn.toNat)).reverse.Pairwise
      fun a b => b.1 < a.1 := List.pairwise_reverse.mpr (hsorted.filter _)
  have hto : (b.map_.entries.filter fun e => decide (e.1 ≤ from_lsn.toNat)).reverse.takeWhile
      (fun e => !passed true to_lsn e.1) =
        (b.map_.entries.filter fun e => decide (e.1 ≤ from_lsn.toNat)).reverse.filter
          fun e => !passed true to_lsn e.1 :=
    takeWhile_eq_filter hdesc fun a b hab hb => by simp only [passed] at hb ⊢; simp at hb ⊢; omega
  rw [visited, hbelow, hto, List.filter_reverse, List.map_reverse, List.filter_filter,
    List.filter_map]
  congr 2
  apply List.filter_congr
  intro e _
  rw [Bool.eq_iff_iff]
  simp only [passed, Function.comp, Bool.true_and, Bool.not_true, Bool.false_and, Bool.or_false]
  simp

variable (herase : ∀ lsn s, (cb lsn s).2.hasMarker = false → (cb lsn s).2.list = [])
include herase

/-- `forEach` upwards is `visit` of the keys from `from` to `to`, in increasing order: the same
calls, and states that agree. -/
lemma forEach_spec_up (hle : ¬ from_lsn > to_lsn) :
    let K := (b.map_.entries.map Prod.fst).filter
      fun k => from_lsn.toNat ≤ k ∧ k ≤ to_lsn.toNat
    (b.forEach from_lsn to_lsn cb).1 = lsnCalls (visit (callbackAt cb) K b.view).1 ∧
      ∀ n, Agrees ((b.forEach from_lsn to_lsn cb).2.view n)
        ((visit (callbackAt cb) K b.view).2 n) := by
  intro K
  have hvis : visited false to_lsn (b.map_.entries.dropWhile (·.1 < from_lsn.toNat)) = K :=
    b.visited_up
  set before := b.map_.entries.takeWhile (·.1 < from_lsn.toNat)
  set after := b.map_.entries.dropWhile (·.1 < from_lsn.toNat)
  have hsplit : before ++ after = b.map_.entries := List.takeWhile_append_dropWhile
  -- the loop runs over the entries from `from` on, with their states
  have hnd : (after.map Prod.fst).Nodup := b.nodup_keys.sublist ((List.dropWhile_sublist _).map _)
  have hV : ∀ e ∈ after, b.view e.1 = e.2 :=
    fun e he => b.view_of_mem ((List.dropWhile_sublist _).subset he)
  obtain ⟨hcalls, hstates⟩ := forEachLoop_spec false to_lsn cb herase after b.view hnd hV
  rw [hvis] at hcalls hstates
  refine ⟨?_, fun n => ?_⟩
  · unfold forEach
    rw [if_neg hle]
    exact hcalls
  · have hview : (b.forEach from_lsn to_lsn cb).2.view =
        listView (before ++ (forEachLoop false to_lsn cb after).1) := by
      unfold forEach
      rw [if_neg hle]
      rfl
    rw [hview]
    refine (listView_rejoin (b.keys_disjoint _)
      (fun m hm => (keys_forEachLoop_sublist false to_lsn cb after).subset hm) hstates
      (fun m hm => ?_) n).1
    -- the entries before `from` are where they were
    have hK : m ∉ K := fun h => hm ((hvis ▸ visited_sublist false to_lsn after).subset h)
    calc (visit (callbackAt cb) K b.view).2 m = b.view m := visit_snd_of_not_mem hK _
      _ = listView (before ++ after) m := by rw [view, hsplit]
      _ = listView before m := listView_append_of_not_mem_right hm

/-- `forEach` downwards is `visit` of the keys from `from` down to `to`: the same calls, and states
that agree. -/
lemma forEach_spec_down (hgt : from_lsn > to_lsn) :
    let K := ((b.map_.entries.map Prod.fst).filter
      fun k => to_lsn.toNat ≤ k ∧ k ≤ from_lsn.toNat).reverse
    (b.forEach from_lsn to_lsn cb).1 = lsnCalls (visit (callbackAt cb) K b.view).1 ∧
      ∀ n, Agrees ((b.forEach from_lsn to_lsn cb).2.view n)
        ((visit (callbackAt cb) K b.view).2 n) := by
  intro K
  have hvis : visited true to_lsn (b.map_.entries.takeWhile (·.1 ≤ from_lsn.toNat)).reverse = K :=
    b.visited_down
  set below := b.map_.entries.takeWhile (·.1 ≤ from_lsn.toNat)
  set above := b.map_.entries.dropWhile (·.1 ≤ from_lsn.toNat)
  have hsplit : below ++ above = b.map_.entries := List.takeWhile_append_dropWhile
  -- the loop runs backwards over the entries up to `from`, with their states
  have hnd : (below.reverse.map Prod.fst).Nodup := by
    rw [List.map_reverse, List.nodup_reverse]
    exact b.nodup_keys.sublist ((List.takeWhile_sublist _).map _)
  have hV : ∀ e ∈ below.reverse, b.view e.1 = e.2 :=
    fun e he => b.view_of_mem ((List.takeWhile_sublist _).subset (List.mem_reverse.mp he))
  obtain ⟨hcalls, hstates⟩ := forEachLoop_spec true to_lsn cb herase below.reverse b.view hnd hV
  rw [hvis] at hcalls hstates
  have hRsub := keys_forEachLoop_sublist true to_lsn cb below.reverse
  refine ⟨?_, fun n => ?_⟩
  · unfold forEach
    rw [if_pos hgt]
    exact hcalls
  · have hview : (b.forEach from_lsn to_lsn cb).2.view =
        listView ((forEachLoop true to_lsn cb below.reverse).1.reverse ++ above) := by
      unfold forEach
      rw [if_pos hgt]
      rfl
    rw [hview]
    refine (listView_rejoin (B := below.reverse) (fun m hm hm' => ?_) (fun m hm => ?_)
      (fun m hm => ?_) (fun m hm => ?_) n).2
    · rw [List.map_reverse, List.mem_reverse] at hm'
      exact b.keys_disjoint _ m hm' hm
    · rw [List.map_reverse, List.mem_reverse] at hm
      exact hRsub.subset hm
    · rw [listView_reverse (hnd.sublist hRsub)]
      exact hstates m hm
    · -- the entries after `from` are where they were
      have hK : m ∉ K := fun h => hm ((hvis ▸ visited_sublist true to_lsn below.reverse).subset h)
      have hm' : m ∉ below.map Prod.fst := by rwa [List.map_reverse, List.mem_reverse] at hm
      calc (visit (callbackAt cb) K b.view).2 m = b.view m := visit_snd_of_not_mem hK _
        _ = listView (below ++ above) m := by rw [view, hsplit]
        _ = listView above m := listView_append_of_not_mem_left hm'

end ForEach

section Operations

variable (b : ClientReadStreamOrderedMapBuffer Record Sender)

/-- Every key of a non-empty map is at least the first. -/
lemma first_le_key {first : Nat × RecordState Record Sender}
    {rest : List (Nat × RecordState Record Sender)} (hE : b.map_.entries = first :: rest) :
    ∀ k ∈ b.map_.entries.map Prod.fst, first.1 ≤ k := by
  intro k hk
  obtain ⟨e, he, rfl⟩ := List.mem_map.mp hk
  exact first_le (hE ▸ b.map_.sorted) (hE ▸ he)

/-- `forEachUpto(to)` is `visit` of the keys up to `to`, in increasing order, with a callback that
always goes on. -/
lemma forEachUpto_spec (hkeys : ∀ k ∈ b.map_.entries.map Prod.fst, k < 2 ^ 64) (to_lsn : Lsn)
    (cb : Lsn → RecordState Record Sender → RecordState Record Sender)
    (herase : ∀ lsn s, (cb lsn s).hasMarker = false → (cb lsn s).list = []) :
    let K := (b.map_.entries.map Prod.fst).filter fun k => k ≤ to_lsn.toNat
    let cb' : Lsn → RecordState Record Sender → Bool × RecordState Record Sender :=
      fun lsn s => (true, cb lsn s)
    (b.forEachUpto to_lsn cb).1 = lsnCalls (visit (callbackAt cb') K b.view).1 ∧
      ∀ n, Agrees ((b.forEachUpto to_lsn cb).2.view n) ((visit (callbackAt cb') K b.view).2 n) := by
  intro K cb'
  unfold forEachUpto
  split
  · next hE =>
    -- an empty map: nothing to visit
    have hK : K = [] := by simp [K, hE]
    rw [hK]
    exact ⟨rfl, fun n => Agrees.refl _⟩
  · next first rest hE =>
    have hfirst := b.first_le_key hE
    split_ifs with hgt
    · -- every key is past `to`
      have hK : K = [] := List.filter_eq_nil_iff.mpr fun k hk => by
        have := hfirst k hk
        simp only [decide_eq_true_eq]
        omega
      rw [hK]
      exact ⟨rfl, fun n => Agrees.refl _⟩
    · -- `forEach` up from the first key, which is every key up to `to`
      have hlt : first.1 < 2 ^ 64 :=
        hkeys first.1 (by rw [hE]; exact List.mem_map_of_mem List.mem_cons_self)
      have hfrom : (UInt64.ofNat first.1).toNat = first.1 := UInt64.toNat_ofNat_of_lt' hlt
      have hle : ¬ UInt64.ofNat first.1 > to_lsn := by
        rw [gt_iff_lt, UInt64.lt_iff_toNat_lt, hfrom]
        omega
      have hK : K = (b.map_.entries.map Prod.fst).filter
          fun k => (UInt64.ofNat first.1).toNat ≤ k ∧ k ≤ to_lsn.toNat := by
        apply List.filter_congr
        intro k hk
        have := hfirst k hk
        rw [hfrom]
        simp only [decide_eq_decide]
        omega
      rw [hK]
      exact b.forEach_spec_up cb' herase hle

/-- A write through the pointer to an entry changes its state. -/
lemma view_write_of_find? {k : Nat} {s : RecordState Record Sender} (h : b.map_.find? k = some s)
    (w : RecordState Record Sender → RecordState Record Sender) :
    (b.write k w).view = Function.update b.view k (w s) := by
  funext n
  show ((b.map_.modify k w).find? n).getD default = _
  rw [OrderedMap.find?_modify]
  by_cases hn : n = k
  · rw [if_pos hn, h, hn, Function.update_self]
    rfl
  · rw [if_neg hn, Function.update_of_ne hn]
    rfl

lemma keys_write (k : Nat) (w : RecordState Record Sender → RecordState Record Sender) :
    (b.write k w).map_.entries.map Prod.fst = b.map_.entries.map Prod.fst :=
  keys_modify k w b.map_.entries

/-- The entry `createOrGet` makes for an LSN of the buffer. -/
lemma createOrGet_of_mem {lsn : Lsn} (h : b.LSNInBuffer lsn = true) :
    b.createOrGet lsn =
      (some lsn.toNat, { b with map_ := b.map_.insertIfAbsent lsn.toNat default }) := by
  rw [createOrGet, if_neg (by simp [h])]

lemma createOrGet_of_not_mem {lsn : Lsn} (h : b.LSNInBuffer lsn = false) :
    b.createOrGet lsn = (none, b) := by
  rw [createOrGet, if_pos (by simp [h])]

/-- Adding a default entry where there is none leaves every state as it was. -/
lemma view_insertIfAbsent (k : Nat) :
    ({ b with map_ := b.map_.insertIfAbsent k default } :
      ClientReadStreamOrderedMapBuffer Record Sender).view = b.view := by
  funext n
  show ((b.map_.insertIfAbsent k default).find? n).getD default = (b.map_.find? n).getD default
  rw [OrderedMap.find?_insertIfAbsent]
  split_ifs with hn
  · subst hn
    cases b.map_.find? n <;> rfl
  · rfl

/-- After `m[k]`, `k` has an entry, of the state it had. -/
lemma find?_insertIfAbsent_self (k : Nat) :
    (b.map_.insertIfAbsent k default).find? k = some (b.view k) := by
  rw [OrderedMap.find?_insertIfAbsent, if_pos rfl]
  rfl

lemma mem_keys_insertIfAbsent {k k' : Nat}
    (h : k' ∈ (b.map_.insertIfAbsent k default).entries.map Prod.fst) :
    k' = k ∨ k' ∈ b.map_.entries.map Prod.fst := by
  obtain ⟨e, he, rfl⟩ := List.mem_map.mp h
  rcases mem_insertIfAbsent he with rfl | he'
  · exact .inl rfl
  · exact .inr (List.mem_map_of_mem he')

/-- `find(lsn)` points to the entry of `lsn`, where there is one. -/
lemma find_eq (lsn : Lsn) :
    b.find lsn = if (b.map_.find? lsn.toNat).isSome then some lsn.toNat else none := by
  unfold find
  split
  · next hE =>
    have hnone : b.map_.find? lsn.toNat = none := by
      show b.map_.entries.lookup lsn.toNat = none
      rw [hE]
      rfl
    rw [hnone]
    rfl
  · next first rest hE =>
    by_cases hlt : lsn.toNat < first.1
    · -- below the first key there is no entry
      have hnone : b.map_.find? lsn.toNat = none :=
        lookup_eq_none_of_lt fun e he => lt_of_lt_of_le hlt (first_le (hE ▸ b.map_.sorted) (hE ▸ he))
      rw [if_pos hlt, hnone]
      rfl
    · rw [if_neg hlt]

/-! Only `advanceBufferHead` moves the head, and nothing changes the capacity. -/

lemma head_capacity_popFront :
    b.popFront.buffer_head_ = b.buffer_head_ ∧ b.popFront.capacity_ = b.capacity_ := by
  unfold popFront
  split
  · exact ⟨rfl, rfl⟩
  · split_ifs <;> exact ⟨rfl, rfl⟩

lemma head_capacity_forEach (from_lsn to_lsn : Lsn)
    (cb : Lsn → RecordState Record Sender → Bool × RecordState Record Sender) :
    (b.forEach from_lsn to_lsn cb).2.buffer_head_ = b.buffer_head_ ∧
      (b.forEach from_lsn to_lsn cb).2.capacity_ = b.capacity_ := by
  unfold forEach
  split_ifs <;> exact ⟨rfl, rfl⟩

lemma head_capacity_forEachUpto (to_lsn : Lsn)
    (cb : Lsn → RecordState Record Sender → RecordState Record Sender) :
    (b.forEachUpto to_lsn cb).2.buffer_head_ = b.buffer_head_ ∧
      (b.forEachUpto to_lsn cb).2.capacity_ = b.capacity_ := by
  unfold forEachUpto
  split
  · exact ⟨rfl, rfl⟩
  · split_ifs
    · exact ⟨rfl, rfl⟩
    · exact b.head_capacity_forEach _ _ _

lemma findFirstMarker_of_nil (hE : b.map_.entries = []) :
    b.findFirstMarker = (none, LSN_INVALID) := by
  unfold findFirstMarker
  rw [hE]

lemma findFirstMarker_of_cons {first : Nat × RecordState Record Sender}
    {rest : List (Nat × RecordState Record Sender)} (hE : b.map_.entries = first :: rest) :
    b.findFirstMarker = (some first.1, UInt64.ofNat first.1) := by
  unfold findFirstMarker
  rw [hE]

/-! The keys after each operation are keys it had, but for the one `createOrGet` adds. -/

lemma mem_keys_popFront {k : Nat} (h : k ∈ b.popFront.map_.entries.map Prod.fst) :
    k ∈ b.map_.entries.map Prod.fst := by
  unfold popFront at h
  split at h
  · exact h
  · split_ifs at h
    · obtain ⟨e, he, rfl⟩ := List.mem_map.mp h
      exact List.mem_map_of_mem (List.mem_filter.mp he).1
    · exact h

lemma mem_keys_forEach (from_lsn to_lsn : Lsn)
    (cb : Lsn → RecordState Record Sender → Bool × RecordState Record Sender) {k : Nat}
    (h : k ∈ (b.forEach from_lsn to_lsn cb).2.map_.entries.map Prod.fst) :
    k ∈ b.map_.entries.map Prod.fst := by
  unfold forEach at h
  split_ifs at h
  · exact (keys_reverse_append_sublist _ (keys_forEachLoop_sublist _ _ _ _)).subset h
  · exact (keys_append_sublist _ (keys_forEachLoop_sublist _ _ _ _)).subset h

lemma mem_keys_forEachUpto (to_lsn : Lsn)
    (cb : Lsn → RecordState Record Sender → RecordState Record Sender) {k : Nat}
    (h : k ∈ (b.forEachUpto to_lsn cb).2.map_.entries.map Prod.fst) :
    k ∈ b.map_.entries.map Prod.fst := by
  unfold forEachUpto at h
  split at h
  · exact h
  · split_ifs at h
    · exact h
    · exact b.mem_keys_forEach _ _ _ h

/-- Where every entry's list is empty, so is every state's. -/
lemma list_view_of_lists_empty (h : ∀ e ∈ b.map_.entries, e.2.list = []) (n : Nat) :
    (b.view n).list = [] := by
  rw [view, listView]
  cases hn : b.map_.entries.lookup n with
  | none => rfl
  | some s => exact h (n, s) (mem_of_lookup_eq_some hn)

variable (hkeys : ∀ k ∈ b.map_.entries.map Prod.fst, b.buffer_head_.toNat ≤ k)
include hkeys

/-- Where every key is from the head on, a map whose first key is not the head has no entry for
it. -/
lemma find?_head_eq_none {first : Nat × RecordState Record Sender}
    {rest : List (Nat × RecordState Record Sender)} (hE : b.map_.entries = first :: rest)
    (hne : first.1 ≠ b.buffer_head_.toNat) : b.map_.find? b.buffer_head_.toNat = none := by
  apply lookup_eq_none_of_not_mem
  intro hmem
  have h₁ := b.first_le_key hE _ hmem
  have h₂ := hkeys first.1 (by rw [hE]; exact List.mem_map_of_mem List.mem_cons_self)
  omega

/-- `front()` points to the head's entry, where there is one. -/
lemma front_eq :
    b.front = if (b.map_.find? b.buffer_head_.toNat).isSome then some b.buffer_head_.toNat
      else none := by
  unfold front
  split
  · next hE =>
    have hnone : b.map_.find? b.buffer_head_.toNat = none := by
      show b.map_.entries.lookup _ = none
      rw [hE]
      rfl
    rw [hnone]
    rfl
  · next first rest hE =>
    have hhead := hkeys first.1 (by rw [hE]; exact List.mem_map_of_mem List.mem_cons_self)
    by_cases hgt : first.1 > b.buffer_head_.toNat
    · rw [if_pos hgt, b.find?_head_eq_none hkeys hE (by omega)]
      rfl
    · -- the first key is the head
      have heq : first.1 = b.buffer_head_.toNat := by omega
      have hfound : b.map_.find? first.1 = some first.2 :=
        lookup_of_mem b.map_.sorted (hE ▸ List.mem_cons_self)
      rw [heq] at hfound
      rw [if_neg hgt, hfound, heq]
      rfl

/-- `popFront` resets the head's state, by erasing its entry where there is one. -/
lemma view_popFront :
    b.popFront.view = Function.update b.view b.buffer_head_.toNat default := by
  unfold popFront
  split
  · next hE =>
    -- an empty map holds the default state everywhere
    have hdefault : ∀ n, b.view n = default := fun n => by
      rw [view, listView, hE]
      rfl
    funext n
    by_cases hn : n = b.buffer_head_.toNat
    · rw [hn, Function.update_self, hdefault]
    · rw [Function.update_of_ne hn]
  · next first rest hE =>
    split_ifs with hfirst
    · funext n
      show ((b.map_.erase first.1).find? n).getD default = _
      rw [OrderedMap.find?_erase, hfirst]
      by_cases hn : n = b.buffer_head_.toNat
      · rw [if_pos hn, hn, Function.update_self]
        rfl
      · rw [if_neg hn, Function.update_of_ne hn]
        rfl
    · -- the head has no entry: its state is already the default one
      have hdefault : b.view b.buffer_head_.toNat = default := by
        rw [view, listView]
        show (b.map_.find? b.buffer_head_.toNat).getD default = default
        rw [b.find?_head_eq_none hkeys hE hfirst]
        rfl
      rw [← hdefault, Function.update_eq_self]

end Operations

end ClientReadStreamOrderedMapBuffer

end LogDevice
