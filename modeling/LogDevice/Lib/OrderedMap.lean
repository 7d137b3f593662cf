import Mathlib

/-!
# Ordered maps as sorted association lists

`std::map` keeps its entries in increasing order of their keys, each key once. `OrderedMap κ β`
is that list of entries with the order as a field, so that no other list can be built. The entry
of a key inserted with a given value where there is none (`insertIfAbsent`, the effect of `m[k]`),
the value of one entry changed in place (`modify`) and `erase` keep the order, and so does any
list whose keys are a sublist of the keys of a sorted one (`sorted_of_keys_sublist`). The lookup
lemmas say what `List.lookup` sees after each, and on a sorted list the first entry is the one of
the least key (`first_le`).

On a list ordered by `R`, `takeWhile` and `dropWhile` of a predicate that holds below wherever it
holds are filters (`takeWhile_eq_filter`, `dropWhile_eq_filter`); the numbers of a range that are
keys of an increasing list are the keys in that range, in order (`filter_range'_mem`). Nothing here
is specific to one program.
-/

namespace LogDevice.Lib

/-! ### Lists ordered by a relation -/

section Ordered

variable {α : Type _} {R : α → α → Prop} {p : α → Bool}

/-- `takeWhile` on an ordered list, of a predicate that holds below wherever it holds, keeps
every element it holds of. -/
theorem takeWhile_eq_filter {l : List α} (hl : l.Pairwise R)
    (hp : ∀ a b, R a b → p b = true → p a = true) : l.takeWhile p = l.filter p := by
  induction l with
  | nil => rfl
  | cons a l ih =>
    by_cases ha : p a = true
    · rw [List.takeWhile_cons_of_pos ha, List.filter_cons_of_pos ha, ih hl.of_cons]
    · -- nothing after `a` satisfies `p`, since `a` is below all of it
      have hnone : l.filter p = [] := List.filter_eq_nil_iff.mpr fun b hb hpb =>
        ha (hp a b (List.rel_of_pairwise_cons hl hb) hpb)
      rw [List.takeWhile_cons_of_neg ha, List.filter_cons_of_neg ha, hnone]

/-- `dropWhile` on an ordered list, of a predicate that holds below wherever it holds, keeps every
element it fails on. -/
theorem dropWhile_eq_filter {l : List α} (hl : l.Pairwise R)
    (hp : ∀ a b, R a b → p b = true → p a = true) : l.dropWhile p = l.filter (!p ·) := by
  induction l with
  | nil => rfl
  | cons a l ih =>
    by_cases ha : p a = true
    · rw [List.dropWhile_cons_of_pos ha, ih hl.of_cons, List.filter_cons_of_neg (by simp [ha])]
    · -- from `a` on, nothing satisfies `p`
      have hall : l.filter (!p ·) = l := List.filter_eq_self.mpr fun b hb => by
        have hpb : p b = false := by
          by_contra hpb
          exact ha (hp a b (List.rel_of_pairwise_cons hl hb) (by simpa using hpb))
        simp [hpb]
      rw [List.dropWhile_cons_of_neg ha, List.filter_cons_of_pos (by simpa using ha), hall]

end Ordered

/-- The numbers of `[a, a + n)` that are in an increasing list, in order, are the elements of the
list in that range. -/
theorem filter_range'_mem {ks : List Nat} (hks : ks.Pairwise (· < ·)) (a n : Nat) :
    (List.range' a n).filter (· ∈ ks) = ks.filter fun k => a ≤ k ∧ k < a + n := by
  apply List.Pairwise.eq_of_mem_iff (r := (· < ·))
  · exact (List.pairwise_lt_range').filter _
  · exact hks.filter _
  · intro k
    simp only [List.mem_filter, List.mem_range'_1, decide_eq_true_eq]
    tauto

/-! ### Sorted association lists -/

section Sorted

variable {κ β : Type _} [LinearOrder κ]

/-- Entries in increasing order of their keys. -/
def KeysSorted (l : List (κ × β)) : Prop := l.Pairwise fun a b => a.1 < b.1

lemma keysSorted_iff (l : List (κ × β)) : KeysSorted l ↔ (l.map Prod.fst).Pairwise (· < ·) := by
  rw [KeysSorted, List.pairwise_map]

/-- A list whose keys are a sublist of the keys of a sorted list is sorted. -/
lemma sorted_of_keys_sublist {l l' : List (κ × β)}
    (hsub : List.Sublist (l.map Prod.fst) (l'.map Prod.fst)) (hl' : KeysSorted l') :
    KeysSorted l := by
  rw [keysSorted_iff] at hl' ⊢
  exact hl'.sublist hsub

/-- `List.lookup` on a non-empty list, with the comparison of keys as a condition. -/
lemma lookup_cons_eq_ite (k : κ) (e : κ × β) (l : List (κ × β)) :
    (e :: l).lookup k = if k = e.1 then some e.2 else l.lookup k := by
  obtain ⟨k', v⟩ := e
  by_cases h : k = k'
  · subst h
    simp
  · have hb : (k == k') = false := beq_eq_false_iff_ne.mpr h
    simp only [List.lookup_cons, hb, if_neg h]

/-- The keys of a sorted list are each there once. -/
lemma KeysSorted.nodup {l : List (κ × β)} (hl : KeysSorted l) : (l.map Prod.fst).Nodup :=
  ((keysSorted_iff l).mp hl).nodup

/-- In a list with each key once, the value of an entry is what a lookup of its key finds. -/
lemma lookup_of_mem_nodup {l : List (κ × β)} (hl : (l.map Prod.fst).Nodup) {e : κ × β}
    (he : e ∈ l) : l.lookup e.1 = some e.2 := by
  induction l with
  | nil => cases he
  | cons a l ih =>
    rw [List.map_cons, List.nodup_cons] at hl
    rcases List.mem_cons.mp he with rfl | he'
    · simp [lookup_cons_eq_ite]
    · have hne : e.1 ≠ a.1 := fun h => hl.1 (h ▸ List.mem_map_of_mem he')
      rw [lookup_cons_eq_ite, if_neg hne, ih hl.2 he']

/-- In a sorted list, the value of an entry is what a lookup of its key finds. -/
lemma lookup_of_mem {l : List (κ × β)} (hl : KeysSorted l) {e : κ × β} (he : e ∈ l) :
    l.lookup e.1 = some e.2 :=
  lookup_of_mem_nodup hl.nodup he

/-- A key that is not a key of the list is not found. -/
lemma lookup_eq_none_of_not_mem {l : List (κ × β)} {k : κ} (h : k ∉ l.map Prod.fst) :
    l.lookup k = none :=
  List.lookup_eq_none_iff.mpr fun e he => by
    have hne : k ≠ e.1 := fun hk => h (hk ▸ List.mem_map_of_mem he)
    simpa using hne

lemma lookup_append_of_not_mem_left {l₁ l₂ : List (κ × β)} {k : κ} (h : k ∉ l₁.map Prod.fst) :
    (l₁ ++ l₂).lookup k = l₂.lookup k := by
  rw [List.lookup_append, lookup_eq_none_of_not_mem h, Option.none_or]

lemma lookup_append_of_not_mem_right {l₁ l₂ : List (κ × β)} {k : κ} (h : k ∉ l₂.map Prod.fst) :
    (l₁ ++ l₂).lookup k = l₁.lookup k := by
  rw [List.lookup_append, lookup_eq_none_of_not_mem h, Option.or_none]

/-- A key below every key of a list is not in it. -/
lemma lookup_eq_none_of_lt {l : List (κ × β)} {k : κ} (h : ∀ e ∈ l, k < e.1) :
    l.lookup k = none :=
  List.lookup_eq_none_iff.mpr fun e he => by simpa using (h e he).ne

/-- What a lookup finds is an entry of the list. -/
lemma mem_of_lookup_eq_some {l : List (κ × β)} {k : κ} {v : β} (h : l.lookup k = some v) :
    (k, v) ∈ l := by
  induction l with
  | nil => cases h
  | cons a l ih =>
    rw [lookup_cons_eq_ite] at h
    by_cases hk : k = a.1
    · rw [if_pos hk, Option.some.injEq] at h
      subst hk h
      exact List.mem_cons_self
    · rw [if_neg hk] at h
      exact List.mem_cons_of_mem a (ih h)

/-- With each key once, a lookup does not depend on the order of the entries. -/
lemma lookup_reverse {l : List (κ × β)} (hl : (l.map Prod.fst).Nodup) (k : κ) :
    l.reverse.lookup k = l.lookup k := by
  have hl' : (l.reverse.map Prod.fst).Nodup := by
    rw [List.map_reverse, List.nodup_reverse]
    exact hl
  cases hk : l.lookup k with
  | none =>
    apply lookup_eq_none_of_not_mem
    intro hmem
    obtain ⟨e, he, rfl⟩ := List.mem_map.mp hmem
    have hfound := lookup_of_mem_nodup hl (List.mem_reverse.mp he)
    rw [hk] at hfound
    cases hfound
  | some v => exact lookup_of_mem_nodup hl' (List.mem_reverse.mpr (mem_of_lookup_eq_some hk))

/-- The first entry of a sorted list has the least key. -/
lemma first_le {a : κ × β} {l : List (κ × β)} (hl : KeysSorted (a :: l)) {e : κ × β}
    (he : e ∈ a :: l) : a.1 ≤ e.1 := by
  rcases List.mem_cons.mp he with rfl | he'
  · exact le_rfl
  · exact (List.rel_of_pairwise_cons hl he').le

/-- The entry of `k` inserted with the value `v` where `k` has none (`m[k]` of `std::map`). -/
def insertIfAbsent (k : κ) (v : β) : List (κ × β) → List (κ × β)
  | [] => [(k, v)]
  | e :: rest =>
    if k < e.1 then (k, v) :: e :: rest
    else if k = e.1 then e :: rest
    else e :: insertIfAbsent k v rest

lemma mem_insertIfAbsent {k : κ} {v : β} {l : List (κ × β)} {a : κ × β}
    (h : a ∈ insertIfAbsent k v l) : a = (k, v) ∨ a ∈ l := by
  induction l with
  | nil => simpa [insertIfAbsent] using h
  | cons e rest ih =>
    simp only [insertIfAbsent] at h
    split_ifs at h with hlt heq
    · rcases List.mem_cons.mp h with h | h
      · exact .inl h
      · exact .inr h
    · exact .inr h
    · rcases List.mem_cons.mp h with h | h
      · exact .inr (h ▸ List.mem_cons_self)
      · exact (ih h).imp_right (List.mem_cons_of_mem e)

lemma sorted_insertIfAbsent (k : κ) (v : β) {l : List (κ × β)} (hl : KeysSorted l) :
    KeysSorted (insertIfAbsent k v l) := by
  induction l with
  | nil => exact List.pairwise_singleton _ _
  | cons e rest ih =>
    simp only [insertIfAbsent]
    split_ifs with hlt heq
    · -- `k` goes first: it is below `e`, and so below everything after `e`
      refine List.Pairwise.cons (fun a ha => ?_) hl
      rcases List.mem_cons.mp ha with rfl | ha'
      · exact hlt
      · exact hlt.trans (List.rel_of_pairwise_cons hl ha')
    · exact hl
    · -- `e` stays first: it is below `k` and below everything after it
      refine List.Pairwise.cons (fun a ha => ?_) (ih (List.Pairwise.of_cons hl))
      rcases mem_insertIfAbsent ha with rfl | ha'
      · exact lt_of_le_of_ne (not_lt.mp hlt) (Ne.symm heq)
      · exact List.rel_of_pairwise_cons hl ha'

lemma lookup_insertIfAbsent (k : κ) (v : β) {l : List (κ × β)} (hl : KeysSorted l) (k' : κ) :
    (insertIfAbsent k v l).lookup k' =
      if k' = k then some ((l.lookup k).getD v) else l.lookup k' := by
  induction l with
  | nil => by_cases h : k' = k <;> simp [insertIfAbsent, lookup_cons_eq_ite, h]
  | cons e rest ih =>
    simp only [insertIfAbsent]
    by_cases hlt : k < e.1
    · -- inserted in front of `e`, below every key, so `k` had no entry
      have hnone : (e :: rest).lookup k = none :=
        lookup_eq_none_of_lt fun a ha => lt_of_lt_of_le hlt (first_le hl ha)
      rw [if_pos hlt, lookup_cons_eq_ite, hnone]
      by_cases hk : k' = k
      · simp [hk]
      · simp [hk]
    by_cases heq : k = e.1
    · -- `k` is the key of `e`: nothing changes
      rw [if_neg hlt, if_pos heq]
      by_cases hk : k' = k
      · simp [hk, heq, lookup_cons_eq_ite]
      · simp [hk]
    · rw [if_neg hlt, if_neg heq, lookup_cons_eq_ite, ih (List.Pairwise.of_cons hl)]
      by_cases hk : k' = k
      · subst hk
        simp [heq, lookup_cons_eq_ite]
      · simp [hk, lookup_cons_eq_ite]

/-- The value of the entry of `k` changed by `f`. -/
def modify (k : κ) (f : β → β) (l : List (κ × β)) : List (κ × β) :=
  l.map fun e => if e.1 = k then (e.1, f e.2) else e

lemma keys_modify (k : κ) (f : β → β) (l : List (κ × β)) :
    (modify k f l).map Prod.fst = l.map Prod.fst := by
  simp only [modify, List.map_map]
  congr 1
  funext e
  by_cases h : e.1 = k <;> simp [h]

lemma sorted_modify (k : κ) (f : β → β) {l : List (κ × β)} (hl : KeysSorted l) :
    KeysSorted (modify k f l) :=
  sorted_of_keys_sublist (keys_modify k f l ▸ List.Sublist.refl _) hl

lemma lookup_modify (k : κ) (f : β → β) (l : List (κ × β)) (k' : κ) :
    (modify k f l).lookup k' = if k' = k then (l.lookup k).map f else l.lookup k' := by
  induction l with
  | nil => by_cases h : k' = k <;> simp [modify, h]
  | cons e rest ih =>
    simp only [modify, List.map_cons] at ih ⊢
    by_cases he : e.1 = k
    · by_cases hk : k' = k
      · simp [lookup_cons_eq_ite, he, hk]
      · simp [lookup_cons_eq_ite, he, hk, ih]
    · have he' : k ≠ e.1 := fun h => he h.symm
      by_cases hk : k' = e.1
      · subst hk
        simp [lookup_cons_eq_ite, he]
      · simp [lookup_cons_eq_ite, he, he', hk, ih]

/-- The entry of `k` removed. -/
def erase (k : κ) (l : List (κ × β)) : List (κ × β) := l.filter fun e => e.1 ≠ k

lemma sorted_erase (k : κ) {l : List (κ × β)} (hl : KeysSorted l) : KeysSorted (erase k l) :=
  List.Pairwise.filter _ hl

lemma lookup_erase (k : κ) (l : List (κ × β)) (k' : κ) :
    (erase k l).lookup k' = if k' = k then none else l.lookup k' := by
  induction l with
  | nil => simp [erase]
  | cons e rest ih =>
    simp only [erase] at ih ⊢
    by_cases he : e.1 = k
    · rw [List.filter_cons_of_neg (by simp [he]), ih]
      by_cases hk : k' = k
      · simp [hk]
      · have hk' : k' ≠ e.1 := fun h => hk (h.trans he)
        simp [lookup_cons_eq_ite, hk, hk']
    · rw [List.filter_cons_of_pos (by simp [he]), lookup_cons_eq_ite, lookup_cons_eq_ite, ih]
      by_cases hk : k' = e.1
      · simp [hk, he]
      · simp [hk]

end Sorted

/-- An ordered map (`std::map`): its entries in increasing order of their keys. -/
structure OrderedMap (κ β : Type _) [LinearOrder κ] where
  entries : List (κ × β)
  sorted : KeysSorted entries

namespace OrderedMap

variable {κ β : Type _} [LinearOrder κ]

/-- The empty map. -/
def empty : OrderedMap κ β := ⟨[], List.Pairwise.nil⟩

/-- `find`: the value at a key. -/
def find? (m : OrderedMap κ β) (k : κ) : Option β := m.entries.lookup k

/-- `operator[]`: the map with an entry for `k`, of value `v` where it had none. -/
def insertIfAbsent (m : OrderedMap κ β) (k : κ) (v : β) : OrderedMap κ β :=
  ⟨Lib.insertIfAbsent k v m.entries, sorted_insertIfAbsent k v m.sorted⟩

/-- The value at `k` changed by `f`, through the reference `operator[]` or `find` returns. -/
def modify (m : OrderedMap κ β) (k : κ) (f : β → β) : OrderedMap κ β :=
  ⟨Lib.modify k f m.entries, sorted_modify k f m.sorted⟩

/-- `erase`. -/
def erase (m : OrderedMap κ β) (k : κ) : OrderedMap κ β :=
  ⟨Lib.erase k m.entries, sorted_erase k m.sorted⟩

@[simp] lemma find?_empty (k : κ) : (empty : OrderedMap κ β).find? k = none := rfl

lemma find?_insertIfAbsent (m : OrderedMap κ β) (k : κ) (v : β) (k' : κ) :
    (m.insertIfAbsent k v).find? k' = if k' = k then some ((m.find? k).getD v) else m.find? k' :=
  lookup_insertIfAbsent k v m.sorted k'

lemma find?_modify (m : OrderedMap κ β) (k : κ) (f : β → β) (k' : κ) :
    (m.modify k f).find? k' = if k' = k then (m.find? k).map f else m.find? k' :=
  lookup_modify k f m.entries k'

lemma find?_erase (m : OrderedMap κ β) (k k' : κ) :
    (m.erase k).find? k' = if k' = k then none else m.find? k' :=
  lookup_erase k m.entries k'

end OrderedMap

end LogDevice.Lib
