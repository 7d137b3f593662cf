import Mathlib
import LogDevice.Lib.Count

/-!
# Association lists updated in place

A hash map whose iteration order matters is an `AList`: its entries, keys unique, in iteration
order. Updating the value at a key in place is `AList.replace`, which keeps the order; updating
every value is `mapVal`. The lemmas here say what a lookup sees after such an update, and how a
count of the entries that satisfy a predicate moves under `replace`, `erase` and `insert`: stated
additively, so that `omega` can use them without truncated subtraction.
-/

namespace LogDevice.Lib

namespace AList

open List

variable {α : Type _} {β : α → Type _} [DecidableEq α]

theorem kreplace_cons {a : α} {b : β a} (s : Sigma β) (l : List (Sigma β)) :
    kreplace a b (s :: l) = if a = s.1 then ⟨a, b⟩ :: l else s :: kreplace a b l := by
  unfold kreplace
  rw [lookmap_cons]
  by_cases h : a = s.1 <;> simp [h]

theorem dlookup_kreplace_self {a : α} {b : β a} {l : List (Sigma β)} (h : a ∈ l.keys) :
    (kreplace a b l).dlookup a = some b := by
  induction l with
  | nil => simp at h
  | cons s l ih =>
    rw [kreplace_cons]
    by_cases hs : a = s.1
    · rw [if_pos hs, dlookup_cons_eq]
    · rw [if_neg hs, dlookup_cons_ne _ _ hs]
      exact ih (by simpa [hs] using h)

theorem dlookup_kreplace_ne {a a' : α} {b : β a} (h : a' ≠ a) (l : List (Sigma β)) :
    (kreplace a b l).dlookup a' = l.dlookup a' := by
  induction l with
  | nil => rfl
  | cons s l ih =>
    rw [kreplace_cons]
    by_cases hs : a = s.1
    · rw [if_pos hs, dlookup_cons_ne _ _ h, dlookup_cons_ne _ _ (hs ▸ h)]
    · rw [if_neg hs]
      by_cases hs' : a' = s.1
      · obtain ⟨k, v⟩ := s
        simp only at hs'
        subst hs'
        rw [dlookup_cons_eq, dlookup_cons_eq]
      · rw [dlookup_cons_ne _ _ hs', dlookup_cons_ne _ _ hs', ih]

/-- Replacing the value at `a` swaps the contribution of the old entry for that of the new one. -/
theorem countP_kreplace {a : α} {b₀ : β a} (p : Sigma β → Bool) (b : β a) {l : List (Sigma β)}
    (h : l.dlookup a = some b₀) :
    (kreplace a b l).countP p + (if p ⟨a, b₀⟩ then 1 else 0) =
      l.countP p + (if p ⟨a, b⟩ then 1 else 0) := by
  induction l with
  | nil => simp at h
  | cons s l ih =>
    obtain ⟨k, v⟩ := s
    rw [kreplace_cons]
    by_cases hk : a = k
    · subst hk
      rw [dlookup_cons_eq] at h
      cases h
      rw [if_pos rfl]
      simp only [countP_cons]
      omega
    · rw [dlookup_cons_ne _ _ hk] at h
      simp only [if_neg hk, countP_cons]
      have := ih h
      omega

/-- Erasing the entry at `a` removes its contribution. -/
theorem countP_kerase {a : α} {b₀ : β a} (p : Sigma β → Bool) {l : List (Sigma β)}
    (h : l.dlookup a = some b₀) :
    (kerase a l).countP p + (if p ⟨a, b₀⟩ then 1 else 0) = l.countP p := by
  induction l with
  | nil => simp at h
  | cons s l ih =>
    obtain ⟨k, v⟩ := s
    by_cases hk : a = k
    · subst hk
      rw [dlookup_cons_eq] at h
      cases h
      have herase : kerase a (⟨a, b₀⟩ :: l) = l := kerase_cons_eq rfl
      rw [herase, countP_cons]
    · rw [dlookup_cons_ne _ _ hk] at h
      rw [kerase_cons_ne hk, countP_cons, countP_cons]
      have := ih h
      omega

variable {s : AList β}

theorem lookup_replace_self {a : α} {b : β a} (h : a ∈ s) : (s.replace a b).lookup a = some b :=
  dlookup_kreplace_self (AList.mem_keys.mp h)

theorem lookup_replace_ne {a a' : α} {b : β a} (h : a' ≠ a) :
    (s.replace a b).lookup a' = s.lookup a' :=
  dlookup_kreplace_ne h s.entries

theorem countP_replace {a : α} {b₀ : β a} (p : Sigma β → Bool) (b : β a)
    (h : s.lookup a = some b₀) :
    (s.replace a b).entries.countP p + (if p ⟨a, b₀⟩ then 1 else 0) =
      s.entries.countP p + (if p ⟨a, b⟩ then 1 else 0) :=
  countP_kreplace p b h

theorem countP_erase {a : α} {b₀ : β a} (p : Sigma β → Bool) (h : s.lookup a = some b₀) :
    (s.erase a).entries.countP p + (if p ⟨a, b₀⟩ then 1 else 0) = s.entries.countP p :=
  countP_kerase p h

theorem erase_of_notMem {a : α} (h : a ∉ s) : s.erase a = s :=
  AList.ext (kerase_of_notMem_keys (AList.mem_keys.not.mp h))

theorem countP_insert_of_notMem {a : α} {b : β a} (p : Sigma β → Bool) (h : a ∉ s) :
    (s.insert a b).entries.countP p = s.entries.countP p + (if p ⟨a, b⟩ then 1 else 0) := by
  rw [AList.entries_insert_of_notMem h, countP_cons]

/-- Every value updated in place by `f`. -/
def mapVal (f : ∀ a, β a → β a) (s : AList β) : AList β :=
  ⟨s.entries.map fun x => ⟨x.1, f x.1 x.2⟩, by
    have hkeys : (s.entries.map fun x => (⟨x.1, f x.1 x.2⟩ : Sigma β)).keys = s.entries.keys := by
      simp [List.keys, Function.comp_def]
    simpa [List.NodupKeys, hkeys] using s.nodupKeys⟩

theorem lookup_mapVal (f : ∀ a, β a → β a) (a : α) :
    (mapVal f s).lookup a = (s.lookup a).map (f a) := by
  obtain ⟨l, hl⟩ := s
  show (l.map fun x => (⟨x.1, f x.1 x.2⟩ : Sigma β)).dlookup a = (l.dlookup a).map (f a)
  clear hl
  induction l with
  | nil => rfl
  | cons x l ih =>
    obtain ⟨k, v⟩ := x
    by_cases hk : a = k
    · subst hk
      simp only [List.map_cons, dlookup_cons_eq, Option.map_some]
    · simp only [List.map_cons]
      rw [dlookup_cons_ne _ ⟨k, f k v⟩ hk, dlookup_cons_ne _ ⟨k, v⟩ hk]
      exact ih

omit [DecidableEq α] in
theorem countP_mapVal (f : ∀ a, β a → β a) (p : Sigma β → Bool)
    (hp : ∀ x : Sigma β, p ⟨x.1, f x.1 x.2⟩ = p x) :
    (mapVal f s).entries.countP p = s.entries.countP p := by
  show (s.entries.map _).countP p = _
  rw [List.countP_map]
  exact List.countP_congr fun x _ => by simp [hp x]

omit [DecidableEq α] in
theorem keys_mapVal (f : ∀ a, β a → β a) : (mapVal f s).keys = s.keys := by
  show (s.entries.map _).keys = s.entries.keys
  simp [List.keys, Function.comp_def]

theorem keys_toFinset_insert (a : α) (b : β a) :
    (s.insert a b).keys.toFinset = insert a s.keys.toFinset := by
  ext a'
  rw [List.mem_toFinset, ← AList.mem_keys, AList.mem_insert, Finset.mem_insert, List.mem_toFinset,
    ← AList.mem_keys]

theorem keys_toFinset_erase (a : α) : (s.erase a).keys.toFinset = s.keys.toFinset.erase a := by
  ext a'
  rw [List.mem_toFinset, ← AList.mem_keys, AList.mem_erase, Finset.mem_erase, List.mem_toFinset,
    ← AList.mem_keys]

theorem length_entries : s.entries.length = s.keys.toFinset.card := by
  rw [List.toFinset_card_of_nodup s.keys_nodup, AList.keys, List.keys, List.length_map]

/-! ### Maps with one type of values

A map of the source is an `AList` whose values all have one type; what is read at a key is the
value there or, as `operator[]` gives, a default. -/

section Const

variable {γ : Type _} {t : AList (fun _ : α => γ)}

theorem getD_lookup_insert (a a' : α) (b b₀ : γ) :
    ((t.insert a b).lookup a').getD b₀ = if a' = a then b else (t.lookup a').getD b₀ := by
  by_cases h : a' = a
  · subst h
    rw [AList.lookup_insert, if_pos rfl, Option.getD_some]
  · rw [AList.lookup_insert_ne h, if_neg h]

/-- Counting the entries of a map is counting its keys by the values read there. -/
theorem countP_entries (b₀ : γ) (p : α → γ → Bool) :
    t.entries.countP (fun e => p e.1 e.2) =
      (t.keys.toFinset.filter fun k => p k ((t.lookup k).getD b₀) = true).card := by
  obtain ⟨l, hl⟩ := t
  show l.countP _ = ((l.keys.toFinset).filter fun k => p k ((l.dlookup k).getD b₀) = true).card
  induction l with
  | nil => rfl
  | cons e l ih =>
    obtain ⟨k, v⟩ := e
    rw [List.nodupKeys_cons] at hl
    have hrest : (l.keys.toFinset.filter fun k' =>
          p k' ((List.dlookup k' (⟨k, v⟩ :: l)).getD b₀) = true) =
        (l.keys.toFinset.filter fun k' => p k' ((l.dlookup k').getD b₀) = true) :=
      Finset.filter_congr fun k' hk' => by
        have hne : k' ≠ k := fun h => hl.1 (h ▸ List.mem_toFinset.mp hk')
        rw [List.dlookup_cons_ne _ _ hne]
    rw [List.countP_cons, List.keys_cons, List.toFinset_cons,
      Count.card_filter_insert (fun h => hl.1 (List.mem_toFinset.mp h)), hrest, ih hl.2,
      List.dlookup_cons_eq, Option.getD_some]

/-- Adding up over the entries of a map is adding up over its keys the values read there. -/
theorem sum_entries (b₀ : γ) (f : α → γ → Nat) :
    (t.entries.map fun e => f e.1 e.2).sum = ∑ k ∈ t.keys.toFinset, f k ((t.lookup k).getD b₀) := by
  obtain ⟨l, hl⟩ := t
  show (l.map _).sum = ∑ k ∈ l.keys.toFinset, f k ((l.dlookup k).getD b₀)
  induction l with
  | nil => rfl
  | cons e l ih =>
    obtain ⟨k, v⟩ := e
    rw [List.nodupKeys_cons] at hl
    have hrest : ∑ k' ∈ l.keys.toFinset, f k' ((List.dlookup k' (⟨k, v⟩ :: l)).getD b₀) =
        ∑ k' ∈ l.keys.toFinset, f k' ((l.dlookup k').getD b₀) :=
      Finset.sum_congr rfl fun k' hk' => by
        have hne : k' ≠ k := fun h => hl.1 (h ▸ List.mem_toFinset.mp hk')
        rw [List.dlookup_cons_ne _ _ hne]
    rw [List.map_cons, List.sum_cons, List.keys_cons, List.toFinset_cons,
      Finset.sum_insert (fun h => hl.1 (List.mem_toFinset.mp h)), hrest, ih hl.2,
      List.dlookup_cons_eq, Option.getD_some]

/-- The entries of a map at one key: the one there, if any. -/
theorem filter_key_eq (a : α) :
    t.entries.filter (fun e => e.1 == a) = ((t.lookup a).map fun b => ⟨a, b⟩).toList := by
  obtain ⟨l, hl⟩ := t
  show l.filter _ = ((l.dlookup a).map fun b => (⟨a, b⟩ : Sigma fun _ : α => γ)).toList
  induction l with
  | nil => rfl
  | cons e l ih =>
    obtain ⟨k, v⟩ := e
    rw [List.nodupKeys_cons] at hl
    by_cases hk : k = a
    · -- the key is not repeated, so nothing after the entry has it
      subst hk
      have hrest : l.dlookup k = none := List.dlookup_eq_none.mpr hl.1
      rw [List.filter_cons_of_pos (by simp), ih hl.2, hrest, List.dlookup_cons_eq]
      rfl
    · rw [List.filter_cons_of_neg (by simpa using hk), ih hl.2,
        List.dlookup_cons_ne _ _ (Ne.symm hk)]

end Const

end AList

namespace Finmap

variable {α : Type _} [DecidableEq α] {γ : Type _} {m : Finmap (fun _ : α => γ)}

theorem lookup_insert_eq_ite (a a' : α) (b : γ) :
    (m.insert a b).lookup a' = if a' = a then some b else m.lookup a' := by
  split_ifs with h
  · rw [h, Finmap.lookup_insert]
  · exact Finmap.lookup_insert_of_ne _ h

theorem getD_lookup_insert (a a' : α) (b b₀ : γ) :
    ((m.insert a b).lookup a').getD b₀ = if a' = a then b else (m.lookup a').getD b₀ := by
  split_ifs with h
  · rw [h, Finmap.lookup_insert, Option.getD_some]
  · rw [Finmap.lookup_insert_of_ne _ h]

theorem keys_insert (a : α) (b : γ) : (m.insert a b).keys = insert a m.keys := by
  ext a'
  rw [Finmap.mem_keys, Finmap.mem_insert, Finset.mem_insert, Finmap.mem_keys]

end Finmap

end LogDevice.Lib
