import LogDevice.Configuration.Replication
import LogDevice.Lsn

/-!
# The epoch metadata of a log

Model of `EpochMetaDataMap` (`common/EpochMetaDataMap.{h,cpp}`) as `getNarrowestReplication`
reads it: the `EpochMetaData` in effect for each range of epochs, keyed by the epoch it is
effective since, and the epoch the map is effective until. Of an `EpochMetaData` the model keeps
the epoch it is effective since and its replication property, and `EpochMetaData::isValid` is
the validity of that property. The `std::map` is a list with its keys ascending, an iterator an
index into it.

An entry is in effect from its `effective_since` until the next entry's, the first one also
before its own (`getIteratorForEpoch`). `getNarrowestReplication lo hi` visits the entries from
the one in effect at `lo` to the one in effect at `hi`: exactly those in effect at some epoch of
`lo..hi` (`range_eq_covering`).
-/

namespace LogDevice

open LogDevice.Configuration LogDevice.Lib

/-- What the map reads of an `EpochMetaData`. -/
structure EpochMetaData where
  effective_since : Epoch
  replication : ReplicationProperty

namespace EpochMetaData

/-- `EpochMetaData::isValid`, of the fields modelled: a valid replication property. -/
def isValid (metadata : EpochMetaData) : Bool :=
  metadata.replication.isValid

end EpochMetaData

namespace EpochMetaDataMap

/-- The largest `EpochMetaDataMapHeader::entry_size_t`. -/
def entry_size_max : Nat := 2 ^ 32 - 1

/-- `EpochMetaDataMap::isValid (const Map&, epoch_t)`: a nonempty map small enough for its header,
effective until a valid epoch not before its last entry, every entry valid and keyed by the epoch
it is effective since. -/
def isValid (epoch_map : List (Epoch × EpochMetaData)) (effective_until : Epoch) : Bool :=
  match epoch_map.getLast? with
  | none => false
  | some last =>
    decide (epoch_map.length ≤ entry_size_max) && effective_until != EPOCH_INVALID &&
      !(effective_until < last.2.effective_since) &&
      epoch_map.all fun kv => kv.2.isValid && kv.2.effective_since == kv.1

end EpochMetaDataMap

/-- `class EpochMetaDataMap` as `EpochMetaDataMap::create` accepts it; `epoch_map_` is a
`std::map`, its keys ascending. -/
structure EpochMetaDataMap where
  epoch_map_ : List (Epoch × EpochMetaData)
  effective_until_ : Epoch
  sorted : epoch_map_.Pairwise fun kv kv' => kv.1 < kv'.1
  valid : EpochMetaDataMap.isValid epoch_map_ effective_until_ = true

namespace EpochMetaDataMap

/-- `EpochMetaDataMap::getIteratorForEpoch`: the index of the last entry effective at or before
`epoch` (`upper_bound`, then one step back). -/
def getIteratorForEpoch (m : EpochMetaDataMap) (epoch : Epoch) : Nat :=
  let it := m.epoch_map_.findIdx fun kv => epoch < kv.1
  -- the first entry covers the range from `EPOCH_MIN` to its `effective_since` as well
  if it = 0 then it else it - 1

/-- The loop of `getNarrowestReplication` over the entries it visits: the first entry's property,
then `narrowest` with each next one. -/
def narrowestOf : List (Epoch × EpochMetaData) → ReplicationProperty
  | [] => ReplicationProperty.empty
  | first :: rest =>
    rest.foldl (fun rep kv => rep.narrowest kv.2.replication) first.2.replication

/-- `EpochMetaDataMap::getNarrowestReplication`: `narrowest` over the entries from the one in
effect at `min_epoch` to the one in effect at `max_epoch`; `none` (`E::INVALID_PARAM`) past
`effective_until`. -/
def getNarrowestReplication (m : EpochMetaDataMap) (min_epoch max_epoch : Epoch) :
    Option ReplicationProperty :=
  if max_epoch > m.effective_until_ then none
  else
    let first := m.getIteratorForEpoch min_epoch
    let last := m.getIteratorForEpoch max_epoch
    some (narrowestOf ((m.epoch_map_.take (last + 1)).drop first))

/-- The entries in effect at some epoch of `lo..hi`: an entry is in effect from its key (the first
entry from the start) until the next key. -/
def covering (m : EpochMetaDataMap) (lo hi : Epoch) : List (Epoch × EpochMetaData) :=
  m.epoch_map_.filter fun kv =>
    (m.epoch_map_.head?.map (·.1) == some kv.1 || kv.1 ≤ hi) &&
      m.epoch_map_.all fun next => !(kv.1 < next.1) || lo < next.1

variable (m : EpochMetaDataMap)

lemma ne_nil : m.epoch_map_ ≠ [] := by
  intro h
  have hv := m.valid
  simp [isValid, h] at hv

lemma isValid_of_mem {kv : Epoch × EpochMetaData} (h : kv ∈ m.epoch_map_) :
    kv.2.replication.isValid = true := by
  have hv := m.valid
  unfold isValid at hv
  split at hv
  · cases hv
  · simp only [Bool.and_eq_true, List.all_eq_true] at hv
    exact (hv.2 kv h).1

lemma key_lt_key {i j : Nat} (hi : i < m.epoch_map_.length) (hj : j < m.epoch_map_.length)
    (hij : i < j) : (m.epoch_map_[i].1).toNat < (m.epoch_map_[j].1).toNat :=
  UInt32.lt_iff_toNat_lt.mp (List.pairwise_iff_getElem.mp m.sorted i j hi hj hij)

/-- Keys ascend: a larger key is further on. -/
lemma lt_of_key_lt {i j : Nat} (hi : i < m.epoch_map_.length) (hj : j < m.epoch_map_.length)
    (h : (m.epoch_map_[i].1).toNat < (m.epoch_map_[j].1).toNat) : i < j := by
  by_contra hji
  rcases (not_lt.mp hji).lt_or_eq with hlt | rfl
  · exact absurd (m.key_lt_key hj hi hlt) (by omega)
  · exact absurd h (lt_irrefl _)

/-- `upper_bound`: the index of the first entry effective after `epoch`. -/
lemma upper_bound_le_iff (epoch : Epoch) {j : Nat} (hj : j < m.epoch_map_.length) :
    m.epoch_map_.findIdx (fun kv => epoch < kv.1) ≤ j ↔ epoch.toNat < (m.epoch_map_[j].1).toNat := by
  rw [findIdx_le_iff _ hj, decide_eq_true_iff, UInt32.lt_iff_toNat_lt]
  intro i j hi hj hij h
  rw [decide_eq_true_iff, UInt32.lt_iff_toNat_lt] at h ⊢
  rcases hij.lt_or_eq with hlt | rfl
  · exact lt_trans h (m.key_lt_key hi hj hlt)
  · exact h

lemma getIteratorForEpoch_eq (epoch : Epoch) :
    m.getIteratorForEpoch epoch = m.epoch_map_.findIdx (fun kv => epoch < kv.1) - 1 := by
  dsimp only [getIteratorForEpoch]
  split <;> omega

lemma getIteratorForEpoch_lt_length (epoch : Epoch) :
    m.getIteratorForEpoch epoch < m.epoch_map_.length := by
  have hpos : 0 < m.epoch_map_.length := List.length_pos_of_ne_nil m.ne_nil
  have hle : m.epoch_map_.findIdx (fun kv => epoch < kv.1) ≤ m.epoch_map_.length :=
    List.findIdx_le_length
  rw [getIteratorForEpoch_eq]
  omega

/-- The entries up to the one in effect at `epoch`: the first one, and those effective by
`epoch`. -/
lemma le_getIteratorForEpoch_iff {epoch : Epoch} {i : Nat} (hi : i < m.epoch_map_.length) :
    i ≤ m.getIteratorForEpoch epoch ↔ i = 0 ∨ (m.epoch_map_[i].1).toNat ≤ epoch.toNat := by
  have h := m.upper_bound_le_iff epoch hi
  rw [getIteratorForEpoch_eq]
  omega

/-- The entries from the one in effect at `epoch` on: those with no later entry effective by
`epoch`. -/
lemma getIteratorForEpoch_le_iff {epoch : Epoch} {i : Nat} (hi : i < m.epoch_map_.length) :
    m.getIteratorForEpoch epoch ≤ i ↔
      ∀ j (hj : j < m.epoch_map_.length), i < j → epoch.toNat < (m.epoch_map_[j].1).toNat := by
  rw [getIteratorForEpoch_eq]
  constructor
  · intro hle j hj hij
    exact (m.upper_bound_le_iff epoch hj).mp (by omega)
  · intro h
    by_contra hlt
    have hle : m.epoch_map_.findIdx (fun kv => epoch < kv.1) ≤ m.epoch_map_.length :=
      List.findIdx_le_length
    have hj : i + 1 < m.epoch_map_.length := by omega
    have hub := (m.upper_bound_le_iff epoch hj).mpr (h (i + 1) hj (by omega))
    omega

lemma mem_covering_iff {lo hi : Epoch} {kv : Epoch × EpochMetaData} :
    kv ∈ m.covering lo hi ↔ ∃ i, ∃ hi' : i < m.epoch_map_.length, m.epoch_map_[i] = kv ∧
      (i = 0 ∨ (m.epoch_map_[i].1).toNat ≤ hi.toNat) ∧
      ∀ j (hj : j < m.epoch_map_.length), i < j → lo.toNat < (m.epoch_map_[j].1).toNat := by
  have hpos : 0 < m.epoch_map_.length := List.length_pos_of_ne_nil m.ne_nil
  simp only [covering, List.mem_filter, Bool.and_eq_true, Bool.or_eq_true, List.all_eq_true]
  constructor
  · rintro ⟨hmem, hfirst, hlater⟩
    obtain ⟨i, hi', rfl⟩ := List.mem_iff_getElem.mp hmem
    refine ⟨i, hi', rfl, ?_, fun j hj hij => ?_⟩
    · rcases hfirst with hhead | hle
      · left
        rw [List.head?_eq_getElem?, List.getElem?_eq_getElem hpos] at hhead
        simp only [Option.map_some, beq_iff_eq, Option.some.injEq] at hhead
        by_contra hne
        exact absurd (m.key_lt_key hpos hi' (Nat.pos_of_ne_zero hne)) (by rw [hhead]; omega)
      · exact .inr (UInt32.le_iff_toNat_le.mp (decide_eq_true_iff.mp hle))
    · have hnext := hlater _ (List.getElem_mem hj)
      simp only [Bool.not_eq_true', decide_eq_false_iff_not, decide_eq_true_iff] at hnext
      rcases hnext with hnlt | hlo
      · exact absurd (UInt32.lt_iff_toNat_lt.mpr (m.key_lt_key hi' hj hij)) hnlt
      · exact UInt32.lt_iff_toNat_lt.mp hlo
  · rintro ⟨i, hi', rfl, hfirst, hlater⟩
    refine ⟨List.getElem_mem hi', ?_, fun next hnext => ?_⟩
    · rcases hfirst with rfl | hle
      · left
        simp [List.head?_eq_getElem?, List.getElem?_eq_getElem hpos]
      · exact .inr (decide_eq_true (UInt32.le_iff_toNat_le.mpr hle))
    · obtain ⟨j, hj, rfl⟩ := List.mem_iff_getElem.mp hnext
      simp only [Bool.not_eq_true', decide_eq_false_iff_not, decide_eq_true_iff]
      by_cases hlt : m.epoch_map_[i].1 < m.epoch_map_[j].1
      · exact .inr (UInt32.lt_iff_toNat_lt.mpr
          (hlater j hj (m.lt_of_key_lt hi' hj (UInt32.lt_iff_toNat_lt.mp hlt))))
      · exact .inl hlt

/-- The entries `getNarrowestReplication` visits are those in effect at some epoch of the
range. -/
lemma range_eq_covering (lo hi : Epoch) :
    (m.epoch_map_.take (m.getIteratorForEpoch hi + 1)).drop (m.getIteratorForEpoch lo) =
      m.covering lo hi := by
  have : Std.Irrefl fun kv kv' : Epoch × EpochMetaData => kv.1 < kv'.1 :=
    ⟨fun kv => lt_irrefl kv.1.toNat ∘ UInt32.lt_iff_toNat_lt.mp⟩
  have : Std.Antisymm fun kv kv' : Epoch × EpochMetaData => kv.1 < kv'.1 :=
    ⟨fun kv kv' h h' => absurd (UInt32.lt_iff_toNat_lt.mp h) (by
      have := UInt32.lt_iff_toNat_lt.mp h'
      omega)⟩
  apply List.Pairwise.eq_of_mem_iff (r := fun kv kv' : Epoch × EpochMetaData => kv.1 < kv'.1)
  · exact m.sorted.sublist ((List.drop_sublist _ _).trans (List.take_sublist _ _))
  · exact m.sorted.sublist List.filter_sublist
  · intro kv
    rw [mem_drop_take_iff, mem_covering_iff]
    refine exists_congr fun i => exists_congr fun hi' => and_congr_right fun _ => ?_
    rw [le_getIteratorForEpoch_iff _ hi', getIteratorForEpoch_le_iff _ hi']
    exact And.comm

lemma getNarrowestReplication_eq {lo hi : Epoch} (hhi : hi ≤ m.effective_until_) :
    m.getNarrowestReplication lo hi = some (narrowestOf (m.covering lo hi)) := by
  have hle : ¬ hi > m.effective_until_ := by
    rw [gt_iff_lt, UInt32.lt_iff_toNat_lt]
    exact not_lt.mpr (UInt32.le_iff_toNat_le.mp hhi)
  simp only [getNarrowestReplication, if_neg hle, range_eq_covering]

/-- Some entry is in effect over a nonempty range: the one in effect at `lo`. -/
lemma covering_ne_nil {lo hi : Epoch} (hlo : lo ≤ hi) : m.covering lo hi ≠ [] := by
  have ha := m.getIteratorForEpoch_lt_length lo
  have hab : m.getIteratorForEpoch lo ≤ m.getIteratorForEpoch hi := by
    rw [le_getIteratorForEpoch_iff _ ha]
    rcases (m.le_getIteratorForEpoch_iff ha).mp (le_refl (m.getIteratorForEpoch lo)) with h | h
    · exact .inl h
    · exact .inr (h.trans (UInt32.le_iff_toNat_le.mp hlo))
  rw [← range_eq_covering]
  exact List.ne_nil_of_mem (mem_drop_take_iff.mpr ⟨_, ha, rfl, le_rfl, hab⟩)

/-- In whatever bracketing `narrowest` is taken over the entries in effect at the epochs of
`lo..hi`, it is, up to `operator==`, what `getNarrowestReplication` returns. -/
lemma getNarrowestReplication_beq_eval {lo hi : Epoch} (hlo : lo ≤ hi)
    (hhi : hi ≤ m.effective_until_) {t : Bracketing ReplicationProperty}
    (ht : t.leaves = (m.covering lo hi).map (·.2.replication)) :
    ∃ rep, m.getNarrowestReplication lo hi = some rep ∧
      (rep == t.eval ReplicationProperty.narrowest) = true := by
  obtain ⟨kv, rest, hcov⟩ := List.exists_cons_of_ne_nil (m.covering_ne_nil hlo)
  have hleaves : t.leaves = kv.2.replication :: rest.map (·.2.replication) := by
    rw [ht, hcov, List.map_cons]
  have hvalid : ∀ rep ∈ t.leaves, rep.isValid = true := by
    rw [ht]
    intro rep hrep
    obtain ⟨kv', hkv', rfl⟩ := List.mem_map.mp hrep
    exact m.isValid_of_mem (List.mem_of_mem_filter hkv')
  -- what a valid property asks is sent by `narrowest` to the pointwise minimum
  have hop : ∀ a b : ReplicationProperty, a.isValid = true → b.isValid = true →
      (a.narrowest b).isValid = true := fun _ _ => ReplicationProperty.isValid_narrowest
  have hφ : ∀ a b : ReplicationProperty, a.isValid = true → b.isValid = true →
      (a.narrowest b).effectiveReplication = a.effectiveReplication ⊓ b.effectiveReplication :=
    fun _ _ ha hb => funext (ReplicationProperty.effectiveReplication_narrowest ha hb)
  obtain ⟨heval_valid, heval⟩ := Bracketing.map_eval hop hφ hleaves hvalid
  obtain ⟨hfold_valid, -⟩ := Bracketing.map_foldl hop hφ (hvalid _ (hleaves ▸ List.mem_cons_self))
    fun b hb => hvalid b (hleaves ▸ List.mem_cons_of_mem _ hb)
  refine ⟨(rest.map (·.2.replication)).foldl ReplicationProperty.narrowest kv.2.replication, ?_,
    ReplicationProperty.beq_of_effectiveReplication_eq hfold_valid heval_valid
      (congrFun heval.symm)⟩
  rw [m.getNarrowestReplication_eq hhi, hcov, narrowestOf, List.foldl_map]

end EpochMetaDataMap

open ReplicationProperty in
/-- `narrowest` of valid properties is valid and asks the smaller of what they ask at every
scope; so, up to `operator==`, it is commutative, idempotent and associative, a copyset spanning
what either asks satisfies it, and `getNarrowestReplication` is `narrowest` over the entries in
effect at the epochs asked for, in any bracketing. -/
theorem narrowest_min_laws (A B C : ReplicationProperty) (hA : A.isValid = true)
    (hB : B.isValid = true) (hC : C.isValid = true) :
    (A.narrowest B).isValid = true ∧
    (∀ scope, (A.narrowest B).effectiveReplication scope =
      min (A.effectiveReplication scope) (B.effectiveReplication scope)) ∧
    (A.narrowest B == B.narrowest A) = true ∧ (A.narrowest A == A) = true ∧
    ((A.narrowest B).narrowest C == A.narrowest (B.narrowest C)) = true ∧
    (∀ span : NodeLocationScope → Nat,
      ((∀ scope ∈ replicationScopes, A.effectiveReplication scope ≤ span scope) ∨
        ∀ scope ∈ replicationScopes, B.effectiveReplication scope ≤ span scope) →
      (A.narrowest B).satisfiedBy span) ∧
    ∀ (m : EpochMetaDataMap) (lo hi : Epoch) (t : Bracketing ReplicationProperty),
      lo ≤ hi → hi ≤ m.effective_until_ → t.leaves = (m.covering lo hi).map (·.2.replication) →
      ∃ rep, m.getNarrowestReplication lo hi = some rep ∧ (rep == t.eval narrowest) = true :=
  ⟨isValid_narrowest hA hB, effectiveReplication_narrowest hA hB, narrowest_comm_beq hA hB,
    narrowest_self_beq hA, narrowest_assoc_beq hA hB hC, fun _ => satisfiedBy_narrowest hA hB,
    fun m _ _ _ hlo hhi ht => m.getNarrowestReplication_beq_eval hlo hhi ht⟩

open ReplicationProperty in
/-- The source's own example `{rack: 3}` and `{region: 2}`, with `{node: 4}` third. -/
theorem narrowest_min_laws_rack_region :
    let A : ReplicationProperty := ⟨fun scope => if scope = .RACK then 3 else 0⟩
    let B : ReplicationProperty := ⟨fun scope => if scope = .REGION then 2 else 0⟩
    let C : ReplicationProperty := ⟨fun scope => if scope = .NODE then 4 else 0⟩
    A.isValid = true ∧ B.isValid = true ∧ C.isValid = true ∧
    (A.narrowest B).isValid = true ∧
    (∀ scope, (A.narrowest B).effectiveReplication scope =
      min (A.effectiveReplication scope) (B.effectiveReplication scope)) ∧
    (A.narrowest B == B.narrowest A) = true ∧ (A.narrowest A == A) = true ∧
    ((A.narrowest B).narrowest C == A.narrowest (B.narrowest C)) = true ∧
    (∀ span : NodeLocationScope → Nat,
      ((∀ scope ∈ replicationScopes, A.effectiveReplication scope ≤ span scope) ∨
        ∀ scope ∈ replicationScopes, B.effectiveReplication scope ≤ span scope) →
      (A.narrowest B).satisfiedBy span) ∧
    ∀ (m : EpochMetaDataMap) (lo hi : Epoch) (t : Bracketing ReplicationProperty),
      lo ≤ hi → hi ≤ m.effective_until_ → t.leaves = (m.covering lo hi).map (·.2.replication) →
      ∃ rep, m.getNarrowestReplication lo hi = some rep ∧ (rep == t.eval narrowest) = true := by
  intro A B C
  have hA : A.isValid = true := by decide
  have hB : B.isValid = true := by decide
  have hC : C.isValid = true := by decide
  exact ⟨hA, hB, hC, narrowest_min_laws A B C hA hB hC⟩

end LogDevice
