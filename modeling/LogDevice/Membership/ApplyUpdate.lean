import LogDevice.Membership.StorageMembership

/-!
# What `applyUpdate` does

Spec lemmas for the membership update: one iteration of the loop (`applyShardUpdate_eq_ok`), the
whole loop (`applyShardUpdates_spec`: shards the update does not name keep their entries, each named
shard holds the result of its transition or is gone), and `applyUpdate` itself
(`applyUpdate_eq_ok`). The frame theorem `applyUpdate_frame` assembles them: on failure the output
parameter is untouched, on success the version is bumped, unnamed shards keep their state, named
ones are stamped with the new version or removed, and bootstrapping changes only on request.
-/

namespace LogDevice.Membership

namespace StorageMembership

/-- Shards of an update are distinct, since `shard_updates` is a `std::map`. -/
lemma Update.keys_nodup (u : Update) : (u.shard_updates.map Prod.fst).Nodup := by
  have hirr : ∀ a : ShardID, ¬ a < a := fun a h => by
    rcases h with h | ⟨-, h⟩ <;> exact lt_irrefl _ h
  refine List.Pairwise.map Prod.fst (fun a b hab heq => ?_) u.sorted
  exact hirr a.1 (heq ▸ hab)

/-- The state `applyUpdate` reads for a shard before transitioning it: the stored state, or the
initial state of a shard being added. -/
def CurrentState (m : StorageMembership) (shard : ShardID) (su : ShardState.Update)
    (cur : ShardState) : Prop :=
  (m.getShardState shard = none ∧ isAddingNewShard su.transition = true ∧
      cur = initialShardState) ∨
    (m.getShardState shard = some cur ∧ isAddingNewShard su.transition = false)

/-- A successful iteration read the shard's current state, passed the bootstrapping check and the
shard's transition, and committed the result. -/
lemma applyShardUpdate_eq_ok {m target target' : StorageMembership} {shard : ShardID}
    {su : ShardState.Update} (h : applyShardUpdate m target shard su = .ok target') :
    ∃ cur t, CurrentState m shard su cur ∧
      (isBootstrappingShard su.transition = true → m.bootstrapping = true) ∧
      ShardState.transition cur su target.version = .ok t ∧
      target' = if su.transition = .removeEmptyShard then target.eraseShardState shard
        else target.setShardState shard t := by
  unfold applyShardUpdate at h
  simp only [bind, Except.bind, pure, Except.pure, throw, throwThe, MonadExceptOf.throw] at h
  split at h
  · -- a shard missing from the membership: only `ADD_EMPTY_SHARD` goes on
    next hget =>
    split at h
    · cases h
    next hadd =>
    split at h
    · cases h
    next hboot =>
    split at h
    · cases h
    next t ht =>
    refine ⟨initialShardState, t, .inl ⟨hget, by simpa using hadd, rfl⟩,
      fun hb => by simpa [hb] using hboot, ht, ?_⟩
    split at h <;> cases h <;> simp_all
  · -- a shard of the membership: anything but `ADD_EMPTY_SHARD` goes on
    next st hget =>
    split at h
    · cases h
    next hadd =>
    split at h
    · cases h
    next hboot =>
    split at h
    · cases h
    next t ht =>
    refine ⟨st, t, .inr ⟨hget, by simpa using hadd⟩, fun hb => by simpa [hb] using hboot, ht, ?_⟩
    split at h <;> cases h <;> simp_all

/-- Committing a shard's new state, or erasing it, changes only that shard. -/
lemma getShardState_commit (target : StorageMembership) (shard shard' : ShardID)
    (su : ShardState.Update) (t : ShardState) :
    (if su.transition = .removeEmptyShard then target.eraseShardState shard
      else target.setShardState shard t).getShardState shard' =
      if shard' = shard then (if su.transition = .removeEmptyShard then none else some t)
      else target.getShardState shard' := by
  split
  · rw [getShardState_eraseShardState]
  · rw [getShardState_setShardState]

/-- The metadata index after committing one shard. -/
lemma mem_metadata_shards_commit (target : StorageMembership) (shard shard' : ShardID)
    (su : ShardState.Update) (t : ShardState) :
    shard' ∈ (if su.transition = .removeEmptyShard then target.eraseShardState shard
      else target.setShardState shard t).metadata_shards ↔
      if shard' = shard then su.transition ≠ .removeEmptyShard ∧ t.metadata_state ≠ .none
      else shard' ∈ target.metadata_shards := by
  split
  · next hr =>
    rw [mem_metadata_shards_eraseShardState]
    by_cases h : shard' = shard <;> simp [h, hr]
  · next hr =>
    rw [mem_metadata_shards_setShardState]
    by_cases h : shard' = shard <;> simp [h, hr]

/-- What the loop of `applyUpdate` leaves for a shard it updated: the result of the shard's
transition from the state read in `m`, or no entry after `REMOVE_EMPTY_SHARD`; the metadata index
follows the entry. -/
def Committed (m : StorageMembership) (v : MembershipVersion) (shard : ShardID)
    (su : ShardState.Update) (m' : StorageMembership) : Prop :=
  ∃ cur t, CurrentState m shard su cur ∧ ShardState.transition cur su v = .ok t ∧
    (su.transition = .removeEmptyShard →
      m'.getShardState shard = none ∧ shard ∉ m'.metadata_shards) ∧
    (su.transition ≠ .removeEmptyShard →
      m'.getShardState shard = some t ∧ (shard ∈ m'.metadata_shards ↔ t.metadata_state ≠ .none))

/-- A later iteration on another shard keeps what an earlier one committed. -/
lemma Committed.of_frame {m : StorageMembership} {v : MembershipVersion} {shard : ShardID}
    {su : ShardState.Update} {m₁ m₂ : StorageMembership} (h : Committed m v shard su m₁)
    (hget : m₂.getShardState shard = m₁.getShardState shard)
    (hmeta : shard ∈ m₂.metadata_shards ↔ shard ∈ m₁.metadata_shards) :
    Committed m v shard su m₂ := by
  obtain ⟨cur, t, hcs, ht, hrm, hset⟩ := h
  refine ⟨cur, t, hcs, ht, fun hr => ?_, fun hr => ?_⟩
  · rw [hget, hmeta]
    exact hrm hr
  · rw [hget, hmeta]
    exact hset hr

/-- The loop of `applyUpdate`: the working copy keeps its version and bootstrapping flag, shards
not in the update keep their entries, and each shard of the update holds its committed state. -/
lemma applyShardUpdates_spec (m : StorageMembership) :
    ∀ {target target' : StorageMembership} {us : List (ShardID × ShardState.Update)},
      (us.map Prod.fst).Nodup → applyShardUpdates m target us = .ok target' →
      target'.version = target.version ∧ target'.bootstrapping = target.bootstrapping ∧
      (∀ shard, shard ∉ us.map Prod.fst →
        target'.getShardState shard = target.getShardState shard ∧
          (shard ∈ target'.metadata_shards ↔ shard ∈ target.metadata_shards)) ∧
      (∀ shard su, (shard, su) ∈ us → Committed m target.version shard su target') := by
  intro target target' us
  induction us generalizing target with
  | nil =>
    intro _ h
    cases h
    exact ⟨rfl, rfl, fun _ _ => ⟨rfl, Iff.rfl⟩, fun _ _ hmem => absurd hmem List.not_mem_nil⟩
  | cons hd rest ih =>
    obtain ⟨shard₀, su₀⟩ := hd
    intro hnodup h
    simp only [List.map_cons, List.nodup_cons] at hnodup
    obtain ⟨hfresh, hnodup⟩ := hnodup
    simp only [applyShardUpdates, bind, Except.bind] at h
    split at h
    · cases h
    next target₁ h₁ =>
    obtain ⟨cur, t, hcs, -, ht, rfl⟩ := applyShardUpdate_eq_ok h₁
    obtain ⟨hver, hboot, hframe, hcommitted⟩ := ih hnodup h
    have hver₁ : (if su₀.transition = .removeEmptyShard then target.eraseShardState shard₀
        else target.setShardState shard₀ t).version = target.version := by
      split <;> rfl
    have hboot₁ : (if su₀.transition = .removeEmptyShard then target.eraseShardState shard₀
        else target.setShardState shard₀ t).bootstrapping = target.bootstrapping := by
      split <;> rfl
    refine ⟨hver.trans hver₁, hboot.trans hboot₁, fun shard hshard => ?_, fun shard su hmem => ?_⟩
    · -- a shard named nowhere in the update
      simp only [List.map_cons, List.mem_cons, not_or] at hshard
      obtain ⟨hne, hrest⟩ := hshard
      obtain ⟨hget, hmeta⟩ := hframe shard hrest
      refine ⟨hget.trans ?_, hmeta.trans ?_⟩
      · rw [getShardState_commit, if_neg hne]
      · rw [mem_metadata_shards_commit, if_neg hne]
    · rcases List.mem_cons.mp hmem with heq | hrest
      · -- the shard of this iteration: later iterations leave it alone
        obtain ⟨rfl, rfl⟩ := Prod.mk.inj heq
        obtain ⟨hget, hmeta⟩ := hframe shard hfresh
        refine Committed.of_frame ?_ hget hmeta
        refine ⟨cur, t, hcs, ht, fun hr => ?_, fun hr => ?_⟩
        · rw [getShardState_commit, mem_metadata_shards_commit]
          simp [hr]
        · rw [getShardState_commit, mem_metadata_shards_commit]
          simp [hr]
      · rw [← hver₁]
        exact hcommitted shard su hrest

/-- A successful `applyUpdate` validated the update, matched the base version, ran the loop on a
copy with the bumped version, and cleared bootstrapping when asked to. -/
lemma applyUpdate_eq_ok {m m' : StorageMembership} {u : Update} (h : m.applyUpdate u = .ok m') :
    u.isValid = true ∧ m.version = u.base_version ∧
      ∃ target, applyShardUpdates m { m with version := m.version + 1 } u.shard_updates =
          .ok target ∧
        (u.finalize_bootstrapping = true → m.bootstrapping = true) ∧
        m' = if u.finalize_bootstrapping then { target with bootstrapping := false } else target := by
  unfold applyUpdate at h
  simp only [bind, Except.bind, pure, Except.pure, throw, throwThe, MonadExceptOf.throw] at h
  split at h
  · cases h
  next hvalid =>
  split at h
  · cases h
  next hver =>
  split at h
  · cases h
  next target htarget =>
  refine ⟨by simpa using hvalid, by simpa using hver, target, htarget, ?_⟩
  split at h
  · next hfin =>
    split at h
    · cases h
    next hboot =>
    cases h
    exact ⟨fun _ => by simpa using hboot, by simp [hfin]⟩
  · next hfin =>
    cases h
    exact ⟨fun hf => absurd hf hfin, by simp [hfin]⟩

/-- A successful `applyUpdate`: the version is bumped, bootstrapping is cleared only on request,
shards the update does not name keep their entries, and each named shard holds the result of its
transition at the new version. -/
lemma applyUpdate_spec {m m' : StorageMembership} {u : Update} (h : m.applyUpdate u = .ok m') :
    m'.version = m.version + 1 ∧
    m'.bootstrapping = (if u.finalize_bootstrapping then false else m.bootstrapping) ∧
    (∀ shard, shard ∉ u.shard_updates.map Prod.fst →
      m'.getShardState shard = m.getShardState shard ∧
        (shard ∈ m'.metadata_shards ↔ shard ∈ m.metadata_shards)) ∧
    (∀ shard su, (shard, su) ∈ u.shard_updates → Committed m (m.version + 1) shard su m') := by
  obtain ⟨-, -, target, hloop, hfin, rfl⟩ := applyUpdate_eq_ok h
  obtain ⟨hver, hboot, hframe, hcommitted⟩ := applyShardUpdates_spec m u.keys_nodup hloop
  -- clearing the bootstrapping flag touches neither the shards nor the metadata index
  have hclear : ∀ b, ({ target with bootstrapping := b } : StorageMembership).getShardState =
      target.getShardState := fun _ => rfl
  refine ⟨?_, ?_, fun shard hshard => ?_, fun shard su hmem => ?_⟩
  · split <;> exact hver
  · split
    · rfl
    · next hf => simpa [hf] using hboot
  · obtain ⟨hget, hmeta⟩ := hframe shard hshard
    split
    · exact ⟨(congrFun (hclear false) shard).trans hget, hmeta⟩
    · exact ⟨hget, hmeta⟩
  · have hc := hcommitted shard su hmem
    split
    · exact hc.of_frame (congrFun (hclear false) shard) Iff.rfl
    · exact hc

/-- The frame of `StorageMembership::applyUpdate`: a failed update leaves the output parameter
exactly as it was; a successful one bumps the version, leaves every shard it does not name as it
was, stamps every shard it names with the new version (or removes it, for
`REMOVE_EMPTY_SHARD`), and changes bootstrapping only when `finalize_bootstrapping` is set. -/
theorem applyUpdate_frame (m : StorageMembership) (u : Update) (out : StorageMembership) :
    ((m.applyUpdateOut u out).1 = -1 → (m.applyUpdateOut u out).2 = out) ∧
    ((m.applyUpdateOut u out).1 = 0 →
      (m.applyUpdateOut u out).2.version = m.version + 1 ∧
      (∀ shard, shard ∉ u.shard_updates.map Prod.fst →
        (m.applyUpdateOut u out).2.getShardState shard = m.getShardState shard) ∧
      (∀ shard su, (shard, su) ∈ u.shard_updates →
        if su.transition = .removeEmptyShard then
          (m.applyUpdateOut u out).2.getShardState shard = none
        else ∃ st, (m.applyUpdateOut u out).2.getShardState shard = some st ∧
          st.since_version = m.version + 1) ∧
      (m.applyUpdateOut u out).2.bootstrapping =
        (if u.finalize_bootstrapping then false else m.bootstrapping)) := by
  unfold applyUpdateOut
  cases h : m.applyUpdate u with
  | error e => exact ⟨fun _ => rfl, fun h0 => absurd h0 (by simp)⟩
  | ok m' =>
    refine ⟨fun h1 => absurd h1 (by simp), fun _ => ?_⟩
    obtain ⟨hver, hboot, hframe, hcommitted⟩ := applyUpdate_spec h
    refine ⟨hver, fun shard hshard => (hframe shard hshard).1, fun shard su hmem => ?_, hboot⟩
    obtain ⟨cur, t, -, ht, hrm, hset⟩ := hcommitted shard su hmem
    split
    · next hr => exact (hrm hr).1
    · next hr => exact ⟨t, (hset hr).1, ShardState.transition_since_version ht⟩

end StorageMembership

end LogDevice.Membership
