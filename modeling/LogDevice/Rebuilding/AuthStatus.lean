import LogDevice.Lib.Loop
import LogDevice.Rebuilding.RebuildingSet

/-!
# Recomputing the authoritative status of a shard

Model of `EventLogRebuildingSet::recomputeShardAuthoritativeStatus` (one node) and
`recomputeAuthoritativeStatus` (every node of a shard offset, in the map's iteration order, a second
time when the first pass left no recoverable node, then the donors' progress entries).

A node's new status depends on the donors that may still hold its records: the storage nodes other
than itself that did not lose their own data (`hasLostData`), less those that rebuilt it
authoritatively at a version at least `minAuthCompleteVersion`. `recompute_empty_iff` says when
a node rebuilt in `RESTORE` mode becomes `AUTHORITATIVE_EMPTY`.

For the whole pass, `Rechecked` says what a recomputation may change in a node (its status, its
remaining donors, and its `recoverable` flag, which may only go down) and `StatusOk` what it
establishes (an acked node is `FULLY_AUTHORITATIVE`, a node whose data may come back is not
`AUTHORITATIVE_EMPTY`).
-/

namespace LogDevice.Rebuilding

namespace RebuildingShardInfo

/-- `min_auth_complete_version`: the node's version, raised to the version of every node of the
shard that joined the rebuilding set before completing authoritatively for it. -/
def minAuthCompleteVersion (shard_info : RebuildingShardInfo) (node_info : NodeInfo) : Lsn :=
  shard_info.nodes_.entries.foldl
    (fun m n =>
      if n.2.version > m && !decide (n.1 ∈ node_info.donors_complete_authoritatively) then
        n.2.version
      else m)
    node_info.version

/-- Node `n` rebuilt `node_info`'s data authoritatively at a version that counts. -/
def authoritativelyComplete (node_info : NodeInfo) (min_auth_complete_version : Lsn)
    (n : NodeIndex) : Bool :=
  (node_info.donors_complete_authoritatively.lookup n).any (· ≥ min_auth_complete_version)

/-- Node `n` lost its data and cannot rebuild anything: it is rebuilt in full in `RESTORE` mode and
did not ack before `node_info` was marked, or it was drained in `RELOCATE` mode. -/
def hasLostData (shard_info : RebuildingShardInfo) (node_info : NodeInfo) (n : NodeIndex) : Bool :=
  (shard_info.nodes_.lookup n).any fun m =>
    (m.mode == .RESTORE && m.dc_dirty_ranges.isEmpty &&
        (!m.acked || m.ack_lsn > node_info.version)) ||
      (m.mode == .RELOCATE && m.auth_status == .AUTHORITATIVE_EMPTY)

/-- Node `n` rebuilt `node_info`'s data for the current rebuilding version. -/
def completeForVersion (shard_info : RebuildingShardInfo) (node_info : NodeInfo)
    (n : NodeIndex) : Bool :=
  (node_info.donors_complete.lookup n).any (· ≥ shard_info.version)

/-- The donors that may still hold records of the node and did not rebuild it authoritatively
(the first three loops of `recomputeShardAuthoritativeStatus`, from the storage membership). -/
def potentialDonors (shard_info : RebuildingShardInfo) (nidx : NodeIndex) (node_info : NodeInfo)
    (potential_donors : Finset NodeIndex) : Finset NodeIndex :=
  let min_auth_complete_version := shard_info.minAuthCompleteVersion node_info
  let potential_donors := potential_donors.filter fun n =>
    !authoritativelyComplete node_info min_auth_complete_version n
  let potential_donors := potential_donors.filter fun n => !shard_info.hasLostData node_info n
  -- a node can't be a donor to restore its own data
  if node_info.mode == .RESTORE then potential_donors.erase nidx else potential_donors

/-- `EventLogRebuildingSet::recomputeShardAuthoritativeStatus`: the node's new state, and whether it
sets `waiting_for_recoverable_shards_`. `potential_donors` is the storage membership. The source
clears `donors_remaining` first and refills it past the first two returns. -/
def recomputeShardAuthoritativeStatus (shard_info : RebuildingShardInfo) (nidx : NodeIndex)
    (node_info : NodeInfo) (potential_donors : Finset NodeIndex) : NodeInfo × Bool :=
  if node_info.acked then
    ({ node_info with donors_remaining := ∅, auth_status := .FULLY_AUTHORITATIVE }, false)
  else if node_info.auth_status == .AUTHORITATIVE_EMPTY then
    ({ node_info with donors_remaining := ∅ }, false)
  else
    let potential_donors := shard_info.potentialDonors nidx node_info potential_donors
    -- the donors that have not rebuilt the node for the current version
    let donors_remaining := potential_donors.filter fun n =>
      !shard_info.completeForVersion node_info n
    let status : AuthoritativeStatus × Bool :=
      if !node_info.dc_dirty_ranges.isEmpty then (.FULLY_AUTHORITATIVE, false)
      else if potential_donors = ∅ then (.AUTHORITATIVE_EMPTY, false)
      else
        match node_info.mode with
        | .RELOCATE =>
          (if donors_remaining = ∅ then .AUTHORITATIVE_EMPTY else .FULLY_AUTHORITATIVE, false)
        | .RESTORE =>
          if donors_remaining = ∅ && shard_info.num_recoverable_ == 0 then
            (.AUTHORITATIVE_EMPTY, false)
          else
            (if node_info.recoverable then .UNAVAILABLE else .UNDERREPLICATION,
              node_info.rebuildingIsNonAuthoritative && node_info.recoverable)
    ({ node_info with donors_remaining, auth_status := status.1 }, status.2)

/-- One iteration of the loop of `recompute_auth_status` in `recomputeAuthoritativeStatus`. -/
def recomputeNode (storage_nodes : Finset NodeIndex) (shard_info : RebuildingShardInfo)
    (nidx : NodeIndex) : RebuildingShardInfo :=
  match shard_info.nodes_.lookup nidx with
  | none => shard_info
  | some node_info =>
    let r := shard_info.recomputeShardAuthoritativeStatus nidx node_info storage_nodes
    let shard_info :=
      { shard_info with
        nodes_ := shard_info.nodes_.replace nidx r.1
        waiting_for_recoverable_shards_ := shard_info.waiting_for_recoverable_shards_ || r.2 }
    -- clear the recoverable flag when the shard is empty
    if r.1.auth_status == .AUTHORITATIVE_EMPTY then shard_info.setShardRecoverable nidx false
    else shard_info

/-- `recompute_auth_status`: every node, in iteration order. -/
def recompute_auth_status (storage_nodes : Finset NodeIndex) (shard_info : RebuildingShardInfo) :
    RebuildingShardInfo :=
  shard_info.nodes_.keys.foldl (recomputeNode storage_nodes) shard_info

/-- The last loop of `recomputeAuthoritativeStatus`: a progress entry for every remaining donor. -/
def fillDonorProgress (shard_info : RebuildingShardInfo) : RebuildingShardInfo :=
  { shard_info with
    donor_progress := fun nid =>
      match shard_info.donor_progress nid with
      | some p => some p
      | none =>
        if shard_info.nodes_.entries.any fun n => decide (nid ∈ n.2.donors_remaining) then
          some {}
        else none }

/-- `EventLogRebuildingSet::recomputeAuthoritativeStatus` on the shard's entry. -/
def recomputeAuthoritativeStatus (storage_nodes : Finset NodeIndex)
    (shard_info : RebuildingShardInfo) : RebuildingShardInfo :=
  let shard_info := { shard_info with waiting_for_recoverable_shards_ := false }
  let num_recoverable_prev := shard_info.num_recoverable_
  let shard_info := shard_info.recompute_auth_status storage_nodes
  -- a pass that left no recoverable node may let more nodes become empty
  let shard_info :=
    if num_recoverable_prev > 0 && shard_info.num_recoverable_ == 0 then
      shard_info.recompute_auth_status storage_nodes
    else shard_info
  shard_info.fillDonorProgress

/-! ## One node -/

section

variable (shard_info : RebuildingShardInfo) (nidx : NodeIndex) (node_info : NodeInfo)
  (storage_nodes : Finset NodeIndex)

/-- Recomputing a node changes its status and its remaining donors, nothing else. -/
lemma recompute_frame : ∃ donors_remaining auth_status,
    (shard_info.recomputeShardAuthoritativeStatus nidx node_info storage_nodes).1 =
      { node_info with donors_remaining, auth_status } := by
  unfold recomputeShardAuthoritativeStatus
  dsimp only
  split_ifs <;> (try split) <;> exact ⟨_, _, rfl⟩

/-- An acked node is `FULLY_AUTHORITATIVE`. -/
lemma recompute_acked (h : node_info.acked = true) :
    (shard_info.recomputeShardAuthoritativeStatus nidx node_info storage_nodes).1.auth_status =
      .FULLY_AUTHORITATIVE := by
  simp [recomputeShardAuthoritativeStatus, h]

/-- A node that is `AUTHORITATIVE_EMPTY` stays so until it acks. -/
lemma recompute_empty (hacked : node_info.acked = false)
    (h : node_info.auth_status = .AUTHORITATIVE_EMPTY) :
    (shard_info.recomputeShardAuthoritativeStatus nidx node_info storage_nodes).1.auth_status =
      .AUTHORITATIVE_EMPTY := by
  simp [recomputeShardAuthoritativeStatus, hacked, h]

/-- The storage nodes that may still hold records of `nidx`'s shard: all but `nidx` itself and the
nodes that lost their data. -/
def candidateDonors : Finset NodeIndex :=
  (storage_nodes.filter fun n => !shard_info.hasLostData node_info n).erase nidx

/-- When a node rebuilt in full in `RESTORE` mode becomes `AUTHORITATIVE_EMPTY`: every candidate
donor rebuilt it authoritatively at a version that counts, or every candidate donor rebuilt it
(authoritatively, or for the current version) and no node of the shard may come back. -/
theorem recompute_empty_iff (hacked : node_info.acked = false)
    (hst : node_info.auth_status ≠ .AUTHORITATIVE_EMPTY) (hmode : node_info.mode = .RESTORE)
    (hdirty : node_info.dc_dirty_ranges = []) :
    (shard_info.recomputeShardAuthoritativeStatus nidx node_info storage_nodes).1.auth_status =
        .AUTHORITATIVE_EMPTY ↔
      (∀ n ∈ candidateDonors shard_info nidx node_info storage_nodes,
          authoritativelyComplete node_info (shard_info.minAuthCompleteVersion node_info) n) ∨
        ((∀ n ∈ candidateDonors shard_info nidx node_info storage_nodes,
            authoritativelyComplete node_info (shard_info.minAuthCompleteVersion node_info) n ∨
              shard_info.completeForVersion node_info n) ∧
          shard_info.num_recoverable_ = 0) := by
  have hst' : (node_info.auth_status == .AUTHORITATIVE_EMPTY) = false := by simpa using hst
  unfold recomputeShardAuthoritativeStatus
  simp only [hacked, hst', hdirty, hmode, Bool.false_eq_true, reduceIte, List.isEmpty_nil,
    Bool.not_true]
  set C := candidateDonors shard_info nidx node_info storage_nodes
  set P := shard_info.potentialDonors nidx node_info storage_nodes
  set authC := authoritativelyComplete node_info (shard_info.minAuthCompleteVersion node_info)
  -- the code's potential donors are the candidates that did not complete authoritatively
  have hP : P = C.filter fun n => !authC n := by
    ext n
    simp only [P, C, potentialDonors, candidateDonors, hmode, Finset.mem_filter, Finset.mem_erase]
    simp only [beq_self_eq_true, reduceIte, Finset.mem_erase, Finset.mem_filter]
    tauto
  have hP0 : P = ∅ ↔ ∀ n ∈ C, authC n = true := by
    rw [hP, Finset.filter_eq_empty_iff]
    simp
  have hR0 : (P.filter fun n => !shard_info.completeForVersion node_info n) = ∅ ↔
      ∀ n ∈ C, authC n = true ∨ shard_info.completeForVersion node_info n = true := by
    rw [Finset.filter_eq_empty_iff, hP]
    simp only [Finset.mem_filter, Bool.not_eq_eq_eq_not, Bool.not_true, and_imp]
    constructor
    · intro h n hn
      cases ha : authC n
      · exact .inr (by simpa using h hn ha)
      · exact .inl rfl
    · intro h n hn ha
      simpa [ha] using h n hn
  by_cases hp : P = ∅
  · simp only [hp, reduceIte, true_iff]
    exact .inl (hP0.mp hp)
  · -- some donor has not completed authoritatively: empty only through the second branch
    have hnot : ¬∀ n ∈ C, authC n = true := fun h => hp (hP0.mpr h)
    simp only [hp, reduceIte, Bool.and_eq_true, decide_eq_true_eq, beq_iff_eq, hR0, hnot, false_or]
    split_ifs with hd
    · simpa using hd
    · exact iff_of_false (by simp) hd
    · exact iff_of_false (by simp) hd

end

/-! ## One pass over the nodes -/

/-- What recomputing may change in a node: its status, its remaining donors, and its
`recoverable` flag, which only goes down. A node `AUTHORITATIVE_EMPTY` and not acked stays so. -/
structure Rechecked (ni ni' : NodeInfo) : Prop where
  frame : ni' = { ni with
    donors_remaining := ni'.donors_remaining
    auth_status := ni'.auth_status
    recoverable := ni'.recoverable }
  recoverable_le : ni'.recoverable = true → ni.recoverable = true
  empty_sticky : ni.acked = false → ni.auth_status = .AUTHORITATIVE_EMPTY →
    ni'.auth_status = .AUTHORITATIVE_EMPTY

namespace Rechecked

variable {ni ni' ni'' : NodeInfo}

lemma refl (ni : NodeInfo) : Rechecked ni ni := ⟨rfl, id, fun _ h => h⟩

lemma acked (h : Rechecked ni ni') : ni'.acked = ni.acked := by
  rw [h.frame]

lemma version (h : Rechecked ni ni') : ni'.version = ni.version := by
  rw [h.frame]

lemma trans (h₁ : Rechecked ni ni') (h₂ : Rechecked ni' ni'') : Rechecked ni ni'' where
  frame := by
    rw [h₂.frame]
    conv_lhs => rw [h₁.frame]
  recoverable_le h := h₁.recoverable_le (h₂.recoverable_le h)
  empty_sticky hacked hempty := h₂.empty_sticky (h₁.acked ▸ hacked) (h₁.empty_sticky hacked hempty)

end Rechecked

/-- What recomputing establishes in a node: an acked node is `FULLY_AUTHORITATIVE`, and a node
whose data may come back is not `AUTHORITATIVE_EMPTY`. -/
structure StatusOk (ni : NodeInfo) : Prop where
  acked_fully : ni.acked = true → ni.auth_status = .FULLY_AUTHORITATIVE
  recoverable_not_empty : ni.recoverable = true → ni.acked = false →
    ni.auth_status ≠ .AUTHORITATIVE_EMPTY

section

variable (storage_nodes : Finset NodeIndex) (shard_info : RebuildingShardInfo) (nidx : NodeIndex)

/-- The node of an iteration is recomputed, and made unrecoverable when it turns out empty; the
other nodes are left alone. -/
lemma lookup_recomputeNode (k : NodeIndex) :
    (shard_info.recomputeNode storage_nodes nidx).nodes_.lookup k =
      (shard_info.nodes_.lookup k).map fun ni =>
        if k = nidx then
          let r := (shard_info.recomputeShardAuthoritativeStatus nidx ni storage_nodes).1
          if r.auth_status == .AUTHORITATIVE_EMPTY then { r with recoverable := false } else r
        else ni := by
  unfold recomputeNode
  split
  next hnone =>
    by_cases hk : k = nidx
    · subst hk
      simp [hnone]
    · simp [hk]
  next ni hsome =>
    have hmem : nidx ∈ shard_info.nodes_ := AList.lookup_isSome.mp (by simp [hsome])
    -- the node is made unrecoverable after its update exactly when it turned out empty
    by_cases hk : k = nidx
    · rw [hk]
      by_cases hae :
          (shard_info.recomputeShardAuthoritativeStatus nidx ni storage_nodes).1.auth_status =
            .AUTHORITATIVE_EMPTY <;>
        simp [hae, hsome, lookup_setShardRecoverable, Lib.AList.lookup_replace_self hmem]
    · by_cases hae :
          (shard_info.recomputeShardAuthoritativeStatus nidx ni storage_nodes).1.auth_status =
            .AUTHORITATIVE_EMPTY <;>
        simp [hae, hk, lookup_setShardRecoverable, Lib.AList.lookup_replace_ne hk]

@[simp] lemma recomputeNode_version :
    (shard_info.recomputeNode storage_nodes nidx).version = shard_info.version := by
  unfold recomputeNode
  split
  · rfl
  · dsimp only
    split <;> simp

@[simp] lemma recomputeNode_donor_progress :
    (shard_info.recomputeNode storage_nodes nidx).donor_progress = shard_info.donor_progress := by
  unfold recomputeNode
  split
  · rfl
  · dsimp only
    split <;> simp

/-- The iteration's node is rechecked and ends with a consistent status. -/
lemma recomputeNode_self {ni : NodeInfo} (h : shard_info.nodes_.lookup nidx = some ni) :
    ∃ ni', (shard_info.recomputeNode storage_nodes nidx).nodes_.lookup nidx = some ni' ∧
      Rechecked ni ni' ∧ StatusOk ni' := by
  rw [lookup_recomputeNode, h]
  obtain ⟨dr, st, hr⟩ := recompute_frame shard_info nidx ni storage_nodes
  have hempty := recompute_empty shard_info nidx ni storage_nodes
  have hacked := recompute_acked shard_info nidx ni storage_nodes
  rw [hr] at hempty hacked
  simp only [Option.map_some, hr, beq_iff_eq]
  by_cases hst : st = .AUTHORITATIVE_EMPTY
  · -- an empty node also loses its `recoverable` flag
    simp only [hst, if_true] at hacked ⊢
    refine ⟨_, rfl, ⟨rfl, fun h => (by cases h), fun _ _ => rfl⟩,
      ⟨fun ha => absurd (hacked ha) (by simp), fun h => (by cases h)⟩⟩
  · simp only [hst, if_false] at hempty ⊢
    refine ⟨_, rfl, ⟨rfl, id, fun ha he => (hempty ha he).elim⟩, ⟨hacked, fun _ _ => hst⟩⟩

lemma Counted.recomputeNode (h : Counted shard_info) :
    Counted (shard_info.recomputeNode storage_nodes nidx) := by
  unfold RebuildingShardInfo.recomputeNode
  split
  next => exact h
  next ni hsome =>
    obtain ⟨dr, st, hr⟩ := recompute_frame shard_info nidx ni storage_nodes
    set r := shard_info.recomputeShardAuthoritativeStatus nidx ni storage_nodes
    -- recomputing leaves `acked` and `recoverable` alone, and the flag does not count
    have h' : Counted { shard_info with
        nodes_ := shard_info.nodes_.replace nidx r.1
        waiting_for_recoverable_shards_ := shard_info.waiting_for_recoverable_shards_ || r.2 } :=
      have h' : Counted { shard_info with nodes_ := shard_info.nodes_.replace nidx r.1 } :=
        h.replace hsome (by rw [hr]) (by rw [hr])
      ⟨h'.1, h'.2⟩
    dsimp only
    split
    · exact h'.setShardRecoverable false
    · exact h'

end

/-! ## The whole recomputation -/

lemma rel_rechecked_refl (o : Option NodeInfo) : Option.Rel Rechecked o o := by
  cases o with
  | none => exact .none
  | some ni => exact .some (Rechecked.refl ni)

lemma rel_rechecked_trans {a b c : Option NodeInfo} (h₁ : Option.Rel Rechecked a b)
    (h₂ : Option.Rel Rechecked b c) : Option.Rel Rechecked a c := by
  cases h₁ with
  | none => exact h₂
  | some h₁ =>
    cases h₂ with
    | some h₂ => exact .some (h₁.trans h₂)

/-- What recomputing keeps of a shard's entry, and what it may change in each node. -/
structure Recomputed (si si' : RebuildingShardInfo) : Prop where
  version : si'.version = si.version
  donor_progress : si'.donor_progress = si.donor_progress
  counted : Counted si → Counted si'
  nodes : ∀ k, Option.Rel Rechecked (si.nodes_.lookup k) (si'.nodes_.lookup k)

namespace Recomputed

lemma refl (si : RebuildingShardInfo) : Recomputed si si :=
  ⟨rfl, rfl, id, fun _ => rel_rechecked_refl _⟩

lemma trans {si si' si'' : RebuildingShardInfo} (h₁ : Recomputed si si')
    (h₂ : Recomputed si' si'') : Recomputed si si'' :=
  ⟨h₂.version.trans h₁.version, h₂.donor_progress.trans h₁.donor_progress,
    fun h => h₂.counted (h₁.counted h), fun k => rel_rechecked_trans (h₁.nodes k) (h₂.nodes k)⟩

end Recomputed

variable (storage_nodes : Finset NodeIndex)

lemma recomputed_recomputeNode (si : RebuildingShardInfo) (nidx : NodeIndex) :
    Recomputed si (si.recomputeNode storage_nodes nidx) where
  version := recomputeNode_version storage_nodes si nidx
  donor_progress := recomputeNode_donor_progress storage_nodes si nidx
  counted h := Counted.recomputeNode storage_nodes si nidx h
  nodes k := by
    by_cases hk : k = nidx
    · rw [hk]
      cases hl : si.nodes_.lookup nidx with
      | none => rw [lookup_recomputeNode, hl]; exact .none
      | some ni =>
        obtain ⟨ni', hl', hr, -⟩ := recomputeNode_self storage_nodes si nidx hl
        rw [hl']
        exact .some hr
    · rw [lookup_recomputeNode]
      cases si.nodes_.lookup k with
      | none => exact .none
      | some ni => simpa [hk] using (Option.Rel.some (Rechecked.refl ni) :
          Option.Rel Rechecked (some ni) (some ni))

lemma recomputed_recompute_auth_status (si : RebuildingShardInfo) :
    Recomputed si (si.recompute_auth_status storage_nodes) :=
  Lib.foldl_rel Recomputed Recomputed.refl (fun _ _ _ => Recomputed.trans) _
    (recomputed_recomputeNode storage_nodes) _ _

/-- The nodes a pass has not reached yet are untouched. -/
lemma lookup_foldl_recomputeNode_of_notMem (k : NodeIndex) :
    ∀ (ks : List NodeIndex) (si : RebuildingShardInfo), k ∉ ks →
      (ks.foldl (recomputeNode storage_nodes) si).nodes_.lookup k = si.nodes_.lookup k := by
  intro ks
  induction ks with
  | nil => exact fun _ _ => rfl
  | cons k₀ ks ih =>
    intro si hk
    simp only [List.mem_cons, not_or] at hk
    rw [List.foldl_cons, ih _ hk.2, lookup_recomputeNode]
    cases si.nodes_.lookup k <;> simp [hk.1]

/-- Every node a pass has reached ends with a consistent status. -/
lemma statusOk_foldl_recomputeNode :
    ∀ (ks : List NodeIndex) (si : RebuildingShardInfo) (k : NodeIndex) (ni : NodeInfo), k ∈ ks →
      (ks.foldl (recomputeNode storage_nodes) si).nodes_.lookup k = some ni → StatusOk ni := by
  intro ks
  induction ks with
  | nil => exact fun _ _ _ hk => absurd hk List.not_mem_nil
  | cons k₀ ks ih =>
    intro si k ni hk hl
    rw [List.foldl_cons] at hl
    by_cases hks : k ∈ ks
    · exact ih _ k ni hks hl
    · -- `k` was reached last by the first iteration
      have hk₀ : k = k₀ := by simpa [hks] using hk
      rw [lookup_foldl_recomputeNode_of_notMem storage_nodes k ks _ hks, hk₀] at hl
      cases hsi : si.nodes_.lookup k₀ with
      | none => simp [lookup_recomputeNode, hsi] at hl
      | some ni₀ =>
        obtain ⟨ni', hl', -, hok⟩ := recomputeNode_self storage_nodes si k₀ hsi
        rw [hl'] at hl
        cases hl
        exact hok

/-- A pass reaches every node. -/
lemma statusOk_recompute_auth_status (si : RebuildingShardInfo) (k : NodeIndex) (ni : NodeInfo)
    (hl : (si.recompute_auth_status storage_nodes).nodes_.lookup k = some ni) : StatusOk ni := by
  have hrel := (recomputed_recompute_auth_status storage_nodes si).nodes k
  rw [hl] at hrel
  have hmem : k ∈ si.nodes_.keys := by
    cases hsi : si.nodes_.lookup k with
    | none => rw [hsi] at hrel; cases hrel
    | some _ => exact AList.mem_keys.mpr (AList.lookup_isSome.mp (by simp [hsi]))
  exact statusOk_foldl_recomputeNode storage_nodes _ si k ni hmem hl

/-- Every remaining donor of a node has a progress entry. -/
def DonorsTracked (si : RebuildingShardInfo) : Prop :=
  ∀ k ni, si.nodes_.lookup k = some ni → ∀ n ∈ ni.donors_remaining, (si.donor_progress n).isSome

lemma donorsTracked_fillDonorProgress (si : RebuildingShardInfo) :
    DonorsTracked si.fillDonorProgress := by
  intro k ni hl n hn
  have hmem : (⟨k, ni⟩ : Sigma fun _ : NodeIndex => NodeInfo) ∈ si.nodes_.entries :=
    AList.mem_lookup_iff.mp hl
  have hany : si.nodes_.entries.any (fun p => decide (n ∈ p.2.donors_remaining)) = true :=
    List.any_eq_true.mpr ⟨_, hmem, by simpa using hn⟩
  unfold fillDonorProgress
  dsimp only
  split <;> simp_all

/-- The recomputation: the passes over the nodes, then the progress entries. -/
lemma recomputeAuthoritativeStatus_eq (si : RebuildingShardInfo) :
    ∃ si₁, Recomputed si si₁ ∧ (∀ k ni, si₁.nodes_.lookup k = some ni → StatusOk ni) ∧
      si.recomputeAuthoritativeStatus storage_nodes = si₁.fillDonorProgress := by
  -- clearing `waiting_for_recoverable_shards_` changes nothing a `Recomputed` looks at
  have h₀ : Recomputed si { si with waiting_for_recoverable_shards_ := false } :=
    ⟨rfl, rfl, fun h => ⟨h.1, h.2⟩, fun k => rel_rechecked_refl _⟩
  have h₁ := h₀.trans (recomputed_recompute_auth_status storage_nodes _)
  unfold recomputeAuthoritativeStatus
  dsimp only
  split
  · exact ⟨_, h₁.trans (recomputed_recompute_auth_status storage_nodes _),
      statusOk_recompute_auth_status storage_nodes _, rfl⟩
  · exact ⟨_, h₁, statusOk_recompute_auth_status storage_nodes _, rfl⟩

@[simp] lemma recomputeAuthoritativeStatus_version (si : RebuildingShardInfo) :
    (si.recomputeAuthoritativeStatus storage_nodes).version = si.version := by
  obtain ⟨si₁, hr, -, heq⟩ := recomputeAuthoritativeStatus_eq storage_nodes si
  rw [heq]
  exact hr.version

end RebuildingShardInfo

/-- `EventLogRebuildingSet::recomputeAuthoritativeStatus`. -/
def EventLogRebuildingSet.recomputeAuthoritativeStatus (s : EventLogRebuildingSet)
    (shard : ShardIndex) (storage_nodes : Finset NodeIndex) : EventLogRebuildingSet :=
  match s.shards_.lookup shard with
  | none => s
  | some shard_info =>
    { s with shards_ := s.shards_.insert shard (shard_info.recomputeAuthoritativeStatus storage_nodes) }

end LogDevice.Rebuilding
