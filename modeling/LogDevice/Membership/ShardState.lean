import LogDevice.Types
import LogDevice.Lib.Except
import LogDevice.Membership.StorageState

/-!
# Shard states and their transitions

Model of `ShardState` and `ShardState::transition` (`membership/StorageMembership.{h,cpp}`). A
transition is checked in the order of the source: validity of the update and of the current state,
the source state of the `TransitionTable` row, the required conditions (bypassed by `FORCE`), then
the transition-specific switch (`transitionSwitch`), and last the validity of the target state,
which `REMOVE_EMPTY_SHARD` skips. Failures return the error code that the source stores in `err`.
-/

namespace LogDevice.Membership

/-- Storage membership version (`MembershipVersion::Type`, a 64-bit counter). -/
abbrev MembershipVersion := UInt64

def EMPTY_VERSION : MembershipVersion := 0

/-- The per-shard state of a storage membership (`struct ShardState`). -/
structure ShardState where
  storage_state : StorageState := .invalid
  flags : StorageStateFlags := 0
  metadata_state : MetaDataStorageState := .invalid
  since_version : MembershipVersion := EMPTY_VERSION
  manual_override : Bool := false
  deriving DecidableEq, Repr, Inhabited

/-- A forced target state (`ShardState::Update::StateOverride`). -/
structure StateOverride where
  storage_state : StorageState
  flags : StorageStateFlags
  metadata_state : MetaDataStorageState
  manual_override : Bool := false
  deriving DecidableEq, Repr

namespace ShardState

/-- An update of one shard (`ShardState::Update`). -/
structure Update where
  transition : StorageStateTransition := .count
  conditions : StateTransitionCondition := Condition.NONE
  state_override : Option StateOverride := none
  deriving DecidableEq, Repr, Inhabited

/-- `ShardState::Update::isValid`: a transition below `Count`, and an override for
`OVERRIDE_STATE`. -/
def Update.isValid (update : Update) : Bool :=
  if update.transition == .count then false
  else if update.transition == .overrideState && update.state_override.isNone then false
  else true

/-- `ShardState::isValid`. -/
def isValid (s : ShardState) : Bool :=
  if s.storage_state == .invalid || s.metadata_state == .invalid ||
      s.since_version == EMPTY_VERSION then false
  else if s.metadata_state == .promoting && s.storage_state != .readWrite then false
  else if (s.flags &&& StorageStateFlags.UNRECOVERABLE) != 0 &&
      (s.storage_state == .none || s.storage_state == .noneToRo) then false
  else true

/-- Step 2 of `ShardState::transition`: the `switch (update.transition)` that fixes flags and
metadata state, and the storage state for the transitions whose table row leaves it open.
`target` is the state after step 1 (the table's target storage state applied). -/
def transitionSwitch (current_state : ShardState) (update : Update) (target : ShardState) :
    Except E ShardState :=
  match update.transition with
  | .bootstrapEnableShard | .bootstrapEnableMetadataShard =>
    -- a metadata shard stays one, even under BOOTSTRAP_ENABLE_SHARD
    .ok { target with
      flags := 0
      metadata_state :=
        if update.transition == .bootstrapEnableMetadataShard ||
            current_state.metadata_state == .metadata then .metadata else .none }
  | .addEmptyShard => .ok { target with flags := 0, metadata_state := .none }
  | .disablingWrite =>
    match current_state.metadata_state with
    | .metadata =>
      if !Condition.hasAllConditionsOrForce update.conditions
          (Condition.WRITE_AVAILABILITY_CHECK ||| Condition.METADATA_CAPACITY_CHECK) then
        .error .CONDITION_MISMATCH
      else .ok target
    | .promoting => .ok { target with metadata_state := .none }
    | .none | .invalid => .ok target
  | .dataMigrationCompleted =>
    .ok { target with flags := target.flags &&& ~~~StorageStateFlags.UNRECOVERABLE }
  | .promotingMetadataShard =>
    if current_state.metadata_state != .none then .error .SOURCE_STATE_MISMATCH
    else .ok { target with metadata_state := .promoting }
  | .commitPromotionMetadataShard =>
    if current_state.metadata_state != .promoting then .error .SOURCE_STATE_MISMATCH
    else .ok { target with metadata_state := .metadata }
  | .abortPromotingMetadataShard =>
    if current_state.metadata_state != .promoting then .error .SOURCE_STATE_MISMATCH
    else .ok { target with metadata_state := .none }
  | .markShardUnrecoverable =>
    match current_state.storage_state with
    | .provisioning | .none => .ok target
    -- marking a shard that is enabling reads aborts the enabling
    | .noneToRo => .ok { target with storage_state := .none }
    | .readOnly | .readWrite | .rwToRo | .dataMigration =>
      if (current_state.flags &&& StorageStateFlags.UNRECOVERABLE) != 0 then .error .ALREADY
      else .ok { target with flags := target.flags ||| StorageStateFlags.UNRECOVERABLE }
    | .invalid => .error .INTERNAL
  | .overrideState =>
    match update.state_override with
    | some o =>
      .ok { target with
        storage_state := o.storage_state
        manual_override := o.manual_override
        flags := o.flags
        metadata_state := o.metadata_state }
    -- ruled out by `Update.isValid`
    | none => .ok target
  | .removeEmptyShard =>
    if current_state.storage_state != .provisioning && current_state.storage_state != .none then
      .error .SOURCE_STATE_MISMATCH
    else .ok target
  | .markShardProvisioned | .enablingRead | .commitReadEnabled | .enableWrite
  | .commitWriteDisabled | .startDataMigration | .abortEnablingRead | .abortDisablingWrite
  | .cancelDataMigration => .ok target
  | .count => .error .INTERNAL

/-- Step 1 of `ShardState::transition`: the table's target storage state, if it names one. -/
def applyTargetState (current_state : ShardState) (transition : StorageStateTransition) :
    ShardState :=
  if target_state transition != .invalid then
    { current_state with storage_state := target_state transition }
  else current_state

/-- `ShardState::transition`: the state of the shard after `update`, effective since
`new_since_version`, or the error code of the first failed check. -/
def transition (current_state : ShardState) (update : Update)
    (new_since_version : MembershipVersion) : Except E ShardState := do
  if !update.isValid then throw .INVALID_PARAM
  if !isAddingNewShard update.transition && !current_state.isValid then throw .INVALID_PARAM
  let expected_state := source_state update.transition
  if expected_state != .invalid && expected_state != current_state.storage_state then
    throw .SOURCE_STATE_MISMATCH
  if !Condition.hasAllConditionsOrForce update.conditions
      (required_conditions update.transition) then
    throw .CONDITION_MISMATCH
  let switched ← transitionSwitch current_state update
    (applyTargetState current_state update.transition)
  let target_shard_state := { switched with since_version := new_since_version }
  if !target_shard_state.isValid && update.transition != .removeEmptyShard then
    throw .INTERNAL
  return target_shard_state

/-! ## What a successful transition did -/

/-- A successful `transition` passed every check of the source, in order, and its result is the
switch's state stamped with the new version. -/
lemma transition_eq_ok {c : ShardState} {u : Update} {v : MembershipVersion} {t : ShardState}
    (h : transition c u v = .ok t) :
    u.isValid = true ∧
    (isAddingNewShard u.transition = false → c.isValid = true) ∧
    (source_state u.transition = .invalid ∨ source_state u.transition = c.storage_state) ∧
    Condition.hasAllConditionsOrForce u.conditions (required_conditions u.transition) = true ∧
    ∃ sw, transitionSwitch c u (applyTargetState c u.transition) = .ok sw ∧
      t = { sw with since_version := v } ∧
      (t.isValid = true ∨ u.transition = .removeEmptyShard) := by
  unfold transition at h
  simp only [bind, Except.bind, pure, Except.pure, throw, throwThe, MonadExceptOf.throw] at h
  -- one `split` per check of the source; each failing branch is an `Except.error`
  split at h
  · cases h
  next hvalid =>
  split at h
  · cases h
  next hcur =>
  split at h
  · cases h
  next hsrc =>
  split at h
  · cases h
  next hcond =>
  split at h
  · cases h
  next sw hsw =>
  split at h
  · cases h
  next hfinal =>
  cases h
  refine ⟨by simpa using hvalid, fun hadd => by simpa [hadd] using hcur, ?_,
    by simpa using hcond, sw, hsw, rfl, ?_⟩
  · by_cases hs : source_state u.transition = .invalid
    · exact .inl hs
    · exact .inr (by simpa [hs] using hsrc)
  · by_cases hr : u.transition = .removeEmptyShard
    · exact .inr hr
    · exact .inl (by simpa [hr] using hfinal)

/-- A transition stamps its result with the new membership version. -/
lemma transition_since_version {c : ShardState} {u : Update} {v : MembershipVersion}
    {t : ShardState} (h : transition c u v = .ok t) : t.since_version = v := by
  obtain ⟨-, -, -, -, sw, -, rfl, -⟩ := transition_eq_ok h
  rfl

/-- Every transition but `REMOVE_EMPTY_SHARD` yields a valid state. -/
lemma transition_isValid {c : ShardState} {u : Update} {v : MembershipVersion} {t : ShardState}
    (h : transition c u v = .ok t) (hr : u.transition ≠ .removeEmptyShard) : t.isValid = true := by
  obtain ⟨-, -, -, -, -, -, -, hvalid⟩ := transition_eq_ok h
  exact hvalid.resolve_right hr

/-- Outside `OVERRIDE_STATE`, the switch keeps the storage state of step 1, except that marking a
`NONE_TO_RO` shard unrecoverable sends it back to `NONE`. -/
lemma transitionSwitch_storage_state {c : ShardState} {u : Update} {tgt sw : ShardState}
    (h : transitionSwitch c u tgt = .ok sw) (hov : u.transition ≠ .overrideState) :
    sw.storage_state = tgt.storage_state ∨
      (u.transition = .markShardUnrecoverable ∧ c.storage_state = .noneToRo ∧
        sw.storage_state = .none) := by
  unfold transitionSwitch at h
  -- every arm either fails or updates fields other than the storage state
  split at h <;> (repeat' split at h) <;> (try cases h) <;> simp_all

@[simp] lemma applyTargetState_storage_state (c : ShardState) (transition : StorageStateTransition) :
    (applyTargetState c transition).storage_state =
      if target_state transition != .invalid then target_state transition else c.storage_state := by
  unfold applyTargetState
  split <;> simp_all

end ShardState

end LogDevice.Membership
