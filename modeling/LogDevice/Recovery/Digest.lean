import LogDevice.Types
import LogDevice.Lib.Loop
import LogDevice.Lib.Word

/-!
# Write-stream holes in the recovery digest

Model of `Digest` (`common/Digest.{h,cpp}`) as far as `Digest::applyWriteStreamHoles` uses it:
the entries of the digest, ordered by esn, each with the record of highest precedence (possibly
null) and what every shard reported. The call scans the esns from `last_known_good + 1` to the last
entry; once it has met a hole (an esn without an entry, or one whose record is a hole plug), every
later record that a write-stream sequencer wrote becomes a hole plug too.

The scan is the source's `while` loop on an explicit state, `HoleScan`, run with `Lib.whileLoop`
for a budget the loop provably stays within. `applyWriteStreamHoles_entries` says what the call
does to every entry, as a `map` over the digest (`markFrom`). The start of the scan is
`last_known_good.val_ + 1` computed in 32 bits: at `last_known_good = ESN_MAX` it wraps to 0, and
the scan then covers the whole digest (`applyWriteStreamHoles_ESN_MAX`).
-/

namespace LogDevice.Recovery

/-- Flags of a record as stored and shipped (`RECORD_flags_t`). -/
abbrev RecordFlags := UInt32

namespace RECORD_Header

def HOLE : RecordFlags := (1 : UInt32) <<< 6
def WRITE_STREAM : RecordFlags := (1 : UInt32) <<< 22
def WRITTEN_BY_RECOVERY : RecordFlags := (1 : UInt32) <<< 13

end RECORD_Header

/-- What one shard reported for an esn (`Digest::RecordMetadata`). -/
structure RecordMetadata where
  flags : RecordFlags
  wave_or_seal_epoch : UInt32
  deriving DecidableEq, Repr

namespace RecordMetadata

/-- The tuple `RecordMetadata::operator<` compares: whether recovery wrote the record, then the wave
or seal epoch, where a wave of 0 without `WRITTEN_BY_RECOVERY` (legacy recovery) counts as the
largest. -/
def precedence (m : RecordMetadata) : Lex (ℕ × ℕ) :=
  let written_by_recovery := m.flags &&& RECORD_Header.WRITTEN_BY_RECOVERY != 0
  let wave_or_seal_epoch : UInt32 :=
    if !written_by_recovery && m.wave_or_seal_epoch == 0 then 4294967295 else m.wave_or_seal_epoch
  toLex (if written_by_recovery then 1 else 0, wave_or_seal_epoch.toNat)

/-- `RecordMetadata::operator<`: the tuples compared lexicographically. -/
instance : LT RecordMetadata := ⟨fun a b => a.precedence < b.precedence⟩

instance (a b : RecordMetadata) : Decidable (a < b) :=
  inferInstanceAs (Decidable (a.precedence < b.precedence))

end RecordMetadata

/-- The record a digest entry keeps, reduced to its flags (`RawDataRecord`). -/
structure DataRecord where
  flags : RecordFlags
  deriving DecidableEq, Repr

namespace Digest

/-- `Digest::Entry`; `record` is a `std::unique_ptr` and may be null. -/
structure Entry where
  record : Option DataRecord
  node_info : List (ShardID × RecordMetadata)
  byte_offset_changed : Bool := false
  deriving DecidableEq, Repr

namespace Entry

def isHolePlug (e : Entry) : Bool :=
  match e.record with
  | some r => (r.flags &&& RECORD_Header.HOLE) != 0
  | none => false

def isWriteStreamRecord (e : Entry) : Bool :=
  match e.record with
  | some r => (r.flags &&& RECORD_Header.WRITE_STREAM) != 0
  | none => false

/-- The update of `dentry.record->flags |= RECORD_Header::HOLE`. -/
def markHole (e : Entry) : Entry :=
  { e with record := e.record.map fun r => { r with flags := r.flags ||| RECORD_Header.HOLE } }

@[simp] lemma markHole_node_info (e : Entry) : e.markHole.node_info = e.node_info := rfl

end Entry

end Digest

/-- The entries of a digest (`Digest::entries_`, a `std::map` keyed by esn). -/
structure Digest where
  entries : List (Esn × Digest.Entry)
  sorted : entries.Pairwise (fun a b => a.1 < b.1)

namespace Digest

/-- `Digest::getLastEsn`: the largest esn with an entry, `ESN_INVALID` if there is none. -/
def getLastEsn (d : Digest) : Esn :=
  match d.entries.getLast? with
  | some p => p.1
  | none => ESN_INVALID

/-- The state of the loop of `applyWriteStreamHoles`: the entries the iterator has passed (last
first) and those from the iterator on, the `uint64_t` counter `cur_esn`, and `first_hole_esn`.
Both counters stay at most `ESN_MAX` on every assignment, so they are `Nat`s. -/
structure HoleScan where
  passed : List (Esn × Entry)
  it : List (Esn × Entry)
  cur_esn : Nat
  first_hole_esn : Nat

namespace HoleScan

/-- The entries in digest order, the passed ones with their updates. -/
def entries (s : HoleScan) : List (Esn × Entry) := s.passed.reverse ++ s.it

/-- The branch for an esn nobody reported: a hole. -/
def hole (s : HoleScan) : HoleScan :=
  { s with
    cur_esn := s.cur_esn + 1
    first_hole_esn := if s.cur_esn < s.first_hole_esn then s.cur_esn else s.first_hole_esn }

/-- One iteration of the loop of `Digest::applyWriteStreamHoles`. -/
def step (s : HoleScan) : HoleScan :=
  let cur : Esn := UInt32.ofNat s.cur_esn
  match s.it with
  | [] => s.hole
  | (e, dentry) :: rest =>
    if e > cur then s.hole
    else if e = cur then
      let first_hole_esn :=
        if dentry.isHolePlug && s.cur_esn < s.first_hole_esn then s.cur_esn else s.first_hole_esn
      let dentry :=
        if dentry.isWriteStreamRecord && s.cur_esn > first_hole_esn then dentry.markHole
        else dentry
      { passed := (e, dentry) :: s.passed, it := rest, cur_esn := s.cur_esn + 1, first_hole_esn }
    -- an entry at or below `last_known_good`: skip it
    else { s with passed := (e, dentry) :: s.passed, it := rest }

/-- What bounds the iterations left: each one advances `cur_esn` or the iterator. -/
def potential (end_esn : Nat) (s : HoleScan) : Nat := end_esn + 1 - s.cur_esn + s.it.length

lemma entries_step_keys (s : HoleScan) :
    s.step.entries.map Prod.fst = s.entries.map Prod.fst := by
  unfold step
  rcases s with ⟨passed, _ | ⟨⟨e, dentry⟩, rest⟩, cur_esn, first_hole_esn⟩
  · rfl
  · simp only
    split
    · rfl
    · split <;> simp [entries, apply_ite, Entry.markHole]

lemma potential_step {s : HoleScan} {end_esn : Nat} (h : s.cur_esn ≤ end_esn) :
    s.step.potential end_esn < s.potential end_esn := by
  unfold step
  rcases s with ⟨passed, _ | ⟨⟨e, dentry⟩, rest⟩, cur_esn, first_hole_esn⟩
  · simp only [hole, potential] at h ⊢
    omega
  · simp only at h ⊢
    split
    · simp only [hole, potential]
      omega
    · split <;> simp only [potential, List.length_cons] <;> omega

/-- The loop's condition `cur_esn <= end_esn`. -/
def cond (end_esn : Nat) (s : HoleScan) : Bool := decide (s.cur_esn ≤ end_esn)

/-- The loop only updates entries in place: the esns stay those of the digest. -/
lemma entries_whileLoop_keys (end_esn fuel : Nat) (s : HoleScan) :
    (Lib.whileLoop (cond end_esn) step fuel s).entries.map Prod.fst = s.entries.map Prod.fst := by
  induction fuel generalizing s with
  | zero => rfl
  | succ fuel ih =>
    cases hc : cond end_esn s with
    | false => rw [Lib.whileLoop_succ_of_not_cond fuel hc]
    | true => rw [Lib.whileLoop_succ_of_cond fuel hc, ih, entries_step_keys]

end HoleScan

/-- The loop's result is a digest again: its esns are those of `d`, in order. -/
lemma sorted_of_keys {d : Digest} {l : List (Esn × Entry)}
    (h : l.map Prod.fst = d.entries.map Prod.fst) : l.Pairwise (fun a b => a.1 < b.1) := by
  have hd := List.pairwise_map.mpr d.sorted
  rw [← h] at hd
  exact List.pairwise_map.mp hd

/-- The loop of `applyWriteStreamHoles` from its initial state, run for a budget it provably stays
within (`scan_entries`). -/
def scan (d : Digest) (cur_esn : Nat) : HoleScan :=
  let start : HoleScan :=
    { passed := [], it := d.entries, cur_esn, first_hole_esn := ESN_MAX.toNat }
  Lib.whileLoop (HoleScan.cond d.getLastEsn.toNat) HoleScan.step
    (start.potential d.getLastEsn.toNat) start

lemma scan_keys (d : Digest) (cur_esn : Nat) :
    (d.scan cur_esn).entries.map Prod.fst = d.entries.map Prod.fst := by
  unfold scan
  rw [HoleScan.entries_whileLoop_keys]
  rfl

/-- `Digest::applyWriteStreamHoles`. The first esn of the scan is `last_known_good.val_ + 1`,
computed on the 32-bit `esn_t::raw_type` before the cast to `uint64_t`. -/
def applyWriteStreamHoles (d : Digest) (last_known_good : Esn) : Digest :=
  if d.entries.isEmpty then d
  else
    let s := d.scan (last_known_good + 1).toNat
    { entries := s.entries, sorted := sorted_of_keys (d.scan_keys _) }

/-! ## What the scan does to each entry -/

/-- The entry at esn `n`, if any. -/
def entryAt (d : Digest) (n : Nat) : Option Entry :=
  (d.entries.find? fun p => p.1.toNat == n).map Prod.snd

/-- Esn `n` is a hole for the scan: nobody reported it, or its record is a hole plug. -/
def holeAt (d : Digest) (n : Nat) : Bool :=
  match d.entryAt n with
  | some e => e.isHolePlug
  | none => true

/-- What a scan from esn `start` does to an entry: a write-stream record at or after `start`, with
a hole at some esn from `start` on below it, becomes a hole plug. -/
def markFrom (d : Digest) (start : Nat) (p : Esn × Entry) : Esn × Entry :=
  if p.2.isWriteStreamRecord ∧ start ≤ p.1.toNat ∧ ∃ h < p.1.toNat, start ≤ h ∧ d.holeAt h then
    (p.1, p.2.markHole)
  else p

/-- Entries below the start of the scan are left alone. -/
lemma markFrom_of_lt (d : Digest) {start : Nat} (p : Esn × Entry) (h : p.1.toNat < start) :
    d.markFrom start p = p := by
  simp [markFrom]
  omega

lemma toNat_le_getLastEsn {d : Digest} {p : Esn × Entry} (hp : p ∈ d.entries) :
    p.1.toNat ≤ d.getLastEsn.toNat := by
  unfold getLastEsn
  obtain ⟨q, hq⟩ := Option.ne_none_iff_exists'.mp (List.getLast?_eq_none_iff.not.mpr
    (List.ne_nil_of_mem hp))
  obtain ⟨ys, hys⟩ := List.getLast?_eq_some_iff.mp hq
  rw [hq]
  have hsorted := d.sorted
  rw [hys] at hsorted hp
  rcases List.mem_append.mp hp with hp | hp
  · have hlt := (List.pairwise_append.mp hsorted).2.2 p hp q (List.mem_singleton_self q)
    exact le_of_lt (UInt32.lt_iff_toNat_lt.mp hlt)
  · rw [List.mem_singleton.mp hp]

lemma getLastEsn_toNat_le (d : Digest) : d.getLastEsn.toNat ≤ ESN_MAX.toNat := by
  have := UInt32.toNat_lt d.getLastEsn
  rw [ESN_MAX_toNat]
  omega

lemma entryAt_eq_none {d : Digest} {n : Nat} (h : ∀ p ∈ d.entries, p.1.toNat ≠ n) :
    d.entryAt n = none := by
  simp only [entryAt, Option.map_eq_none_iff, List.find?_eq_none, beq_iff_eq]
  exact h

lemma entryAt_eq_some {d : Digest} {pre rest : List (Esn × Entry)} {e : Esn} {dentry : Entry}
    (hsplit : d.entries = pre ++ (e, dentry) :: rest) (hpre : ∀ p ∈ pre, p.1.toNat < e.toNat) :
    d.entryAt e.toNat = some dentry := by
  have hnone : pre.find? (fun p => p.1.toNat == e.toNat) = none := by
    simp only [List.find?_eq_none, beq_iff_eq]
    exact fun p hp => (hpre p hp).ne
  simp [entryAt, hsplit, List.find?_append, hnone]

/-! ## The loop invariant -/

/-- `first_hole_esn` once the esns `start ≤ h < cur` were visited: the least hole among them, or
`ESN_MAX` when there is none. -/
structure FirstHole (d : Digest) (start cur first_hole_esn : Nat) : Prop where
  le_hole : ∀ h, start ≤ h → h < cur → d.holeAt h = true → first_hole_esn ≤ h
  found : first_hole_esn = ESN_MAX.toNat ∨
    (start ≤ first_hole_esn ∧ first_hole_esn < cur ∧ d.holeAt first_hole_esn = true)

namespace FirstHole

variable {d : Digest} {start cur fh : Nat}

lemma init : FirstHole d start start ESN_MAX.toNat :=
  ⟨fun _ h1 h2 _ => by omega, .inl rfl⟩

/-- Below `ESN_MAX`, the comparison with `first_hole_esn` tells whether a hole was met. -/
lemma lt_iff (hf : FirstHole d start cur fh) (hcur : cur ≤ ESN_MAX.toNat) :
    fh < cur ↔ ∃ h < cur, start ≤ h ∧ d.holeAt h = true := by
  constructor
  · intro hlt
    rcases hf.found with heq | ⟨hs, hl, hh⟩
    · omega
    · exact ⟨fh, hl, hs, hh⟩
  · rintro ⟨h, hlt, hs, hh⟩
    have := hf.le_hole h hs hlt hh
    omega

/-- Visiting esn `cur`: `first_hole_esn` moves down to it when it is a hole. -/
lemma visit (hf : FirstHole d start cur fh) (hs : start ≤ cur) :
    FirstHole d start (cur + 1) (if d.holeAt cur && decide (cur < fh) then cur else fh) := by
  constructor
  · intro h hsh hlt hh
    rcases Nat.lt_succ_iff_lt_or_eq.mp hlt with hlt | rfl
    · have := hf.le_hole h hsh hlt hh
      split
      next hc =>
        simp only [Bool.and_eq_true, decide_eq_true_eq] at hc
        omega
      next => exact this
    · simp only [hh, Bool.true_and, decide_eq_true_eq]
      split <;> omega
  · split
    next hc =>
      simp only [Bool.and_eq_true, decide_eq_true_eq] at hc
      exact .inr ⟨hs, by omega, hc.1⟩
    next =>
      rcases hf.found with heq | ⟨h1, h2, h3⟩
      · exact .inl heq
      · exact .inr ⟨h1, by omega, h3⟩

end FirstHole

/-- The invariant of the loop of `applyWriteStreamHoles` scanning from `start`: the iterator splits
the digest into `pre` and the rest, the passed entries are `pre` updated by `markFrom`, the
iterator is past everything below `cur_esn` once the scan moved off `start`, and
`first_hole_esn` is as in `FirstHole`. -/
structure ScanInv (d : Digest) (start : Nat) (pre : List (Esn × Entry)) (s : HoleScan) :
    Prop where
  split : d.entries = pre ++ s.it
  passed : s.passed = (pre.map (d.markFrom start)).reverse
  pre_lt : ∀ p ∈ pre, p.1.toNat < s.cur_esn
  it_ge : start < s.cur_esn → ∀ p ∈ s.it, s.cur_esn ≤ p.1.toNat
  start_le : start ≤ s.cur_esn
  first_hole : FirstHole d start s.cur_esn s.first_hole_esn

namespace ScanInv

variable {d : Digest} {start : Nat} {pre : List (Esn × Entry)} {s : HoleScan}

lemma init : ScanInv d start [] ⟨[], d.entries, start, ESN_MAX.toNat⟩ where
  split := rfl
  passed := rfl
  pre_lt := by simp
  it_ge := by simp
  start_le := le_rfl
  first_hole := FirstHole.init

/-- The entries after the iterator's head are above it. -/
lemma lt_of_mem_rest {e : Esn} {dentry : Entry} {rest : List (Esn × Entry)}
    (hinv : ScanInv d start pre s) (hit : s.it = (e, dentry) :: rest) :
    ∀ p ∈ rest, e.toNat < p.1.toNat := by
  have hsorted := d.sorted
  rw [hinv.split, hit] at hsorted
  have hcons := List.pairwise_cons.mp (List.pairwise_append.mp hsorted).2.1
  exact fun p hp => UInt32.lt_iff_toNat_lt.mp (hcons.1 p hp)

/-- The hole branch, where nobody reported `cur_esn`. -/
lemma hole (hinv : ScanInv d start pre s) (hnone : d.entryAt s.cur_esn = none)
    (hit : ∀ p ∈ s.it, s.cur_esn < p.1.toNat) : ScanInv d start pre s.hole where
  split := hinv.split
  passed := hinv.passed
  pre_lt p hp := Nat.lt_succ_of_lt (hinv.pre_lt p hp)
  it_ge _ p hp := hit p hp
  start_le := Nat.le_succ_of_le hinv.start_le
  first_hole := by
    have := hinv.first_hole.visit hinv.start_le
    simpa [HoleScan.hole, holeAt, hnone] using this

/-- The branch of an entry at `cur_esn`: it is marked exactly as `markFrom` says. -/
lemma visit {e : Esn} {dentry : Entry} {rest : List (Esn × Entry)}
    (hinv : ScanInv d start pre s) (hit : s.it = (e, dentry) :: rest)
    (he : e.toNat = s.cur_esn) (hcur : s.cur_esn ≤ ESN_MAX.toNat) :
    let first_hole_esn :=
      if dentry.isHolePlug && s.cur_esn < s.first_hole_esn then s.cur_esn else s.first_hole_esn
    ScanInv d start (pre ++ [(e, dentry)])
      { passed := (e, if dentry.isWriteStreamRecord && s.cur_esn > first_hole_esn then
            dentry.markHole else dentry) :: s.passed,
        it := rest, cur_esn := s.cur_esn + 1, first_hole_esn } := by
  intro first_hole_esn
  have hsplit : d.entries = pre ++ (e, dentry) :: rest := by rw [hinv.split, hit]
  have hpre : ∀ p ∈ pre, p.1.toNat < e.toNat := he ▸ hinv.pre_lt
  have hhole : d.holeAt s.cur_esn = dentry.isHolePlug := by
    simp [holeAt, ← he, entryAt_eq_some hsplit hpre]
  -- the code's test `cur_esn > first_hole_esn` is `markFrom`'s: a hole was met before `cur_esn`
  have hmet : s.cur_esn > first_hole_esn ↔ ∃ h < e.toNat, start ≤ h ∧ d.holeAt h = true := by
    rw [he, ← hinv.first_hole.lt_iff hcur]
    simp only [first_hole_esn]
    split
    next hc =>
      simp only [Bool.and_eq_true, decide_eq_true_eq] at hc
      constructor <;> intro <;> omega
    next => exact Iff.rfl
  have hmark : d.markFrom start (e, dentry) = (e, if dentry.isWriteStreamRecord &&
      s.cur_esn > first_hole_esn then dentry.markHole else dentry) := by
    have hs : start ≤ e.toNat := he ▸ hinv.start_le
    unfold markFrom
    by_cases hws : dentry.isWriteStreamRecord = true
    · by_cases hm : ∃ h < e.toNat, start ≤ h ∧ d.holeAt h = true
      · simp [hws, hs, hm, hmet.mpr hm]
      · simp [hws, hm, mt hmet.mp hm]
    · simp [hws]
  constructor
  · rw [hsplit, List.append_assoc, List.singleton_append]
  · simp [hinv.passed, hmark]
  · intro p hp
    show p.1.toNat < s.cur_esn + 1
    rcases List.mem_append.mp hp with hp | hp
    · exact Nat.lt_succ_of_lt (hinv.pre_lt p hp)
    · rw [List.mem_singleton.mp hp]
      show e.toNat < s.cur_esn + 1
      omega
  · intro _ p hp
    show s.cur_esn + 1 ≤ p.1.toNat
    have := hinv.lt_of_mem_rest hit p hp
    omega
  · exact Nat.le_succ_of_le hinv.start_le
  · have := hinv.first_hole.visit hinv.start_le
    rw [hhole] at this
    exact this

/-- The branch of an entry below `cur_esn`, met only while the scan is still at `start`. -/
lemma skip {e : Esn} {dentry : Entry} {rest : List (Esn × Entry)}
    (hinv : ScanInv d start pre s) (hit : s.it = (e, dentry) :: rest)
    (he : e.toNat < s.cur_esn) :
    ScanInv d start (pre ++ [(e, dentry)])
      { s with passed := (e, dentry) :: s.passed, it := rest } := by
  have hstart : s.cur_esn = start := by
    by_contra hne
    have hge : s.cur_esn ≤ e.toNat :=
      hinv.it_ge (by have := hinv.start_le; omega) (e, dentry) (by simp [hit])
    omega
  constructor
  · rw [hinv.split, hit, List.append_assoc, List.singleton_append]
  · simp [hinv.passed, d.markFrom_of_lt (e, dentry) (show e.toNat < start by omega)]
  · intro p hp
    rcases List.mem_append.mp hp with hp | hp
    · exact hinv.pre_lt p hp
    · rw [List.mem_singleton.mp hp]
      exact he
  · intro hlt
    exact absurd hstart (Nat.ne_of_gt hlt)
  · exact hinv.start_le
  · exact hinv.first_hole

/-- One iteration keeps the invariant. -/
lemma step (hinv : ScanInv d start pre s) (hc : s.cur_esn ≤ d.getLastEsn.toNat) :
    ∃ pre', ScanInv d start pre' s.step := by
  have hmax : s.cur_esn ≤ ESN_MAX.toNat := le_trans hc d.getLastEsn_toNat_le
  have hcur : (UInt32.ofNat s.cur_esn).toNat = s.cur_esn := by
    apply UInt32.toNat_ofNat_of_lt'
    rw [ESN_MAX_toNat] at hmax
    show s.cur_esn < 4294967296
    omega
  -- no entry of `pre` sits at `cur_esn`
  have hpre : ∀ p ∈ pre, p.1.toNat ≠ s.cur_esn := fun p hp => (hinv.pre_lt p hp).ne
  unfold HoleScan.step
  rcases hit : s.it with _ | ⟨⟨e, dentry⟩, rest⟩
  · refine ⟨pre, hinv.hole (entryAt_eq_none fun p hp => ?_) (by simp [hit])⟩
    rw [hinv.split, hit, List.append_nil] at hp
    exact hpre p hp
  · simp only
    split
    next hgt =>
      -- nobody reported `cur_esn`: the iterator's head is above it
      have hlt : s.cur_esn < e.toNat := by
        rw [gt_iff_lt, UInt32.lt_iff_toNat_lt, hcur] at hgt
        exact hgt
      have hrest := hinv.lt_of_mem_rest hit
      refine ⟨pre, hinv.hole (entryAt_eq_none fun p hp => ?_) fun p hp => ?_⟩
      · rw [hinv.split, hit] at hp
        rcases List.mem_append.mp hp with hp | hp
        · exact hpre p hp
        · rcases List.mem_cons.mp hp with rfl | hp
          · exact hlt.ne'
          · have := hrest p hp
            omega
      · rcases List.mem_cons.mp (hit ▸ hp) with rfl | hp
        · exact hlt
        · have := hrest p hp
          omega
    next hngt =>
      split
      next heq =>
        have he : e.toNat = s.cur_esn := by rw [heq, hcur]
        exact ⟨_, hinv.visit hit he hmax⟩
      next hne =>
        have hle : ¬s.cur_esn < e.toNat := by
          rwa [gt_iff_lt, UInt32.lt_iff_toNat_lt, hcur] at hngt
        have hne' : e.toNat ≠ s.cur_esn := fun h => hne (UInt32.toNat_inj.mp (h.trans hcur.symm))
        exact ⟨_, hinv.skip hit (by omega)⟩

/-- At exit every entry has been dealt with: the scan's entries are the digest's, updated by
`markFrom`. -/
lemma entries_eq (hinv : ScanInv d start pre s) (hexit : d.getLastEsn.toNat < s.cur_esn) :
    s.entries = d.entries.map (d.markFrom start) := by
  -- what is left from the iterator on lies below `start`, so `markFrom` keeps it
  have hleft : ∀ p ∈ s.it, p.1.toNat < start := by
    intro p hp
    have hle := toNat_le_getLastEsn (hinv.split ▸ List.mem_append_right pre hp)
    by_cases hs : start < s.cur_esn
    · have := hinv.it_ge hs p hp
      omega
    · have := hinv.start_le
      omega
  have hkeep : s.it.map (d.markFrom start) = s.it :=
    calc s.it.map (d.markFrom start)
      _ = s.it.map id := List.map_congr_left fun p hp => d.markFrom_of_lt p (hleft p hp)
      _ = s.it := List.map_id _
  rw [HoleScan.entries, hinv.passed, List.reverse_reverse, hinv.split, List.map_append, hkeep]

end ScanInv

/-- The loop of `applyWriteStreamHoles` from any first esn exits within its budget, having
updated every entry as `markFrom` says. -/
theorem scan_entries (d : Digest) (start : Nat) :
    (d.scan start).entries = d.entries.map (d.markFrom start) := by
  obtain ⟨⟨pre, hinv⟩, hexit⟩ :=
    @Lib.whileLoop_spec _ (HoleScan.cond d.getLastEsn.toNat) HoleScan.step
      (fun s => ∃ pre, ScanInv d start pre s) (HoleScan.potential d.getLastEsn.toNat)
      (fun s ⟨pre, hinv⟩ hc => by
        simp only [HoleScan.cond, decide_eq_true_eq] at hc
        exact ⟨hinv.step hc, HoleScan.potential_step hc⟩)
      _ _ le_rfl ⟨[], ScanInv.init⟩
  simp only [HoleScan.cond, decide_eq_false_iff_not, not_le] at hexit
  exact hinv.entries_eq hexit

/-- What `applyWriteStreamHoles` does to every entry: the scan starts at the 32-bit successor of
`last_known_good`. -/
theorem applyWriteStreamHoles_entries (d : Digest) (last_known_good : Esn) :
    (d.applyWriteStreamHoles last_known_good).entries =
      d.entries.map (d.markFrom (last_known_good + 1).toNat) := by
  unfold applyWriteStreamHoles
  split
  next hempty => simp [List.isEmpty_iff.mp hempty]
  next => exact d.scan_entries _

/-- Below `ESN_MAX`, the scan covers exactly the esns above `last_known_good`. -/
theorem applyWriteStreamHoles_of_lt_ESN_MAX (d : Digest) {last_known_good : Esn}
    (h : last_known_good < ESN_MAX) :
    (d.applyWriteStreamHoles last_known_good).entries =
      d.entries.map (d.markFrom (last_known_good.toNat + 1)) := by
  rw [UInt32.lt_iff_toNat_lt, ESN_MAX_toNat] at h
  rw [applyWriteStreamHoles_entries, Lib.UInt32.toNat_add_one (by omega)]

theorem applyWriteStreamHoles_of_lt_ESN_MAX_empty :
    ((⟨[], .nil⟩ : Digest).applyWriteStreamHoles 0).entries =
      (⟨[], .nil⟩ : Digest).entries.map ((⟨[], .nil⟩ : Digest).markFrom ((0 : Esn).toNat + 1)) :=
  applyWriteStreamHoles_of_lt_ESN_MAX _ (by decide)

/-- At `last_known_good = ESN_MAX` the first esn wraps to `0`, so the scan covers the whole
digest: with no entry at `ESN_INVALID`, that esn is a hole, and every write-stream record becomes a
hole plug, though all of them are at or below `last_known_good`. -/
theorem applyWriteStreamHoles_ESN_MAX (d : Digest) (h0 : d.entryAt 0 = none) :
    (d.applyWriteStreamHoles ESN_MAX).entries = d.entries.map fun p =>
      if p.2.isWriteStreamRecord ∧ 0 < p.1.toNat then (p.1, p.2.markHole) else p := by
  have hwrap : (ESN_MAX + 1).toNat = 0 := by decide
  rw [applyWriteStreamHoles_entries, hwrap]
  refine List.map_congr_left fun p _ => ?_
  have hhole : d.holeAt 0 = true := by simp [holeAt, h0]
  -- esn 0 is the hole below every other esn
  have hmet : (∃ h < p.1.toNat, d.holeAt h = true) ↔ 0 < p.1.toNat :=
    ⟨fun ⟨h, hlt, _⟩ => by omega, fun hpos => ⟨0, hpos, hhole⟩⟩
  simp only [markFrom, zero_le, true_and, hmet]

/-- A digest with one record, at esn 1, written by a write-stream sequencer. -/
def writeStreamDigest : Digest where
  entries := [(1, { record := some ⟨RECORD_Header.WRITE_STREAM⟩, node_info := [] })]
  sorted := List.pairwise_singleton _ _

/-- With `last_known_good = ESN_MAX` the record at esn 1, below `last_known_good`, becomes a hole
plug. -/
theorem applyWriteStreamHoles_writeStreamDigest :
    (writeStreamDigest.applyWriteStreamHoles ESN_MAX).entries =
      [(1, { record := some ⟨RECORD_Header.WRITE_STREAM ||| RECORD_Header.HOLE⟩
             node_info := [] })] := by
  decide

end Digest

end LogDevice.Recovery
