import LogDevice.Types
import LogDevice.Lib.Bytes

/-!
# The index keys of the local log store

Model of `RocksDBKeyFormat::IndexKey` (`server/locallogstore/RocksDBKeyFormat.h`), the keys of the
findTime and findKey indexes, and of the order RocksDB keeps them in. The default comparator is
bytewise, the order `<` of `List UInt8` (`Lib.Bytes`); a `std::string` is its bytes, and a custom
key compared "lexicographically" (`Client::findKeySync`) is compared in the same order.

A findKey index key is `'I'`, the log id in 8 bytes big-endian, the index type, the length of the
custom key as a `uint16_t` copied in host byte order, the custom key, and the LSN in 8 bytes
big-endian. Hosts are little-endian (x86-64). `create` and the readers read back what `create`
wrote (`getCustomKey_create_findKey` and the lemmas beside it). The keys do not keep the order of
`(custom key, LSN)`: keys of one length do (`create_lt_create_of_length_eq`), but a shorter key
comes first whatever its bytes (`create_lt_create_of_length_lt`).

The readers index bytes the way the source reads memory; a read past the end of a key, which the
source does not guard against for keys shorter than its header, reads 0 here.
-/

namespace LogDevice

/-- Log id (`logid_t`). -/
abbrev LogId := UInt64

/-- `FIND_TIME_INDEX`. -/
def FIND_TIME_INDEX : UInt8 := 'f'.toUInt8

/-- `FIND_KEY_INDEX`. -/
def FIND_KEY_INDEX : UInt8 := 'k'.toUInt8

/-- `FIND_TIME_KEY_SIZE`. -/
def FIND_TIME_KEY_SIZE : Nat := 8

namespace RocksDBKeyFormat.IndexKey

open Lib

/-- `IndexKey::HEADER`, `prefix(KeyPrefix::Index)`. -/
def HEADER : UInt8 := 'I'.toUInt8

/-- The header, the log id and the index type: what every index key of one log and index starts
with. -/
def head (log_id : LogId) (index_type : UInt8) : List UInt8 :=
  HEADER :: beBytes 8 log_id.toNat ++ [index_type]

/-- `IndexKey::create`. -/
def create (log_id : LogId) (index_type : UInt8) (custom_key : List UInt8) (lsn : Lsn) :
    List UInt8 :=
  let lsn_big_endian := beBytes 8 lsn.toNat
  if index_type = FIND_KEY_INDEX then
    -- `key_length` is a `uint16_t`, copied in host byte order before the key
    head log_id index_type ++ (leBytes 2 custom_key.length ++ (custom_key ++ lsn_big_endian))
  else if index_type = FIND_TIME_INDEX then
    head log_id index_type ++ (custom_key ++ lsn_big_endian)
  else
    -- no case of the switch copies the key: the LSN follows the index type, and the bytes left
    -- for the key stay zero
    head log_id index_type ++ (lsn_big_endian ++ List.replicate custom_key.length 0)

/-- `IndexKey::getLogID`. -/
def getLogID (blob : List UInt8) : LogId :=
  (ofBeBytes ((blob.drop 1).take 8)).toUInt64

/-- `IndexKey::getIndexType`. -/
def getIndexType (blob : List UInt8) : UInt8 :=
  blob.getD 9 0

/-- `IndexKey::getCustomKey`; the source has no key for another index type (`ld_check(false)`). -/
def getCustomKey (blob : List UInt8) : List UInt8 :=
  let index_type := getIndexType blob
  if index_type = FIND_TIME_INDEX then (blob.drop 10).take FIND_TIME_KEY_SIZE
  else if index_type = FIND_KEY_INDEX then
    let key_length := ofLeBytes ((blob.drop 10).take 2)
    (blob.drop 12).take key_length
  else []

/-- `IndexKey::getLSN`: the last 8 bytes. -/
def getLSN (blob : List UInt8) : Lsn :=
  (ofBeBytes ((blob.drop (blob.length - 8)).take 8)).toUInt64

/-- `IndexKey::valid`: an index key of a known type, of the size its type and key length give. -/
def valid (blob : List UInt8) : Bool :=
  if blob.getD 0 0 ≠ HEADER then false
  else
    let pre_key_size := 10
    let post_key_size := 8
    let index_type := getIndexType blob
    if index_type = FIND_TIME_INDEX then
      blob.length == pre_key_size + FIND_TIME_KEY_SIZE + post_key_size
    else if index_type = FIND_KEY_INDEX then
      if blob.length < pre_key_size + 2 + post_key_size then false
      else
        let key_length := ofLeBytes ((blob.drop pre_key_size).take 2)
        blob.length == pre_key_size + (2 + key_length) + post_key_size
    else false

/-! ### Reading back a findKey index key -/

section RoundTrip

variable (log_id : LogId) (custom_key : List UInt8) (lsn : Lsn)

@[simp] lemma length_head (index_type : UInt8) : (head log_id index_type).length = 10 := by
  simp [head]

/-- The log id and the index type of every index key read back, whatever follows them. -/
lemma getLogID_head_append (index_type : UInt8) (rest : List UInt8) :
    getLogID (head log_id index_type ++ rest) = log_id := by
  have hsplit : head log_id index_type ++ rest = [HEADER] ++ (beBytes 8 log_id.toNat ++
      (index_type :: rest)) := by
    simp [head]
  rw [hsplit]
  exact toUInt64_readBE (rfl : [HEADER].length = 1) _ log_id

lemma getIndexType_head_append (index_type : UInt8) (rest : List UInt8) :
    getIndexType (head log_id index_type ++ rest) = index_type := by
  rw [getIndexType, List.getD_eq_getElem?_getD, List.getElem?_append_left (by simp), head]
  simp

lemma create_findKey : create log_id FIND_KEY_INDEX custom_key lsn =
    head log_id FIND_KEY_INDEX ++
      (leBytes 2 custom_key.length ++ (custom_key ++ beBytes 8 lsn.toNat)) := by
  simp [create]

@[simp] lemma length_create_findKey :
    (create log_id FIND_KEY_INDEX custom_key lsn).length = 10 + (2 + (custom_key.length + 8)) := by
  simp [create_findKey]

lemma getLogID_create_findKey : getLogID (create log_id FIND_KEY_INDEX custom_key lsn) = log_id := by
  rw [create_findKey, getLogID_head_append]

lemma getIndexType_create_findKey :
    getIndexType (create log_id FIND_KEY_INDEX custom_key lsn) = FIND_KEY_INDEX := by
  rw [create_findKey, getIndexType_head_append]

/-- The key length in the header reads back, for a key that fits in a `uint16_t`. -/
lemma key_length_create_findKey (hkey : custom_key.length < 2 ^ 16) :
    ofLeBytes (((create log_id FIND_KEY_INDEX custom_key lsn).drop 10).take 2) =
      custom_key.length := by
  rw [create_findKey, List.drop_left' (length_head _ _), List.take_left' (length_leBytes 2 _),
    ofLeBytes_leBytes]
  exact Nat.mod_eq_of_lt hkey

lemma getCustomKey_create_findKey (hkey : custom_key.length < 2 ^ 16) :
    getCustomKey (create log_id FIND_KEY_INDEX custom_key lsn) = custom_key := by
  have hlen := key_length_create_findKey log_id custom_key lsn hkey
  have htype := getIndexType_create_findKey log_id custom_key lsn
  have hne : FIND_KEY_INDEX ≠ FIND_TIME_INDEX := by decide
  simp only [getCustomKey, htype, hne, if_false, if_true, hlen]
  rw [create_findKey, ← List.append_assoc, List.drop_left' (by simp), List.take_left' rfl]

lemma getLSN_create_findKey : getLSN (create log_id FIND_KEY_INDEX custom_key lsn) = lsn := by
  have hsplit : create log_id FIND_KEY_INDEX custom_key lsn =
      (head log_id FIND_KEY_INDEX ++ (leBytes 2 custom_key.length ++ custom_key)) ++
        beBytes 8 lsn.toNat := by
    simp [create_findKey]
  rw [getLSN, hsplit, List.length_append, length_beBytes, Nat.add_sub_cancel,
    List.drop_left' rfl, List.take_of_length_le (by simp), ofBeBytes_beBytes_toNat]

/-- A findKey index key `create` writes is one `valid` accepts. -/
lemma valid_create_findKey (hkey : custom_key.length < 2 ^ 16) :
    valid (create log_id FIND_KEY_INDEX custom_key lsn) = true := by
  have hheader : (create log_id FIND_KEY_INDEX custom_key lsn).getD 0 0 = HEADER := by
    simp [create_findKey, head]
  have htype := getIndexType_create_findKey log_id custom_key lsn
  have hlen := key_length_create_findKey log_id custom_key lsn hkey
  have hne : FIND_KEY_INDEX ≠ FIND_TIME_INDEX := by decide
  simp only [valid, hheader, htype, hne, hlen, length_create_findKey, ne_eq, not_true_eq_false,
    if_false, if_true]
  rw [if_neg (by omega), beq_iff_eq]
  omega

/-! ### Reading back a findTime index key

A findTime key has no length before it: it is `FIND_TIME_KEY_SIZE` bytes, the timestamp. -/

lemma create_findTime : create log_id FIND_TIME_INDEX custom_key lsn =
    head log_id FIND_TIME_INDEX ++ (custom_key ++ beBytes 8 lsn.toNat) := by
  rw [create, if_neg (by decide), if_pos rfl]

lemma getCustomKey_create_findTime (hkey : custom_key.length = FIND_TIME_KEY_SIZE) :
    getCustomKey (create log_id FIND_TIME_INDEX custom_key lsn) = custom_key := by
  have htype : getIndexType (create log_id FIND_TIME_INDEX custom_key lsn) = FIND_TIME_INDEX := by
    rw [create_findTime, getIndexType_head_append]
  simp only [getCustomKey, htype, if_true]
  rw [create_findTime, List.drop_left' (length_head _ _), List.take_left' hkey]

lemma getLSN_create_findTime : getLSN (create log_id FIND_TIME_INDEX custom_key lsn) = lsn := by
  have hsplit : create log_id FIND_TIME_INDEX custom_key lsn =
      (head log_id FIND_TIME_INDEX ++ custom_key) ++ beBytes 8 lsn.toNat := by
    simp [create_findTime]
  rw [getLSN, hsplit, List.length_append, length_beBytes, Nat.add_sub_cancel,
    List.drop_left' rfl, List.take_of_length_le (by simp), ofBeBytes_beBytes_toNat]

/-- A findTime index key of a timestamp of `FIND_TIME_KEY_SIZE` bytes is one `valid` accepts. -/
lemma valid_create_findTime (hkey : custom_key.length = FIND_TIME_KEY_SIZE) :
    valid (create log_id FIND_TIME_INDEX custom_key lsn) = true := by
  have hheader : (create log_id FIND_TIME_INDEX custom_key lsn).getD 0 0 = HEADER := by
    simp [create_findTime, head]
  have htype : getIndexType (create log_id FIND_TIME_INDEX custom_key lsn) = FIND_TIME_INDEX := by
    rw [create_findTime, getIndexType_head_append]
  have hlen : (create log_id FIND_TIME_INDEX custom_key lsn).length = 10 + FIND_TIME_KEY_SIZE + 8 := by
    simp [create_findTime, hkey, Nat.add_assoc]
  simp only [valid, hheader, htype, hlen, ne_eq, not_true_eq_false, if_false, if_true,
    beq_self_eq_true]

/-- An index key reads back, and `valid` accepts it, where its custom key is what its index type
stores: a findKey key that fits in a `uint16_t`, or a findTime key of `FIND_TIME_KEY_SIZE` bytes. -/
lemma create_roundtrip {index_type : UInt8}
    (hindex : index_type = FIND_KEY_INDEX ∧ custom_key.length < 2 ^ 16 ∨
      index_type = FIND_TIME_INDEX ∧ custom_key.length = FIND_TIME_KEY_SIZE) :
    getLogID (create log_id index_type custom_key lsn) = log_id ∧
      getIndexType (create log_id index_type custom_key lsn) = index_type ∧
      getCustomKey (create log_id index_type custom_key lsn) = custom_key ∧
      getLSN (create log_id index_type custom_key lsn) = lsn ∧
      valid (create log_id index_type custom_key lsn) = true := by
  rcases hindex with ⟨rfl, hkey⟩ | ⟨rfl, hkey⟩
  · exact ⟨getLogID_create_findKey _ _ _, getIndexType_create_findKey _ _ _,
      getCustomKey_create_findKey _ _ _ hkey, getLSN_create_findKey _ _ _,
      valid_create_findKey _ _ _ hkey⟩
  · refine ⟨?_, ?_, getCustomKey_create_findTime _ _ _ hkey, getLSN_create_findTime _ _ _,
      valid_create_findTime _ _ _ hkey⟩
    · rw [create_findTime, getLogID_head_append]
    · rw [create_findTime, getIndexType_head_append]

end RoundTrip

/-! ### The bytewise order of findKey index keys -/

section Order

variable {log_id : LogId} {k₁ k₂ : List UInt8} {lsn₁ lsn₂ : Lsn}

/-- The keys of one log's findKey index compare by the key lengths, as the host lays them out,
then by the keys followed by their LSNs. -/
lemma create_lt_create_iff :
    create log_id FIND_KEY_INDEX k₁ lsn₁ < create log_id FIND_KEY_INDEX k₂ lsn₂ ↔
      leBytes 2 k₁.length < leBytes 2 k₂.length ∨ leBytes 2 k₁.length = leBytes 2 k₂.length ∧
        k₁ ++ beBytes 8 lsn₁.toNat < k₂ ++ beBytes 8 lsn₂.toNat := by
  rw [create_findKey, create_findKey, append_lt_append_iff rfl, append_lt_append_iff (by simp)]
  simp only [List.lt_irrefl, false_or, true_and]

/-- Keys of one length keep the order of `(custom key, LSN)`. -/
lemma create_lt_create_of_length_eq (h : k₁.length = k₂.length) :
    create log_id FIND_KEY_INDEX k₁ lsn₁ < create log_id FIND_KEY_INDEX k₂ lsn₂ ↔
      k₁ < k₂ ∨ k₁ = k₂ ∧ lsn₁ < lsn₂ := by
  rw [create_lt_create_iff, h, append_lt_append_iff h,
    beBytes_lt_beBytes_iff lsn₁.toNat_lt lsn₂.toNat_lt, ← UInt64.lt_iff_toNat_lt]
  simp only [List.lt_irrefl, false_or, true_and]

/-- A length under 256 is its own low byte, then a zero byte. -/
lemma leBytes_two_of_lt {n : ℕ} (h : n < 256) : leBytes 2 n = [UInt8.ofNat n, 0] := by
  simp [leBytes, beBytes, Nat.div_eq_of_lt h, Nat.mod_eq_of_lt h]

/-- Among keys shorter than 256 bytes, a shorter key comes first, whatever its bytes and its
LSN. -/
lemma create_lt_create_of_length_lt (h : k₁.length < k₂.length) (h₂ : k₂.length < 256) :
    create log_id FIND_KEY_INDEX k₁ lsn₁ < create log_id FIND_KEY_INDEX k₂ lsn₂ := by
  rw [create_lt_create_iff, leBytes_two_of_lt (h.trans h₂), leBytes_two_of_lt h₂]
  left
  rw [List.cons_lt_cons_iff, UInt8.lt_iff_toNat_lt, UInt8.toNat_ofNat_of_lt' (h.trans h₂),
    UInt8.toNat_ofNat_of_lt' h₂]
  exact .inl h

end Order

end RocksDBKeyFormat.IndexKey

end LogDevice
