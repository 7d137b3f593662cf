import LogDevice.LocalLogStore.RocksDBKeyFormat
import LogDevice.Lsn

/-!
# Bracketing a key in the findKey index of a partition

Model of `PartitionedRocksDBStore::FindKey::findPreciseBound`
(`server/locallogstore/PartitionedRocksDBStoreFindKey.cpp`): in one partition, seek the findKey
index of the log to the key asked for, and narrow the LSN bounds `lo` and `hi` with the index
entries on either side of it. `Client::findKeySync` documents the bounds it is after
(`findKeyAnswer`): `lo` the highest LSN whose record's key is smaller than the key asked for, `hi`
the lowest LSN whose record's key is at least as large, keys compared lexicographically.

A RocksDB iterator is a position among the column family's keys in comparator order (bytewise),
`none` where it is not `Valid()`. `Seek`, `SeekForPrev` and `Prev` move it as over a totally
ordered sequence of keys, which is how a single-prefix iterator moves while it stays among the
keys of one log, as the keys below all are. The iterator's status is always ok.
-/

namespace LogDevice.FindKey

open RocksDBKeyFormat

/-- `Iterator::Seek`: the first key at or after `target`. -/
def seek (keys : List (List UInt8)) (target : List UInt8) : Option Nat :=
  let it := keys.findIdx fun key => !(key < target)
  if it < keys.length then some it else none

/-- `Iterator::SeekForPrev`: the last key at or before `target`. -/
def seekForPrev (keys : List (List UInt8)) (target : List UInt8) : Option Nat :=
  let it := keys.findIdx fun key => target < key
  if it = 0 then none else some (it - 1)

/-- `Iterator::Prev`. -/
def prev : Option Nat → Option Nat
  | some (it + 1) => some it
  | _ => none

/-- `Iterator::key`. -/
def keyAt (keys : List (List UInt8)) : Option Nat → List UInt8
  | some it => keys.getD it []
  | none => []

/-- The `outside_index` lambda: the iterator is not on a findKey index key of the log. -/
def outside_index (keys : List (List UInt8)) (logid : LogId) (it : Option Nat) : Bool :=
  match it with
  | none => true
  | some _ =>
    let key := keyAt keys it
    !IndexKey.valid key || IndexKey.getLogID key != logid ||
      IndexKey.getIndexType key != FIND_KEY_INDEX

/-- `FindKey::findPreciseBound` on a partition whose column family holds `keys`: the bounds
`(lo, hi)` it leaves. -/
def findPreciseBound (keys : List (List UInt8)) (logid : LogId) (key : List UInt8) (lo hi : Lsn) :
    Lsn × Lsn :=
  let target := IndexKey.create logid FIND_KEY_INDEX key 0
  let it := seek keys target
  let (hi, it) :=
    if !outside_index keys logid it then
      -- improve the upper bound previously found in the directory index
      (min hi (IndexKey.getLSN (keyAt keys it)), prev it)
    else (hi, seekForPrev keys target)
  let lo := if !outside_index keys logid it then max lo (IndexKey.getLSN (keyAt keys it)) else lo
  (lo, hi)

/-- The bounds `Client::findKeySync` documents, for a log's records as `(lsn, key)`: the highest
LSN with a key smaller than `key` (`LSN_INVALID` if none), and the lowest LSN with a key at least
`key` (`LSN_MAX` if none). -/
def findKeyAnswer (records : List (Lsn × List UInt8)) (key : List UInt8) : Lsn × Lsn :=
  (records.foldl (fun lo record => if record.2 < key then max lo record.1 else lo) LSN_INVALID,
    records.foldl (fun hi record => if record.2 < key then hi else min hi record.1) LSN_MAX)

/-- The length of a custom key goes before its bytes: the index key of `"b"` comes before that of
`"aa"`, which the key order puts after it. In a partition with records `"a"`, `"aa"` and `"b"` at
LSNs 10, 20 and 30, the index keeps them as `"a"`, `"b"`, `"aa"`, and bracketing `"aa"` steps back
from its entry to the one of `"b"`: the lower bound is 30, past the upper bound 20, where the
documented answer is `(10, 20)`. -/
theorem findPreciseBound_shorter_key_first :
    let log_id : LogId := 1
    let a : List UInt8 := ['a'.toUInt8]
    let aa : List UInt8 := ['a'.toUInt8, 'a'.toUInt8]
    let b : List UInt8 := ['b'.toUInt8]
    let keys := [IndexKey.create log_id FIND_KEY_INDEX a 10,
      IndexKey.create log_id FIND_KEY_INDEX b 30, IndexKey.create log_id FIND_KEY_INDEX aa 20]
    IndexKey.create log_id FIND_KEY_INDEX b 0 < IndexKey.create log_id FIND_KEY_INDEX aa 0 ∧
      aa < b ∧
      keys.Pairwise (· < ·) ∧ findPreciseBound keys log_id aa LSN_INVALID LSN_MAX = (30, 20) ∧
      findKeyAnswer [(10, a), (20, aa), (30, b)] aa = (10, 20) := by
  decide

end LogDevice.FindKey
