import Mathlib
import LogDevice.Types

/-!
# The logs config tree

Model of `LogsConfigTree` and `DirectoryNode` (`common/configuration/logs/LogsConfigTree.{h,cpp}`):
a tree of directories, each with its child directories and its log groups by name, and
`logs_index_`, the interval map from log ids to the log group that holds them and its directory.

A pointer to a directory is its path of names from the root. A path the caller gives as a string
enters as its tokens, what `normalize_path` and `tokensOfPath` make of it. The maps of a directory
are hash maps: lists of entries with distinct names, whose order nothing here depends on. The
attributes are a parameter: the tree only builds the attributes a node inherits from its directory
(`LogAttributes(attrs, parent_attrs)`) and has `LogGroupNode::isValid` check them.

A call returns what the code returns, or the error it leaves in `err`, together with the tree after
it. Without intermediate directories a failed `addLogGroup` leaves the tree as it was, every check
coming before the change (`addLogGroupIn_error_eq`). With them it may not: it creates the missing
directories of the path before it checks the log group, and a log group whose range clashes leaves
them behind (`addLogGroup_clash_keeps_intermediate_directory`).
-/

namespace LogDevice.LogsConfig

/-- What the tree does with `LogAttributes`. -/
structure AttributesModel (LogAttributes : Type) where
  /-- `LogAttributes()`, no attribute set. -/
  none : LogAttributes
  /-- `LogAttributes(attrs, parent_attrs)`: each attribute that `attrs` leaves unset taken from
  `parent_attrs`. -/
  inherit : LogAttributes → LogAttributes → LogAttributes
  /-- The checks of `LogGroupNode::isValid` on the attributes of a log group: max writes in flight,
  single writer, backlog duration, replication and shadow. -/
  valid : LogAttributes → Bool

/-- `logid_range_t`: the first and the last log id of a log group. -/
abbrev logid_range_t := UInt64 × UInt64

/-- `LOGID_MAX`, `(1 << LOGID_BITS) - 1` with 62 bits. -/
def LOGID_MAX : UInt64 := 4611686018427387903

/-- `map[key] = value` on the entries of a hash map: the entry of `key` replaced, or added. -/
def setEntry {α β : Type} [DecidableEq α] (key : α) (value : β) : List (α × β) → List (α × β)
  | [] => [(key, value)]
  | e :: rest => if e.1 = key then (key, value) :: rest else e :: setEntry key value rest

section SetEntry

variable {α β : Type} [DecidableEq α] {key : α} {value : β}

lemma mem_setEntry {l : List (α × β)} {e : α × β} (he : e ∈ setEntry key value l) :
    e = (key, value) ∨ e ∈ l := by
  induction l with
  | nil => exact .inl (List.mem_singleton.mp he)
  | cons e' rest ih =>
    rw [setEntry] at he
    split_ifs at he
    · rcases List.mem_cons.mp he with rfl | he
      · exact .inl rfl
      · exact .inr (List.mem_cons_of_mem e' he)
    · rcases List.mem_cons.mp he with rfl | he
      · exact .inr List.mem_cons_self
      · exact (ih he).imp_right (List.mem_cons_of_mem e')

lemma nodup_keys_setEntry {l : List (α × β)} (hl : (l.map Prod.fst).Nodup) :
    ((setEntry key value l).map Prod.fst).Nodup := by
  induction l with
  | nil => exact List.nodup_singleton key
  | cons e rest ih =>
    rw [List.map_cons, List.nodup_cons] at hl
    rw [setEntry]
    split_ifs with he
    · -- the entry of `key` replaced: the same keys
      rw [List.map_cons, List.nodup_cons, ← he]
      exact hl
    · -- a later entry: `e.1` is neither `key` nor a key of the rest
      rw [List.map_cons, List.nodup_cons]
      refine ⟨fun hmem => ?_, ih hl.2⟩
      obtain ⟨e', he', hkey⟩ := List.mem_map.mp hmem
      rcases mem_setEntry he' with rfl | he'
      · exact he hkey.symm
      · exact hl.1 (hkey ▸ List.mem_map_of_mem he')

/-- Past entries of other keys, `setEntry` replaces the entry of its key. -/
lemma setEntry_append_cons {P l : List (α × β)} (hP : key ∉ P.map Prod.fst) (old : β) :
    setEntry key value (P ++ (key, old) :: l) = P ++ (key, value) :: l := by
  induction P with
  | nil => rw [List.nil_append, List.nil_append, setEntry, if_pos rfl]
  | cons e P ih =>
    rw [List.map_cons, List.mem_cons, not_or] at hP
    rw [List.cons_append, List.cons_append, setEntry, if_neg (Ne.symm hP.1), ih hP.2]

end SetEntry

section Nodes

variable {LogAttributes : Type}

/-- `LogGroupNode`: a name, attributes and a range of log ids. -/
structure LogGroupNode (LogAttributes : Type) where
  name : String
  attrs : LogAttributes
  range : logid_range_t

/-- `DirectoryNode`: a name, attributes, the child directories `children_` and the log groups
`logs_`, both by name. -/
structure DirectoryNode (LogAttributes : Type) where
  name : String
  attrs : LogAttributes
  children : List (String × DirectoryNode LogAttributes)
  logs : List (String × LogGroupNode LogAttributes)

namespace LogGroupNode

/-- `LogGroupNode::isRangeValid`: a positive first log id, at most the last, itself at most
`LOGID_MAX`. -/
def isRangeValid (lg : LogGroupNode LogAttributes) : Bool :=
  !(lg.range.1 > lg.range.2 || lg.range.1 = 0 || lg.range.2 > LOGID_MAX)

/-- `LogGroupNode::isValid`: a name, valid attributes and a valid range. -/
def isValid (A : AttributesModel LogAttributes) (lg : LogGroupNode LogAttributes) : Bool :=
  lg.name != "" && A.valid lg.attrs && lg.isRangeValid

end LogGroupNode

namespace DirectoryNode

/-- `DirectoryNode::exists`: a log group or a directory of that name. -/
def «exists» (dir : DirectoryNode LogAttributes) (name : String) : Bool :=
  (dir.logs.lookup name).isSome || (dir.children.lookup name).isSome

/-- The directory at the end of `path` below `dir`. -/
def dirAt : DirectoryNode LogAttributes → List String → Option (DirectoryNode LogAttributes)
  | dir, [] => some dir
  | dir, name :: path =>
    match dir.children.lookup name with
    | some child => dirAt child path
    | none => none

/-- The tree below `dir` with the directory at the end of `path` changed by `f`. -/
def modifyAt (f : DirectoryNode LogAttributes → DirectoryNode LogAttributes) :
    List String → DirectoryNode LogAttributes → DirectoryNode LogAttributes
  | [], dir => f dir
  | name :: path, dir =>
    { dir with
      children := dir.children.map fun c => if c.1 = name then (c.1, modifyAt f path c.2) else c }

/-- `DirectoryNode::addChild`: an empty directory whose attributes inherit from this one's. -/
def addChild (A : AttributesModel LogAttributes) (dir : DirectoryNode LogAttributes) (name : String)
    (child_attrs : LogAttributes) : DirectoryNode LogAttributes :=
  { dir with children := setEntry name ⟨name, A.inherit child_attrs dir.attrs, [], []⟩ dir.children }

/-- `DirectoryNode::addLogGroup(LogGroupNodePtr, overwrite)`: the group and the directory with it,
unless a node of its name is there and `overwrite` is not set. -/
def addLogGroupPtr (dir : DirectoryNode LogAttributes) (group : LogGroupNode LogAttributes)
    (overwrite : Bool) : Except E (LogGroupNode LogAttributes × DirectoryNode LogAttributes) :=
  if !overwrite && dir.exists group.name then .error .EXISTS
  else .ok (group, { dir with logs := setEntry group.name group dir.logs })

/-- `DirectoryNode::addLogGroup(name, range, log_attrs, overwrite)`: a log group whose attributes
inherit from the directory's, added if it is valid. -/
def addLogGroup (A : AttributesModel LogAttributes) (dir : DirectoryNode LogAttributes)
    (name : String) (range : logid_range_t) (log_attrs : LogAttributes) (overwrite : Bool) :
    Except E (LogGroupNode LogAttributes × DirectoryNode LogAttributes) :=
  let log : LogGroupNode LogAttributes := ⟨name, A.inherit log_attrs dir.attrs, range⟩
  if log.isValid A then dir.addLogGroupPtr log overwrite else .error .INVALID_ATTRIBUTES

end DirectoryNode

end Nodes

/-- `LogGroupInDirectory`: a log group and (the path of) its directory. -/
structure LogGroupInDirectory (LogAttributes : Type) where
  log_group : LogGroupNode LogAttributes
  parent : List String

/-- `LogsConfigTree`: the root directory and `logs_index_`, the ranges of log ids of the log groups,
each to its group. -/
structure LogsConfigTree (LogAttributes : Type) where
  root_ : DirectoryNode LogAttributes
  logs_index_ : List (logid_range_t × LogGroupInDirectory LogAttributes)

namespace LogsConfigTree

variable {LogAttributes : Type} (A : AttributesModel LogAttributes)

/-- The loop of `partialFindDirectory`: from `dir` at `path`, down the children named by the
tokens while there is one; the path reached and the tokens left. -/
def partialFindFrom : DirectoryNode LogAttributes → List String → List String →
    List String × List String
  | _, path, [] => (path, [])
  | dir, path, token :: tokens =>
    match dir.children.lookup token with
    | some child => partialFindFrom child (path ++ [token]) tokens
    | none => (path, token :: tokens)

/-- `LogsConfigTree::partialFindDirectory`: the deepest directory reached from `parent` along
`path_tokens`, and the tokens left. The tokens of the root, none or one empty token, reach `parent`
itself. -/
def partialFindDirectory (t : LogsConfigTree LogAttributes) (parent : List String)
    (path_tokens : List String) : List String × List String :=
  if path_tokens = [] ∨ path_tokens = [""] then (parent, [])
  else
    match t.root_.dirAt parent with
    | some dir => partialFindFrom dir parent path_tokens
    -- `ld_check(current_dir != nullptr)`: the callers pass a directory of the tree
    | none => (parent, path_tokens)

/-- `LogsConfigTree::findDirectory`: the directory at the path, if every token names one. -/
def findDirectory (t : LogsConfigTree LogAttributes) (path_tokens : List String) :
    Option (List String) :=
  match t.partialFindDirectory [] path_tokens with
  | (found, []) => some found
  | _ => none

/-- The loop of `addDirectory`: below `current`, a child for each token, the last with `attrs` and
the others with none; the root after it and the path of the last directory. -/
def addDirectories (attrs : LogAttributes) :
    List String → List String → DirectoryNode LogAttributes → DirectoryNode LogAttributes × List String
  | current, [], root => (root, current)
  | current, token :: tokens, root =>
    let dir_attrs := if tokens = [] then attrs else A.none
    addDirectories attrs (current ++ [token]) tokens
      (root.modifyAt (fun dir => dir.addChild A token dir_attrs) current)

/-- `LogsConfigTree::addDirectory(path, recursive, attrs)`: the directory at `path`, with its
missing parents when `recursive`; the path of the new directory. -/
def addDirectory (t : LogsConfigTree LogAttributes) (path_tokens : List String) (recursive : Bool)
    (attrs : LogAttributes) : Except E (List String) × LogsConfigTree LogAttributes :=
  match t.partialFindDirectory [] path_tokens with
  | (found, remaining_tokens) =>
    if remaining_tokens.length > 1 && !recursive then (.error .NOTFOUND, t)
    else if remaining_tokens = [] then (.error .EXISTS, t)
    else
      match addDirectories A attrs found remaining_tokens t.root_ with
      | (root, dir) => (.ok dir, { t with root_ := root })

/-- `LogsConfigTree::doesLogRangeClash`: a range of the index meets `range`. The code looks the
right-open interval `[first, last + 1)` up; with `last` at most `LOGID_MAX` it meets an interval
`[lo, hi + 1)` exactly when `lo ≤ last` and `first ≤ hi`. -/
def doesLogRangeClash (t : LogsConfigTree LogAttributes) (range : logid_range_t) : Bool :=
  t.logs_index_.any fun e => e.1.1 ≤ range.2 && range.1 ≤ e.1.2

/-- `LogsConfigTree::updateLookupIndex(parent, log_group, false)`: the group's range added to the
index, where nothing clashes with it. -/
def updateLookupIndex (t : LogsConfigTree LogAttributes) (parent : List String)
    (log_group : LogGroupNode LogAttributes) : LogsConfigTree LogAttributes :=
  { t with logs_index_ := t.logs_index_ ++ [(log_group.range, ⟨log_group, parent⟩)] }

/-- `LogsConfigTree::addLogGroup(DirectoryNode*, const LogGroupNode&)`: the log group added to the
directory at `parent` and to the index, unless its name is taken, its range is invalid or clashes,
or the directory rejects it. -/
def addLogGroupNode (t : LogsConfigTree LogAttributes) (parent : List String)
    (log_group : LogGroupNode LogAttributes) :
    Except E (LogGroupNode LogAttributes) × LogsConfigTree LogAttributes :=
  match t.root_.dirAt parent with
  -- a null parent: the callers pass a directory of the tree
  | none => (.error .NOTFOUND, t)
  | some dir =>
    if dir.exists log_group.name then (.error .EXISTS, t)
    else if !log_group.isRangeValid then (.error .INVALID_CONFIG, t)
    else if t.doesLogRangeClash log_group.range then (.error .ID_CLASH, t)
    else
      match dir.addLogGroup A log_group.name log_group.range log_group.attrs false with
      | .ok (lg, dir') =>
        (.ok lg, ({ t with root_ := t.root_.modifyAt (fun _ => dir') parent }).updateLookupIndex
          parent lg)
      | .error e => (.error e, t)

/-- `LogsConfigTree::addLogGroup(DirectoryNode* parent, name, range, log_attrs,
addIntermediateDirectories)`, the name as its tokens: a name of several tokens is a path below
`parent`, whose missing directories are created when `addIntermediateDirectories` is set. -/
def addLogGroupIn (t : LogsConfigTree LogAttributes) (parent : List String)
    (name_tokens : List String) (range : logid_range_t) (log_attrs : LogAttributes)
    (addIntermediateDirectories : Bool) :
    Except E (LogGroupNode LogAttributes) × LogsConfigTree LogAttributes :=
  match name_tokens with
  | [] => (.error .INVALID_PARAM, t)
  | [target_name] => t.addLogGroupNode A parent ⟨target_name, log_attrs, range⟩
  | _ =>
    match t.partialFindDirectory parent name_tokens with
    -- the name is a directory
    | (_, []) => (.error .EXISTS, t)
    | (found, [target_name]) => t.addLogGroupNode A found ⟨target_name, log_attrs, range⟩
    | (found, remaining_tokens) =>
      if !addIntermediateDirectories then (.error .NOTDIR, t)
      else
        -- the missing directories are created first, with no attributes of their own
        match t.addDirectory A (found ++ remaining_tokens.dropLast) true A.none with
        | (.ok dir, t') =>
          t'.addLogGroupNode A dir ⟨remaining_tokens.getLast?.getD "", log_attrs, range⟩
        -- `ld_check(parent != nullptr)`; a null parent fails with `addDirectory`'s error
        | (.error e, t') => (.error e, t')

/-- `LogsConfigTree::addLogGroup(path, range, log_attrs, addIntermediateDirectories)`: the log
group at `path` below the root. -/
def addLogGroup (t : LogsConfigTree LogAttributes) (path_tokens : List String)
    (range : logid_range_t) (log_attrs : LogAttributes) (addIntermediateDirectories : Bool) :
    Except E (LogGroupNode LogAttributes) × LogsConfigTree LogAttributes :=
  t.addLogGroupIn A [] path_tokens range log_attrs addIntermediateDirectories

/-! ### Failures -/

/-- `addDirectory` changes nothing when it fails. -/
lemma addDirectory_error_eq (t : LogsConfigTree LogAttributes) (path_tokens : List String)
    (recursive : Bool) (attrs : LogAttributes) {e : E}
    (h : (t.addDirectory A path_tokens recursive attrs).1 = .error e) :
    (t.addDirectory A path_tokens recursive attrs).2 = t := by
  unfold addDirectory at h ⊢
  rcases hfound : t.partialFindDirectory [] path_tokens with ⟨found, remaining_tokens⟩
  rw [hfound] at h
  dsimp only at h ⊢
  -- creating the directories succeeds, so only the two checks fail
  split_ifs at h ⊢
  · rfl
  · rfl

/-- `addLogGroup(DirectoryNode*, const LogGroupNode&)` changes nothing when it fails: every check,
its own and the directory's, comes before the change. -/
lemma addLogGroupNode_error_eq (t : LogsConfigTree LogAttributes) (parent : List String)
    (log_group : LogGroupNode LogAttributes) {e : E}
    (h : (t.addLogGroupNode A parent log_group).1 = .error e) :
    (t.addLogGroupNode A parent log_group).2 = t := by
  unfold addLogGroupNode at h ⊢
  rcases hdir : t.root_.dirAt parent with _ | dir
  · rfl
  · simp only [hdir] at h ⊢
    split_ifs at h ⊢
    · rfl
    · rfl
    · rfl
    · -- the directory's own checks
      cases hadd : dir.addLogGroup A log_group.name log_group.range log_group.attrs false with
      | error e' => rfl
      | ok p =>
        rw [hadd] at h
        cases h

/-- Without intermediate directories, `addLogGroup` changes nothing when it fails. -/
lemma addLogGroupIn_error_eq (t : LogsConfigTree LogAttributes) (parent : List String)
    (name_tokens : List String) (range : logid_range_t) (log_attrs : LogAttributes) {e : E}
    (h : (t.addLogGroupIn A parent name_tokens range log_attrs false).1 = .error e) :
    (t.addLogGroupIn A parent name_tokens range log_attrs false).2 = t := by
  match name_tokens with
  | [] => rfl
  | [target_name] => exact addLogGroupNode_error_eq A t parent _ h
  | n₁ :: n₂ :: ns =>
    -- a path: where it leads decides the case
    rcases hfound : t.partialFindDirectory parent (n₁ :: n₂ :: ns) with
      ⟨found, _ | ⟨target_name, _ | ⟨r, rs⟩⟩⟩
    · simp only [addLogGroupIn, hfound]
    · simp only [addLogGroupIn, hfound] at h ⊢
      exact addLogGroupNode_error_eq A t found _ h
    · -- a missing directory, which the call may not create
      simp only [addLogGroupIn, hfound, Bool.not_false, if_true]

/-- A tree whose root directory, of attributes `attrs`, holds the log group `a` of log 1. -/
def oneLogTree (attrs : LogAttributes) : LogsConfigTree LogAttributes :=
  let a : LogGroupNode LogAttributes := ⟨"a", attrs, (1, 1)⟩
  { root_ := ⟨"", attrs, [], [("a", a)]⟩
    logs_index_ := [((1, 1), ⟨a, []⟩)] }

/-- With intermediate directories, `addLogGroup` of `/x/g` for log 1 in that tree fails with
`ID_CLASH`, but only after it has created the directory `/x`, which stays. -/
theorem addLogGroup_clash_keeps_intermediate_directory (attrs : LogAttributes) :
    ((oneLogTree attrs).addLogGroup A ["x", "g"] (1, 1) attrs true).1 = .error .ID_CLASH ∧
      (oneLogTree attrs).findDirectory ["x"] = none ∧
      ((oneLogTree attrs).addLogGroup A ["x", "g"] (1, 1) attrs true).2.findDirectory ["x"] =
        some ["x"] :=
  ⟨rfl, rfl, rfl⟩

end LogsConfigTree

end LogDevice.LogsConfig
