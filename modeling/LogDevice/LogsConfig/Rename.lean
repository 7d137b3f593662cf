import LogDevice.LogsConfig.Tree

/-!
# Replacing and renaming in the logs config tree

Model of `LogsConfigTree::find`, `replaceLogGroup` and `rename`
(`common/configuration/logs/LogsConfigTree.{h,cpp}`), over the tree of `LogDevice.LogsConfig.Tree`.

`rename` checks that the two paths differ and have as many tokens, that neither is the root, that
the destination is free and the source exists. It then renames a log group through
`replaceLogGroup` on the source path, and a directory by `setName` on it and `replaceChild` on the
destination's parent. Nothing checks that the two parents are one directory: renaming `/a/b` to
`/c/d` returns 0, but `replaceChild` finds no `b` under `/c`, so the directory is still found at
`/a/b`, under its new name, and nothing is at `/c/d` (`rename_across_directories`).
-/

namespace LogDevice.LogsConfig

variable {LogAttributes : Type}

/-- `LogGroupNode::withName`: the same log group under another name. -/
def LogGroupNode.withName (lg : LogGroupNode LogAttributes) (name : String) :
    LogGroupNode LogAttributes :=
  { lg with name }

namespace DirectoryNode

/-- `DirectoryNode::deleteLogGroup`: the log group of that name removed. -/
def deleteLogGroup (dir : DirectoryNode LogAttributes) (name : String) :
    DirectoryNode LogAttributes :=
  { dir with logs := dir.logs.filter (·.1 != name) }

/-- `DirectoryNode::setName`. -/
def setName (dir : DirectoryNode LogAttributes) (name : String) : DirectoryNode LogAttributes :=
  { dir with name }

/-- `DirectoryNode::replaceChild`: the child under the key `name` moved to the key `new_name`,
itself unchanged; false where there is none. -/
def replaceChild (dir : DirectoryNode LogAttributes) (name new_name : String) :
    Bool × DirectoryNode LogAttributes :=
  match dir.children.lookup name with
  | some child =>
    (true, { dir with children := setEntry new_name child (dir.children.filter (·.1 != name)) })
  | none => (false, dir)

end DirectoryNode

/-- What `LogsConfigTree::find` finds: a directory, or a log group and its directory. -/
inductive Found (LogAttributes : Type) where
  | directory (path : List String)
  | logGroup (parent : List String) (log_group : LogGroupNode LogAttributes)

namespace LogsConfigTree

variable (A : AttributesModel LogAttributes)

/-- The tree with the directory at `path` changed by `f`. -/
def modifyDir (t : LogsConfigTree LogAttributes) (path : List String)
    (f : DirectoryNode LogAttributes → DirectoryNode LogAttributes) : LogsConfigTree LogAttributes :=
  { t with root_ := t.root_.modifyAt f path }

/-- `LogsConfigTree::find`: the directory the path leads to, or the log group its last token names
in the directory the others lead to. -/
def find (t : LogsConfigTree LogAttributes) (path_tokens : List String) :
    Option (Found LogAttributes) :=
  match t.partialFindDirectory [] path_tokens with
  | (found, []) => some (.directory found)
  | (found, [group_name]) =>
    (t.root_.dirAt found).bind fun dir => (dir.logs.lookup group_name).map (.logGroup found)
  | _ => none

/-- `LogsConfigTree::deleteLogGroupFromLookupIndex`: the interval of the index holding the first
log id of `range` erased; `none` (false, with `INVALID_CONFIG`) where no interval holds it. -/
def deleteLogGroupFromLookupIndex (t : LogsConfigTree LogAttributes) (range : logid_range_t) :
    Option (LogsConfigTree LogAttributes) :=
  match t.logs_index_.find? fun e => e.1.1 ≤ range.1 && range.1 ≤ e.1.2 with
  | some e => some { t with logs_index_ := t.logs_index_.filter (·.1 != e.1) }
  | none => none

/-- `LogsConfigTree::replaceLogGroup(path, new_log_group)`: the log group at `path` replaced by
`new_log_group`, in the same directory; the old one put back where the new one clashes or its
directory rejects it. -/
def replaceLogGroup (t : LogsConfigTree LogAttributes) (path_tokens : List String)
    (new_log_group : LogGroupNode LogAttributes) : Except E Unit × LogsConfigTree LogAttributes :=
  if !new_log_group.isRangeValid then (.error .INVALID_ATTRIBUTES, t)
  else
    match t.partialFindDirectory [] path_tokens with
    | (parent, [group_name]) =>
      match (t.root_.dirAt parent).bind (·.logs.lookup group_name) with
      | none => (.error .NOTFOUND, t)
      | some old_node =>
        match t.deleteLogGroupFromLookupIndex old_node.range with
        | none => (.error .INVALID_CONFIG, t)
        | some t₁ =>
          if t₁.doesLogRangeClash new_log_group.range then
            (.error .ID_CLASH, t₁.updateLookupIndex parent old_node)
          else
            match (t₁.modifyDir parent (·.deleteLogGroup group_name)).addLogGroupNode A parent
                new_log_group with
            | (.ok _, t₂) => (.ok (), t₂)
            -- `parent->addLogGroup(old_node, true)`, then the index
            | (.error _, t₂) =>
              (.error .INVALID_ATTRIBUTES,
                (t₂.modifyDir parent fun dir =>
                  { dir with logs := setEntry old_node.name old_node dir.logs }).updateLookupIndex
                  parent old_node)
    -- the path is a directory, or its parent is missing
    | _ => (.error .NOTFOUND, t)

/-- `LogsConfigTree::rename(from_path, to_path)`, the paths as their tokens. -/
def rename (t : LogsConfigTree LogAttributes) (from_tokens to_tokens : List String) :
    Except E Unit × LogsConfigTree LogAttributes :=
  if from_tokens = to_tokens then (.error .INVALID_PARAM, t)
  else if to_tokens.length ≠ from_tokens.length then (.error .INVALID_PARAM, t)
  else if from_tokens.length = 0 ∨ to_tokens.length = 0 then (.error .INVALID_PARAM, t)
  else if from_tokens = [""] ∨ to_tokens = [""] then (.error .INVALID_PARAM, t)
  else if (t.find to_tokens).isSome then (.error .EXISTS, t)
  else
    let old_name := from_tokens.getLast?.getD ""
    let new_name := to_tokens.getLast?.getD ""
    let to_parent := to_tokens.dropLast
    match t.find from_tokens with
    | none => (.error .NOTFOUND, t)
    | some (.directory path) =>
      let dest_dir := if to_parent = [] then some [] else t.findDirectory to_parent
      match dest_dir with
      | some dest =>
        -- the source gets its new name; its parent's key changes only where `dest` is the parent
        ((.ok ()), (t.modifyDir path (·.setName new_name)).modifyDir dest fun dir =>
          (dir.replaceChild old_name new_name).2)
      -- `ld_check(dest_dir != nullptr)`: the code goes on through a null pointer
      | none => (.error .NOTFOUND, t)
    | some (.logGroup _ lg) => t.replaceLogGroup A from_tokens (lg.withName new_name)

/-! ### Renaming into another directory -/

/-- A tree with the directories `/a`, `/a/b` and `/c`, all of attributes `attrs`. -/
def twoDirectoryTree (attrs : LogAttributes) : LogsConfigTree LogAttributes :=
  { root_ := ⟨"", attrs, [("a", ⟨"a", attrs, [("b", ⟨"b", attrs, [], []⟩)], []⟩),
      ("c", ⟨"c", attrs, [], []⟩)], []⟩
    logs_index_ := [] }

/-- Renaming `/a/b` to `/c/d` returns 0 although the parents differ, and afterwards the directory
is still found at `/a/b` and nothing is at `/c/d`. -/
theorem rename_across_directories (attrs : LogAttributes) :
    ((twoDirectoryTree attrs).rename A ["a", "b"] ["c", "d"]).1 = .ok () ∧
      (((twoDirectoryTree attrs).rename A ["a", "b"] ["c", "d"]).2.find ["a", "b"]).isSome ∧
      (((twoDirectoryTree attrs).rename A ["a", "b"] ["c", "d"]).2.find ["c", "d"]).isNone :=
  ⟨rfl, rfl, rfl⟩

end LogsConfigTree

end LogDevice.LogsConfig
