import LogDevice.LogsConfig.Rename

/-!
# Deleting from the logs config tree

Model of `LogsConfigTree::deleteLogGroup`, `getLogGroupAndParent`, `deleteDirectory` and
`deleteDirectoryFromLookupIndex` (`common/configuration/logs/LogsConfigTree.cpp`). A log group
leaves the index, then its directory. For a directory, the index loses the range of every log group
below it, children first; then the directory's parent deletes the child of the directory's name,
`dir->name()`.

The name is not always the key the parent holds the directory under: after `rename` of `/a/b` to
`/c/d`, the directory at `/a/b` is named `d`. Deleting it then erases the ranges of its log groups
from the index and deletes nothing from the tree, so a log group of the tree is no longer in the
index (`deleteDirectory_after_rename_unindexes`).
-/

namespace LogDevice.LogsConfig

variable {LogAttributes : Type}

namespace DirectoryNode

mutual

/-- The ranges of the log groups below a directory, in the order
`deleteDirectoryFromLookupIndex` visits them: its children's, then its own. -/
def logRanges : DirectoryNode LogAttributes → List logid_range_t
  | ⟨_, _, children, logs⟩ => childrenLogRanges children ++ logs.map (·.2.range)

/-- The ranges of the log groups below each of the children. -/
def childrenLogRanges : List (String × DirectoryNode LogAttributes) → List logid_range_t
  | [] => []
  | (_, child) :: children => logRanges child ++ childrenLogRanges children

end

/-- `DirectoryNode::deleteChild`: the child under the key `name` removed. -/
def deleteChild (dir : DirectoryNode LogAttributes) (name : String) : DirectoryNode LogAttributes :=
  { dir with children := dir.children.filter (·.1 != name) }

end DirectoryNode

namespace LogsConfigTree

/-- `LogsConfigTree::getLogGroupAndParent`: the log group the last token names in the directory the
others lead to, and that directory. -/
def getLogGroupAndParent (t : LogsConfigTree LogAttributes) (path_tokens : List String) :
    Option (List String × LogGroupNode LogAttributes) :=
  match t.partialFindDirectory [] path_tokens with
  | (found, [group_name]) =>
    (t.root_.dirAt found).bind fun dir => (dir.logs.lookup group_name).map (found, ·)
  -- a directory, or a missing parent
  | _ => none

/-- `LogsConfigTree::deleteLogGroup(path)`, the path as its tokens: the group's range erased from
the index, whether or not it is there, then the group from its directory by its name. -/
def deleteLogGroup (t : LogsConfigTree LogAttributes) (path_tokens : List String) :
    Except E Unit × LogsConfigTree LogAttributes :=
  match t.getLogGroupAndParent path_tokens with
  | none => (.error .NOTFOUND, t)
  | some (parent, node) =>
    (.ok (), ((t.deleteLogGroupFromLookupIndex node.range).getD t).modifyDir parent
      (·.deleteLogGroup node.name))

/-- `LogsConfigTree::deleteDirectoryFromLookupIndex(dir)`: the range of each log group below `dir`
erased from the index, a range no interval holds skipped. -/
def deleteDirectoryFromLookupIndex (t : LogsConfigTree LogAttributes)
    (dir : DirectoryNode LogAttributes) : LogsConfigTree LogAttributes :=
  dir.logRanges.foldl (fun t range => (t.deleteLogGroupFromLookupIndex range).getD t) t

/-- `LogsConfigTree::deleteDirectory(path, recursive)`, the path as its tokens. -/
def deleteDirectory (t : LogsConfigTree LogAttributes) (path_tokens : List String)
    (recursive : Bool) : Except E Unit × LogsConfigTree LogAttributes :=
  match t.findDirectory path_tokens with
  | none => (.error .NOTFOUND, t)
  -- the root
  | some [] => (.error .INVALID_PARAM, t)
  | some path =>
    match t.root_.dirAt path with
    -- `findDirectory` found it
    | none => (.error .NOTFOUND, t)
    | some dir =>
      if (!dir.children.isEmpty || !dir.logs.isEmpty) && !recursive then (.error .NOTEMPTY, t)
      else
        -- `parent->deleteChild(dir->name())`: by the directory's name, not by its key
        (.ok (), (t.deleteDirectoryFromLookupIndex dir).modifyDir path.dropLast
          (·.deleteChild dir.name))

/-- A tree with the log group `/a/b/g` of log 1, indexed, and the directory `/c`. -/
def logInNestedDirectoryTree (attrs : LogAttributes) : LogsConfigTree LogAttributes :=
  let g : LogGroupNode LogAttributes := ⟨"g", attrs, (1, 1)⟩
  { root_ := ⟨"", attrs, [("a", ⟨"a", attrs, [("b", ⟨"b", attrs, [], [("g", g)]⟩)], []⟩),
      ("c", ⟨"c", attrs, [], []⟩)], []⟩
    logs_index_ := [((1, 1), ⟨g, ["a", "b"]⟩)] }

/-- Renaming `/a/b` to `/c/d` and then deleting `/a/b` both return 0, and leave the log group
`/a/b/g` in the tree with nothing in the index. -/
theorem deleteDirectory_after_rename_unindexes (A : AttributesModel LogAttributes)
    (attrs : LogAttributes) :
    ((logInNestedDirectoryTree attrs).rename A ["a", "b"] ["c", "d"]).1 = .ok () ∧
      (((logInNestedDirectoryTree attrs).rename A ["a", "b"] ["c", "d"]).2.deleteDirectory
        ["a", "b"] true).1 = .ok () ∧
      ((((logInNestedDirectoryTree attrs).rename A ["a", "b"] ["c", "d"]).2.deleteDirectory
        ["a", "b"] true).2.find ["a", "b", "g"]).isSome ∧
      (((logInNestedDirectoryTree attrs).rename A ["a", "b"] ["c", "d"]).2.deleteDirectory
        ["a", "b"] true).2.logs_index_ = [] :=
  ⟨rfl, rfl, rfl, rfl⟩

end LogsConfigTree

end LogDevice.LogsConfig
