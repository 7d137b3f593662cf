import LogDevice.LogsConfig.Delete

/-!
# Setting attributes in the logs config tree

Model of `DirectoryNode::refreshAttributesInheritance` and `DirectoryNode::setAttributes`, of
`LogsConfigTree::setAttributes`, `rebuildIndexForDir` and `create`
(`common/configuration/logs/LogsConfigTree.{h,cpp}`), and the calls that change the tree, as one
type.

Inheritance is kept in the nodes, not computed on lookup: a node's attributes are merged with its
directory's when it is made (`addChild`, `addLogGroup`), and `setAttributes` on a directory merges
the new attributes with the parent's, then every directory and log group below it again, top down
(`refreshAttributesInheritance`). It works on a deep copy of the directory, `new_dir`, which
replaces the directory only where every log group below stays valid, under the parent's key
`dir->name()`; the index is then rebuilt below it. On the root the defaults are applied first. On a
log group, `setAttributes` is `replaceLogGroup` with the new attributes.
-/

namespace LogDevice.LogsConfig

variable {LogAttributes : Type} (A : AttributesModel LogAttributes)

/-- `LogGroupNode::withLogAttributes`: the same log group with other attributes. -/
def LogGroupNode.withLogAttributes (lg : LogGroupNode LogAttributes) (attrs : LogAttributes) :
    LogGroupNode LogAttributes :=
  { lg with attrs }

namespace DirectoryNode

/-- `DirectoryNode::setChild`: the directory under the key `name`, replacing one there. -/
def setChild (dir : DirectoryNode LogAttributes) (name : String)
    (child : DirectoryNode LogAttributes) : DirectoryNode LogAttributes :=
  { dir with children := setEntry name child dir.children }

/-- One turn of the loop over `logs_` of `refreshAttributesInheritance`: the log group replaced,
through `addLogGroup(replacement, true)`, by one whose attributes are merged with the directory's;
`none` where the replacement is not valid. -/
def refreshLogGroup (dir : DirectoryNode LogAttributes) (e : String × LogGroupNode LogAttributes) :
    Option (DirectoryNode LogAttributes) :=
  let replacement := e.2.withLogAttributes (A.inherit e.2.attrs dir.attrs)
  if replacement.isValid A then
    -- the result of `addLogGroup` is not checked: with `overwrite` it replaces the group
    match dir.addLogGroup A replacement.name replacement.range replacement.attrs true with
    | .ok (_, dir') => some dir'
    | .error _ => some dir
  else none

/-- The loop over `logs_` of `refreshAttributesInheritance`, on the directory's log groups as they
were before it. -/
def refreshLogs (dir : DirectoryNode LogAttributes) : Option (DirectoryNode LogAttributes) :=
  dir.logs.foldlM (refreshLogGroup A) dir

mutual

/-- `DirectoryNode::refreshAttributesInheritance`, the attributes of the directory's parent given
(`none` for the root): the directory's attributes merged with them, then its children refreshed and
its log groups replaced; `none` (false, with `INVALID_ATTRIBUTES`) where a log group below is not
valid. -/
def refreshAttributesInheritance :
    Option LogAttributes → DirectoryNode LogAttributes → Option (DirectoryNode LogAttributes)
  | parent_attrs, ⟨name, attrs, children, logs⟩ =>
    let attrs :=
      match parent_attrs with
      | some parent => A.inherit attrs parent
      | none => attrs
    match refreshChildren attrs children with
    | some children => refreshLogs A ⟨name, attrs, children, logs⟩
    | none => none

/-- The loop over `children_` of `refreshAttributesInheritance`, the directory's new attributes
given. -/
def refreshChildren (attrs : LogAttributes) :
    List (String × DirectoryNode LogAttributes) →
      Option (List (String × DirectoryNode LogAttributes))
  | [] => some []
  | (name, child) :: children =>
    match refreshAttributesInheritance (some attrs) child, refreshChildren attrs children with
    | some child, some children => some ((name, child) :: children)
    | _, _ => none

end

/-- `DirectoryNode::setAttributes` on a copy of the directory: its attributes replaced, then the
inheritance refreshed from its parent's attributes down. -/
def setAttributes (parent_attrs : Option LogAttributes) (dir : DirectoryNode LogAttributes)
    (attrs : LogAttributes) : Option (DirectoryNode LogAttributes) :=
  refreshAttributesInheritance A parent_attrs { dir with attrs }

end DirectoryNode

namespace LogsConfigTree

mutual

/-- `LogsConfigTree::rebuildIndexForDir(dir, true)`, the directory at `path`: each of its log groups
put in the index again by `updateLookupIndex(dir, group, true)`, which erases the old range first,
then the same below each child. -/
def rebuildIndexForDir :
    LogsConfigTree LogAttributes → List String → DirectoryNode LogAttributes →
      LogsConfigTree LogAttributes
  | t, path, ⟨_, _, children, logs⟩ =>
    rebuildIndexForChildren
      (logs.foldl
        (fun t e => ((t.deleteLogGroupFromLookupIndex e.2.range).getD t).updateLookupIndex path e.2)
        t)
      path children

/-- The loop over the children of `rebuildIndexForDir`, the directory at `path`. -/
def rebuildIndexForChildren :
    LogsConfigTree LogAttributes → List String → List (String × DirectoryNode LogAttributes) →
      LogsConfigTree LogAttributes
  | t, _, [] => t
  | t, path, (name, child) :: children =>
    rebuildIndexForChildren (rebuildIndexForDir t (path ++ [name]) child) path children

end

/-- `LogsConfigTree::setAttributes(path, attrs)`, the path as its tokens and `DefaultLogAttributes()`
given. -/
def setAttributes (defaults : LogAttributes) (t : LogsConfigTree LogAttributes)
    (path_tokens : List String) (attrs : LogAttributes) :
    Except E Unit × LogsConfigTree LogAttributes :=
  match t.find path_tokens with
  | none => (.error .NOTFOUND, t)
  | some (.directory path) =>
    match t.root_.dirAt path with
    -- `find` found it
    | none => (.error .NOTFOUND, t)
    | some dir =>
      if path = [] then
        -- the root: `DefaultLogAttributes()` applied to the attributes first
        match dir.setAttributes A none (A.inherit attrs defaults) with
        | some new_dir => (.ok (), rebuildIndexForDir { t with root_ := new_dir } [] new_dir)
        | none => (.error .INVALID_ATTRIBUTES, t)
      else
        match t.root_.dirAt path.dropLast with
        -- the parent of a directory `find` found
        | none => (.error .NOTFOUND, t)
        | some parent =>
          match dir.setAttributes A (some parent.attrs) attrs with
          | some new_dir =>
            -- `dir->parent_->setChild(dir->name(), new_dir)`: under the directory's name
            (.ok (), rebuildIndexForDir
              (t.modifyDir path.dropLast (·.setChild dir.name new_dir))
              (path.dropLast ++ [dir.name]) new_dir)
          | none => (.error .INVALID_ATTRIBUTES, t)
  | some (.logGroup _ lg) => t.replaceLogGroup A path_tokens (lg.withLogAttributes attrs)

/-- `LogsConfigTree::create(delimiter, attrs)`: a root directory with `attrs`, and nothing else. -/
def create (attrs : LogAttributes) : LogsConfigTree LogAttributes :=
  { root_ := ⟨"", attrs, [], []⟩, logs_index_ := [] }

end LogsConfigTree

/-- The calls that change a `LogsConfigTree`, the paths as their tokens. -/
inductive Call (LogAttributes : Type) where
  | addDirectory (path_tokens : List String) (recursive : Bool) (attrs : LogAttributes)
  | addLogGroup (path_tokens : List String) (range : logid_range_t) (log_attrs : LogAttributes)
      (addIntermediateDirectories : Bool)
  | replaceLogGroup (path_tokens : List String) (new_log_group : LogGroupNode LogAttributes)
  | rename (from_tokens to_tokens : List String)
  | setAttributes (path_tokens : List String) (attrs : LogAttributes)
  | deleteLogGroup (path_tokens : List String)
  | deleteDirectory (path_tokens : List String) (recursive : Bool)

namespace LogsConfigTree

/-- The tree after a call, whether the call succeeds or fails; `defaults` is
`DefaultLogAttributes()`. -/
def call (defaults : LogAttributes) (t : LogsConfigTree LogAttributes) :
    Call LogAttributes → LogsConfigTree LogAttributes
  | .addDirectory path_tokens recursive attrs => (t.addDirectory A path_tokens recursive attrs).2
  | .addLogGroup path_tokens range log_attrs addIntermediateDirectories =>
    (t.addLogGroup A path_tokens range log_attrs addIntermediateDirectories).2
  | .replaceLogGroup path_tokens new_log_group => (t.replaceLogGroup A path_tokens new_log_group).2
  | .rename from_tokens to_tokens => (t.rename A from_tokens to_tokens).2
  | .setAttributes path_tokens attrs => (t.setAttributes A defaults path_tokens attrs).2
  | .deleteLogGroup path_tokens => (t.deleteLogGroup path_tokens).2
  | .deleteDirectory path_tokens recursive => (t.deleteDirectory path_tokens recursive).2

/-- The tree after calls, one after another. -/
def run (defaults : LogAttributes) (calls : List (Call LogAttributes))
    (t : LogsConfigTree LogAttributes) : LogsConfigTree LogAttributes :=
  calls.foldl (call A defaults) t

end LogsConfigTree

end LogDevice.LogsConfig
