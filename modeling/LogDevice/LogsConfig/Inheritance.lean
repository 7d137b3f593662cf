import LogDevice.LogsConfig.SetAttributes
import LogDevice.LogsConfig.Attribute
import LogDevice.Lib.OrderedMap

/-!
# Attributes follow their directory's

`LogsConfigTree` keeps inheritance in the nodes (`LogDevice.LogsConfig.SetAttributes`), so that the
attributes of a log group can be read off the group alone. What it keeps is right after any calls,
successful or not: every directory and log group below the root has attributes that merging with
its directory's leaves as they are (`DirectoryNode.WellFormed`), which for `LogAttributes` says that
each inherited field holds the directory's current value and that a field is unset only where the
directory's is (`attributes_inherit_after_calls`).

The invariant also holds what the code's hash maps guarantee and the proof needs: each key once,
and each log group under its own name. Each operation on a directory keeps it (`setChild`,
`setLog`, ...); a change at a path keeps it when it does at the directory there (`modifyAt`); and
refreshing the inheritance below a directory makes it hold there, whatever the directory's new
attributes (`refresh`). The index of log ids plays no part: its operations leave the directories as
they are.

All of it rests on one law: merging twice with one parent is merging once
(`AttributesModel.InheritIdempotent`), which `LogAttributes(attrs, parent)` keeps field by field.
-/

namespace LogDevice.LogsConfig

open LogDevice.Lib

variable {LogAttributes : Type} {A : AttributesModel LogAttributes}

namespace DirectoryNode

/-- The tree below a directory as the code keeps it: the children and the log groups each under one
key, each log group under its name, and each child directory and log group with attributes that
merging with the directory's leaves as they are; the same below each child. -/
inductive WellFormed (A : AttributesModel LogAttributes) : DirectoryNode LogAttributes → Prop
  | mk {dir : DirectoryNode LogAttributes}
      (children_nodup : (dir.children.map Prod.fst).Nodup)
      (logs_nodup : (dir.logs.map Prod.fst).Nodup)
      (logs_named : ∀ e ∈ dir.logs, e.1 = e.2.name)
      (children_inherit : ∀ c ∈ dir.children, A.inherit c.2.attrs dir.attrs = c.2.attrs)
      (logs_inherit : ∀ e ∈ dir.logs, A.inherit e.2.attrs dir.attrs = e.2.attrs)
      (children_wellFormed : ∀ c ∈ dir.children, WellFormed A c.2) :
      WellFormed A dir

/-- `dirAt` one step down: the child the key names, then the rest of the path. -/
lemma dirAt_cons (dir : DirectoryNode LogAttributes) (name : String) (path : List String) :
    dir.dirAt (name :: path) = (dir.children.lookup name).bind (·.dirAt path) := by
  rw [dirAt]
  cases dir.children.lookup name <;> rfl

/-- With each key once, the path through a child is the path below it. -/
lemma dirAt_cons_of_mem {dir : DirectoryNode LogAttributes}
    (hnodup : (dir.children.map Prod.fst).Nodup) {c : String × DirectoryNode LogAttributes}
    (hc : c ∈ dir.children) (path : List String) : dir.dirAt (c.1 :: path) = c.2.dirAt path := by
  rw [dirAt_cons, lookup_of_mem_nodup hnodup hc]
  rfl

/-- `modifyAt` changes the entries of the key it follows, and no other. -/
lemma lookup_map_modify (l : List (String × DirectoryNode LogAttributes)) (name : String)
    (g : DirectoryNode LogAttributes → DirectoryNode LogAttributes) :
    (l.map fun c => if c.1 = name then (c.1, g c.2) else c).lookup name = (l.lookup name).map g := by
  induction l with
  | nil => rfl
  | cons c rest ih =>
    rw [List.map_cons, lookup_cons_eq_ite, lookup_cons_eq_ite]
    by_cases hc : c.1 = name
    · rw [if_pos hc, if_pos hc.symm, if_pos hc.symm, Option.map_some]
    · rw [if_neg hc, if_neg (Ne.symm hc), if_neg (Ne.symm hc), ih]

/-- The directory a change at a path reaches is the changed one. -/
lemma dirAt_modifyAt_self (f : DirectoryNode LogAttributes → DirectoryNode LogAttributes) :
    ∀ (path : List String) {root d : DirectoryNode LogAttributes},
      root.dirAt path = some d → (root.modifyAt f path).dirAt path = some (f d)
  | [], root, d, h => by
    cases h
    rfl
  | name :: path, root, d, h => by
    rw [dirAt_cons, Option.bind_eq_some_iff] at h
    obtain ⟨child, hchild, hd⟩ := h
    rw [modifyAt, dirAt_cons, lookup_map_modify, hchild, Option.map_some]
    exact dirAt_modifyAt_self f path hd

/-- A change at a path that keeps the attributes of the directory it reaches keeps those of the
directory it starts from. -/
lemma attrs_modifyAt {f : DirectoryNode LogAttributes → DirectoryNode LogAttributes}
    {path : List String} {dir : DirectoryNode LogAttributes}
    (hf : ∀ d, dir.dirAt path = some d → (f d).attrs = d.attrs) :
    (dir.modifyAt f path).attrs = dir.attrs := by
  cases path with
  | nil => exact hf dir rfl
  | cons name path => rfl

lemma attrs_replaceChild (dir : DirectoryNode LogAttributes) (name new_name : String) :
    (dir.replaceChild name new_name).2.attrs = dir.attrs := by
  unfold replaceChild
  split <;> rfl

namespace WellFormed

variable {dir : DirectoryNode LogAttributes}

section Fields

variable (h : WellFormed A dir)
include h

lemma children_nodup : (dir.children.map Prod.fst).Nodup := by
  cases h with
  | mk hnodup _ _ _ _ _ => exact hnodup

lemma logs_nodup : (dir.logs.map Prod.fst).Nodup := by
  cases h with
  | mk _ hnodup _ _ _ _ => exact hnodup

lemma logs_named : ∀ e ∈ dir.logs, e.1 = e.2.name := by
  cases h with
  | mk _ _ hnamed _ _ _ => exact hnamed

lemma children_inherit : ∀ c ∈ dir.children, A.inherit c.2.attrs dir.attrs = c.2.attrs := by
  cases h with
  | mk _ _ _ hinherit _ _ => exact hinherit

lemma logs_inherit : ∀ e ∈ dir.logs, A.inherit e.2.attrs dir.attrs = e.2.attrs := by
  cases h with
  | mk _ _ _ _ hinherit _ => exact hinherit

lemma children_wellFormed : ∀ c ∈ dir.children, WellFormed A c.2 := by
  cases h with
  | mk _ _ _ _ _ hchildren => exact hchildren

end Fields

/-! ### Operations on one directory -/

/-- A directory without children or log groups. -/
lemma empty (name : String) (attrs : LogAttributes) : WellFormed A ⟨name, attrs, [], []⟩ :=
  .mk List.nodup_nil List.nodup_nil (fun _ h => by cases h) (fun _ h => by cases h)
    (fun _ h => by cases h) (fun _ h => by cases h)

lemma setName (h : WellFormed A dir) (name : String) : WellFormed A (dir.setName name) :=
  .mk h.children_nodup h.logs_nodup h.logs_named h.children_inherit h.logs_inherit
    h.children_wellFormed

/-- A child that follows the directory, put under a key. -/
lemma setChild (h : WellFormed A dir) (name : String) {child : DirectoryNode LogAttributes}
    (hchild : WellFormed A child) (hinherit : A.inherit child.attrs dir.attrs = child.attrs) :
    WellFormed A (dir.setChild name child) := by
  refine .mk (nodup_keys_setEntry h.children_nodup) h.logs_nodup h.logs_named ?_ h.logs_inherit ?_
  · intro c hc
    rcases mem_setEntry hc with rfl | hc
    · exact hinherit
    · exact h.children_inherit c hc
  · intro c hc
    rcases mem_setEntry hc with rfl | hc
    · exact hchild
    · exact h.children_wellFormed c hc

/-- A log group that follows the directory, put under its name. -/
lemma setLog (h : WellFormed A dir) (group : LogGroupNode LogAttributes)
    (hinherit : A.inherit group.attrs dir.attrs = group.attrs) :
    WellFormed A { dir with logs := setEntry group.name group dir.logs } := by
  refine .mk h.children_nodup (nodup_keys_setEntry h.logs_nodup) ?_ h.children_inherit ?_
    h.children_wellFormed
  · intro e he
    rcases mem_setEntry he with rfl | he
    · rfl
    · exact h.logs_named e he
  · intro e he
    rcases mem_setEntry he with rfl | he
    · exact hinherit
    · exact h.logs_inherit e he

lemma deleteLogGroup (h : WellFormed A dir) (name : String) :
    WellFormed A (dir.deleteLogGroup name) :=
  .mk h.children_nodup (h.logs_nodup.sublist (List.filter_sublist.map _))
    (fun e he => h.logs_named e (List.mem_of_mem_filter he)) h.children_inherit
    (fun e he => h.logs_inherit e (List.mem_of_mem_filter he)) h.children_wellFormed

lemma deleteChild (h : WellFormed A dir) (name : String) : WellFormed A (dir.deleteChild name) :=
  .mk (h.children_nodup.sublist (List.filter_sublist.map _)) h.logs_nodup h.logs_named
    (fun c hc => h.children_inherit c (List.mem_of_mem_filter hc)) h.logs_inherit
    (fun c hc => h.children_wellFormed c (List.mem_of_mem_filter hc))

/-- `replaceChild` moves a child to another key of the same directory. -/
lemma replaceChild (h : WellFormed A dir) (name new_name : String) :
    WellFormed A (dir.replaceChild name new_name).2 := by
  unfold DirectoryNode.replaceChild
  cases hchild : dir.children.lookup name with
  | none => exact h
  | some child =>
    have hmem : (name, child) ∈ dir.children := mem_of_lookup_eq_some hchild
    exact (h.deleteChild name).setChild new_name (h.children_wellFormed _ hmem)
      (h.children_inherit _ hmem)

section Idempotent

variable (hA : A.InheritIdempotent)
include hA

lemma addChild (h : WellFormed A dir) (name : String) (child_attrs : LogAttributes) :
    WellFormed A (dir.addChild A name child_attrs) :=
  h.setChild name (empty name _) (hA child_attrs dir.attrs)

/-- `addLogGroup` on a directory adds a log group whose attributes follow the directory's. -/
lemma addLogGroup (h : WellFormed A dir) {name : String} {range : logid_range_t}
    {log_attrs : LogAttributes} {overwrite : Bool}
    {r : LogGroupNode LogAttributes × DirectoryNode LogAttributes}
    (hadd : dir.addLogGroup A name range log_attrs overwrite = .ok r) :
    WellFormed A r.2 ∧ r.2.attrs = dir.attrs := by
  unfold DirectoryNode.addLogGroup DirectoryNode.addLogGroupPtr at hadd
  dsimp only at hadd
  split_ifs at hadd
  cases hadd
  exact ⟨h.setLog ⟨name, A.inherit log_attrs dir.attrs, range⟩ (hA log_attrs dir.attrs), rfl⟩

end Idempotent

/-! ### Paths -/

/-- Below a well-formed directory, every directory is well formed. -/
lemma dirAt : ∀ {path : List String} {root d : DirectoryNode LogAttributes},
    WellFormed A root → root.dirAt path = some d → WellFormed A d
  | [], _, _, h, hd => by
    cases hd
    exact h
  | name :: path, root, d, h, hd => by
    rw [dirAt_cons, Option.bind_eq_some_iff] at hd
    obtain ⟨child, hchild, hd⟩ := hd
    exact (h.children_wellFormed _ (mem_of_lookup_eq_some hchild)).dirAt hd

/-- A change at a path keeps the tree well formed where it keeps the directory it reaches so, with
its attributes. -/
lemma modifyAt {f : DirectoryNode LogAttributes → DirectoryNode LogAttributes} :
    ∀ {path : List String} {root : DirectoryNode LogAttributes}, WellFormed A root →
      (∀ d, root.dirAt path = some d → (f d).attrs = d.attrs ∧ WellFormed A (f d)) →
      WellFormed A (root.modifyAt f path)
  | [], root, _, hf => (hf root rfl).2
  | name :: path, root, h, hf => by
    -- the entry of `name`, with each key once the only one the change reaches
    have hreach : ∀ c ∈ root.children, c.1 = name →
        ∀ d, c.2.dirAt path = some d → (f d).attrs = d.attrs ∧ WellFormed A (f d) := by
      intro c hc hname d hd
      apply hf d
      rw [← hname, dirAt_cons_of_mem h.children_nodup hc]
      exact hd
    refine .mk ?_ h.logs_nodup h.logs_named ?_ h.logs_inherit ?_
    · show ((root.children.map _).map Prod.fst).Nodup
      rw [List.map_map]
      convert h.children_nodup using 1
      refine List.map_congr_left fun c _ => ?_
      by_cases hname : c.1 = name <;> simp [hname]
    · intro c' hc'
      obtain ⟨c, hc, rfl⟩ := List.mem_map.mp hc'
      by_cases hname : c.1 = name
      · rw [if_pos hname]
        show A.inherit (c.2.modifyAt f path).attrs root.attrs = (c.2.modifyAt f path).attrs
        rw [attrs_modifyAt fun d hd => (hreach c hc hname d hd).1]
        exact h.children_inherit c hc
      · rw [if_neg hname]
        exact h.children_inherit c hc
    · intro c' hc'
      obtain ⟨c, hc, rfl⟩ := List.mem_map.mp hc'
      by_cases hname : c.1 = name
      · rw [if_pos hname]
        exact (h.children_wellFormed c hc).modifyAt (hreach c hc hname)
      · rw [if_neg hname]
        exact h.children_wellFormed c hc

/-- A change that keeps every well-formed directory so, with its attributes, keeps the tree so. -/
lemma modifyAt_of_forall {f : DirectoryNode LogAttributes → DirectoryNode LogAttributes}
    {path : List String} {root : DirectoryNode LogAttributes} (h : WellFormed A root)
    (hf : ∀ d, WellFormed A d → (f d).attrs = d.attrs ∧ WellFormed A (f d)) :
    WellFormed A (root.modifyAt f path) :=
  h.modifyAt fun d hd => hf d (h.dirAt hd)

end WellFormed

/-! ### Refreshing the inheritance -/

/-- The entry the refresh writes for a log group of a directory of attributes `attrs`. -/
def refreshedLog (A : AttributesModel LogAttributes) (attrs : LogAttributes)
    (e : String × LogGroupNode LogAttributes) : String × LogGroupNode LogAttributes :=
  (e.1, e.2.withLogAttributes (A.inherit e.2.attrs attrs))

lemma keys_map_refreshedLog (attrs : LogAttributes) (l : List (String × LogGroupNode LogAttributes)) :
    (l.map (refreshedLog A attrs)).map Prod.fst = l.map Prod.fst := by
  rw [List.map_map]
  rfl

/-- An invalid replacement fails the refresh. -/
lemma refreshLogGroup_eq_none {dir : DirectoryNode LogAttributes}
    {e : String × LogGroupNode LogAttributes}
    (hvalid : (refreshedLog A dir.attrs e).2.isValid A = false) : refreshLogGroup A dir e = none := by
  simp only [refreshedLog] at hvalid
  simp [refreshLogGroup, hvalid]

section Refresh

variable (hA : A.InheritIdempotent)
include hA

/-- One turn of the loop over the log groups replaces the group under its name: `addLogGroup`
merges once more, which changes nothing, and checks the same group again. -/
lemma refreshLogGroup_eq {dir : DirectoryNode LogAttributes} {e : String × LogGroupNode LogAttributes}
    (hvalid : (refreshedLog A dir.attrs e).2.isValid A = true) :
    refreshLogGroup A dir e =
      some { dir with logs := setEntry e.2.name (refreshedLog A dir.attrs e).2 dir.logs } := by
  have hsame : A.inherit (A.inherit e.2.attrs dir.attrs) dir.attrs = A.inherit e.2.attrs dir.attrs :=
    hA e.2.attrs dir.attrs
  simp only [refreshedLog, LogGroupNode.withLogAttributes] at hvalid ⊢
  simp [refreshLogGroup, DirectoryNode.addLogGroup, DirectoryNode.addLogGroupPtr,
    LogGroupNode.withLogAttributes, hsame, hvalid]

/-- The loop over the log groups, from a directory in which those of `P` are replaced already. -/
lemma foldlM_refreshLogGroup (dir : DirectoryNode LogAttributes) :
    ∀ (l P : List (String × LogGroupNode LogAttributes)) {d d' : DirectoryNode LogAttributes},
      d = { dir with logs := P.map (refreshedLog A dir.attrs) ++ l } →
      ((P ++ l).map Prod.fst).Nodup → (∀ e ∈ P ++ l, e.1 = e.2.name) →
      l.foldlM (refreshLogGroup A) d = some d' →
      d' = { dir with logs := (P ++ l).map (refreshedLog A dir.attrs) }
  | [], P, d, d', hd, _, _, h => by
    rw [List.foldlM_nil, Option.pure_def, Option.some.injEq] at h
    rw [← h, hd, List.append_nil, List.append_nil]
  | e :: l, P, d, d', hd, hnodup, hnamed, h => by
    have hattrs : d.attrs = dir.attrs := by rw [hd]
    have he : e.1 = e.2.name := hnamed e (List.mem_append_right P List.mem_cons_self)
    have hfresh : e.1 ∉ (P.map (refreshedLog A dir.attrs)).map Prod.fst := by
      rw [keys_map_refreshedLog]
      intro hmem
      rw [List.map_append, List.map_cons] at hnodup
      exact (List.nodup_append.mp hnodup).2.2 _ hmem _ List.mem_cons_self rfl
    rw [List.foldlM_cons] at h
    cases hvalid : (refreshedLog A d.attrs e).2.isValid A with
    | false =>
      rw [refreshLogGroup_eq_none hvalid] at h
      cases h
    | true =>
      rw [refreshLogGroup_eq hA hvalid] at h
      have hnext : { d with logs := setEntry e.2.name (refreshedLog A d.attrs e).2 d.logs } =
          { dir with logs := (P ++ [e]).map (refreshedLog A dir.attrs) ++ l } := by
        rw [hd] at hattrs ⊢
        rw [hattrs, ← he, List.map_append, List.map_singleton, List.append_assoc,
          List.singleton_append]
        exact congrArg _ (setEntry_append_cons hfresh e.2)
      rw [foldlM_refreshLogGroup dir l (P ++ [e]) hnext (by simpa using hnodup)
        (by simpa using hnamed) h, List.append_assoc, List.singleton_append]

/-- The loop over the log groups of a directory that holds each under its name replaces each by one
whose attributes are merged with the directory's. -/
lemma refreshLogs_eq {dir d' : DirectoryNode LogAttributes} (h : refreshLogs A dir = some d')
    (hnodup : (dir.logs.map Prod.fst).Nodup) (hnamed : ∀ e ∈ dir.logs, e.1 = e.2.name) :
    d' = { dir with logs := dir.logs.map (refreshedLog A dir.attrs) } := by
  -- a directory is not a structure with eta, its nested children being recursive
  have hstart : dir = { dir with
      logs := ([] : List (String × LogGroupNode LogAttributes)).map (refreshedLog A dir.attrs) ++
        dir.logs } := by
    cases dir
    rfl
  rw [refreshLogs] at h
  exact foldlM_refreshLogGroup hA dir dir.logs [] hstart hnodup hnamed h

/-- The children refreshed: each well formed and following the new attributes, under its key. -/
lemma refreshChildren_spec {attrs : LogAttributes} :
    ∀ {children children' : List (String × DirectoryNode LogAttributes)},
      (∀ c ∈ children, ∀ c', refreshAttributesInheritance A (some attrs) c.2 = some c' →
        WellFormed A c' ∧ c'.attrs = A.inherit c.2.attrs attrs) →
      refreshChildren A attrs children = some children' →
      children'.map Prod.fst = children.map Prod.fst ∧
        ∀ c ∈ children', A.inherit c.2.attrs attrs = c.2.attrs ∧ WellFormed A c.2
  | [], children', _, h => by
    cases h
    exact ⟨rfl, fun _ h => by cases h⟩
  | (name, child) :: children, children', hchildren, h => by
    rw [refreshChildren] at h
    cases hchild : refreshAttributesInheritance A (some attrs) child with
    | none => rw [hchild] at h; cases h
    | some child' =>
      cases hrest : refreshChildren A attrs children with
      | none => rw [hchild, hrest] at h; cases h
      | some rest' =>
        rw [hchild, hrest] at h
        cases h
        obtain ⟨hwf, hattrs⟩ := hchildren (name, child) List.mem_cons_self child' hchild
        obtain ⟨hkeys, hrest'⟩ :=
          refreshChildren_spec (fun c hc => hchildren c (List.mem_cons_of_mem _ hc)) hrest
        refine ⟨by rw [List.map_cons, List.map_cons, hkeys], ?_⟩
        intro c hc
        rcases List.mem_cons.mp hc with rfl | hc
        · exact ⟨by rw [hattrs, hA], hwf⟩
        · exact hrest' c hc

/-- The refresh of a directory that holds each child and log group under one key, each log group
under its name, and well-formed children, from its new attributes down. -/
lemma refresh_of_children {attrs : LogAttributes} {dir d' : DirectoryNode LogAttributes}
    {children' : List (String × DirectoryNode LogAttributes)}
    (hchildren_nodup : (dir.children.map Prod.fst).Nodup)
    (hlogs_nodup : (dir.logs.map Prod.fst).Nodup) (hnamed : ∀ e ∈ dir.logs, e.1 = e.2.name)
    (hchildren : ∀ c ∈ dir.children, ∀ c', refreshAttributesInheritance A (some attrs) c.2 = some c' →
      WellFormed A c' ∧ c'.attrs = A.inherit c.2.attrs attrs)
    (hrefresh : refreshChildren A attrs dir.children = some children')
    (h : refreshLogs A ⟨dir.name, attrs, children', dir.logs⟩ = some d') :
    WellFormed A d' ∧ d'.attrs = attrs := by
  obtain ⟨hkeys, hchildren'⟩ := refreshChildren_spec hA hchildren hrefresh
  rw [refreshLogs_eq hA h hlogs_nodup hnamed]
  refine ⟨.mk (by rw [hkeys]; exact hchildren_nodup) ?_ ?_ (fun c hc => (hchildren' c hc).1) ?_
    (fun c hc => (hchildren' c hc).2), rfl⟩
  · show ((dir.logs.map (refreshedLog A attrs)).map Prod.fst).Nodup
    rw [keys_map_refreshedLog]
    exact hlogs_nodup
  · intro e' he'
    obtain ⟨e, he, rfl⟩ := List.mem_map.mp he'
    exact hnamed e he
  · intro e' he'
    obtain ⟨e, he, rfl⟩ := List.mem_map.mp he'
    exact hA e.2.attrs attrs

/-- The refresh below a directory of a parent: its attributes merged with the parent's. -/
lemma refresh_some {parent : LogAttributes} {dir d' : DirectoryNode LogAttributes}
    (h : refreshAttributesInheritance A (some parent) dir = some d')
    (hchildren_nodup : (dir.children.map Prod.fst).Nodup)
    (hlogs_nodup : (dir.logs.map Prod.fst).Nodup) (hnamed : ∀ e ∈ dir.logs, e.1 = e.2.name)
    (hchildren : ∀ c ∈ dir.children, ∀ P c', refreshAttributesInheritance A (some P) c.2 = some c' →
      WellFormed A c' ∧ c'.attrs = A.inherit c.2.attrs P) :
    WellFormed A d' ∧ d'.attrs = A.inherit dir.attrs parent := by
  obtain ⟨name, attrs, children, logs⟩ := dir
  rw [refreshAttributesInheritance] at h
  split at h
  next children' hrefresh =>
    exact refresh_of_children hA hchildren_nodup hlogs_nodup hnamed
      (fun c hc => hchildren c hc _) hrefresh h
  next => cases h

/-- The refresh below the root, whose attributes stay. -/
lemma refresh_none {dir d' : DirectoryNode LogAttributes}
    (h : refreshAttributesInheritance A none dir = some d')
    (hchildren_nodup : (dir.children.map Prod.fst).Nodup)
    (hlogs_nodup : (dir.logs.map Prod.fst).Nodup) (hnamed : ∀ e ∈ dir.logs, e.1 = e.2.name)
    (hchildren : ∀ c ∈ dir.children, ∀ P c', refreshAttributesInheritance A (some P) c.2 = some c' →
      WellFormed A c' ∧ c'.attrs = A.inherit c.2.attrs P) :
    WellFormed A d' ∧ d'.attrs = dir.attrs := by
  obtain ⟨name, attrs, children, logs⟩ := dir
  rw [refreshAttributesInheritance] at h
  split at h
  next children' hrefresh =>
    exact refresh_of_children hA hchildren_nodup hlogs_nodup hnamed
      (fun c hc => hchildren c hc _) hrefresh h
  next => cases h

/-- Refreshing a well-formed directory below a parent keeps it well formed; by induction on the
tree below it. -/
lemma WellFormed.refresh {dir : DirectoryNode LogAttributes} (h : WellFormed A dir) :
    ∀ {P : LogAttributes} {d' : DirectoryNode LogAttributes},
      refreshAttributesInheritance A (some P) dir = some d' →
        WellFormed A d' ∧ d'.attrs = A.inherit dir.attrs P := by
  induction h with
  | mk hchildren_nodup hlogs_nodup hnamed _ _ _ ih =>
    intro P d' hrefresh
    exact refresh_some hA hrefresh hchildren_nodup hlogs_nodup hnamed fun c hc _ _ => ih c hc

/-- `setAttributes` on a copy of a directory below a parent. -/
lemma WellFormed.setAttributes_some {dir d' : DirectoryNode LogAttributes} (h : WellFormed A dir)
    {parent attrs : LogAttributes} (hset : dir.setAttributes A (some parent) attrs = some d') :
    WellFormed A d' ∧ d'.attrs = A.inherit attrs parent :=
  refresh_some hA hset h.children_nodup h.logs_nodup h.logs_named
    fun c hc _ _ => (h.children_wellFormed c hc).refresh hA

/-- `setAttributes` on a copy of the root. -/
lemma WellFormed.setAttributes_none {dir d' : DirectoryNode LogAttributes} (h : WellFormed A dir)
    {attrs : LogAttributes} (hset : dir.setAttributes A none attrs = some d') :
    WellFormed A d' :=
  (refresh_none hA hset h.children_nodup h.logs_nodup h.logs_named
    fun c hc _ _ => (h.children_wellFormed c hc).refresh hA).1

end Refresh

end DirectoryNode

namespace LogsConfigTree

open DirectoryNode

/-! ### The index leaves the directories as they are -/

lemma root_of_deleteLogGroupFromLookupIndex {t t₁ : LogsConfigTree LogAttributes}
    {range : logid_range_t} (h : t.deleteLogGroupFromLookupIndex range = some t₁) :
    t₁.root_ = t.root_ := by
  unfold deleteLogGroupFromLookupIndex at h
  split at h
  · cases h
    rfl
  · cases h

lemma root_getD_deleteLogGroupFromLookupIndex (t : LogsConfigTree LogAttributes)
    (range : logid_range_t) : ((t.deleteLogGroupFromLookupIndex range).getD t).root_ = t.root_ := by
  cases h : t.deleteLogGroupFromLookupIndex range with
  | none => rfl
  | some t₁ => exact root_of_deleteLogGroupFromLookupIndex h

lemma root_deleteDirectoryFromLookupIndex (t : LogsConfigTree LogAttributes)
    (dir : DirectoryNode LogAttributes) : (t.deleteDirectoryFromLookupIndex dir).root_ = t.root_ := by
  unfold deleteDirectoryFromLookupIndex
  generalize dir.logRanges = ranges
  induction ranges generalizing t with
  | nil => rfl
  | cons range ranges ih =>
    rw [List.foldl_cons, ih, root_getD_deleteLogGroupFromLookupIndex]

/-- Putting log groups in the index again leaves the directories as they are. -/
lemma root_foldl_updateLookupIndex (path : List String) :
    ∀ (logs : List (String × LogGroupNode LogAttributes)) (t : LogsConfigTree LogAttributes),
      (logs.foldl (fun t e =>
        ((t.deleteLogGroupFromLookupIndex e.2.range).getD t).updateLookupIndex path e.2) t).root_ =
        t.root_
  | [], _ => rfl
  | e :: logs, t => by
    rw [List.foldl_cons, root_foldl_updateLookupIndex path logs]
    exact root_getD_deleteLogGroupFromLookupIndex t e.2.range

mutual

lemma root_rebuildIndexForDir :
    ∀ (t : LogsConfigTree LogAttributes) (path : List String) (dir : DirectoryNode LogAttributes),
      (rebuildIndexForDir t path dir).root_ = t.root_
  | t, path, ⟨_, _, children, logs⟩ => by
    rw [rebuildIndexForDir, root_rebuildIndexForChildren, root_foldl_updateLookupIndex]

lemma root_rebuildIndexForChildren :
    ∀ (t : LogsConfigTree LogAttributes) (path : List String)
      (children : List (String × DirectoryNode LogAttributes)),
      (rebuildIndexForChildren t path children).root_ = t.root_
  | t, _, [] => by rw [rebuildIndexForChildren]
  | t, path, (name, child) :: children => by
    rw [rebuildIndexForChildren, root_rebuildIndexForChildren, root_rebuildIndexForDir]

end

/-! ### Each call keeps the tree well formed -/

section Calls

variable (hA : A.InheritIdempotent) {t : LogsConfigTree LogAttributes}
include hA

lemma wellFormed_addDirectories (attrs : LogAttributes) :
    ∀ (current tokens : List String) {root : DirectoryNode LogAttributes}, WellFormed A root →
      WellFormed A (addDirectories A attrs current tokens root).1
  | _, [], _, h => h
  | current, token :: tokens, root, h => by
    rw [addDirectories]
    exact wellFormed_addDirectories attrs (current ++ [token]) tokens
      (h.modifyAt_of_forall fun d hd => ⟨rfl, hd.addChild hA token _⟩)

lemma wellFormed_addDirectory (h : WellFormed A t.root_) (path_tokens : List String)
    (recursive : Bool) (attrs : LogAttributes) :
    WellFormed A (t.addDirectory A path_tokens recursive attrs).2.root_ := by
  unfold addDirectory
  rcases hfound : t.partialFindDirectory [] path_tokens with ⟨found, remaining_tokens⟩
  dsimp only
  split_ifs
  · exact h
  · exact h
  · exact wellFormed_addDirectories hA attrs found remaining_tokens h

lemma wellFormed_addLogGroupNode (h : WellFormed A t.root_) (parent : List String)
    (log_group : LogGroupNode LogAttributes) :
    WellFormed A (t.addLogGroupNode A parent log_group).2.root_ := by
  unfold addLogGroupNode
  rcases hdir : t.root_.dirAt parent with _ | dir
  · exact h
  · dsimp only
    split_ifs
    · exact h
    · exact h
    · exact h
    · split
      next lg dir' hadd =>
        obtain ⟨hwf, hattrs⟩ := (h.dirAt hdir).addLogGroup hA hadd
        refine h.modifyAt fun d hd => ?_
        rw [hdir] at hd
        cases hd
        exact ⟨hattrs, hwf⟩
      next => exact h

lemma wellFormed_addLogGroupIn (h : WellFormed A t.root_) (parent : List String)
    (name_tokens : List String) (range : logid_range_t) (log_attrs : LogAttributes)
    (addIntermediateDirectories : Bool) :
    WellFormed A
      (t.addLogGroupIn A parent name_tokens range log_attrs addIntermediateDirectories).2.root_ := by
  match name_tokens with
  | [] => exact h
  | [target_name] => exact wellFormed_addLogGroupNode hA h parent _
  | n₁ :: n₂ :: ns =>
    -- a path: where it leads decides the case
    rcases hfound : t.partialFindDirectory parent (n₁ :: n₂ :: ns) with
      ⟨found, _ | ⟨target_name, _ | ⟨r, rs⟩⟩⟩
    · simp only [addLogGroupIn, hfound]
      exact h
    · simp only [addLogGroupIn, hfound]
      exact wellFormed_addLogGroupNode hA h found _
    · simp only [addLogGroupIn, hfound]
      split_ifs
      · exact h
      · -- the missing directories first, then the log group in the last of them
        have hdirs := wellFormed_addDirectory hA h
          (found ++ (target_name :: r :: rs).dropLast) true A.none
        split
        next dir t' hadd =>
          rw [hadd] at hdirs
          exact wellFormed_addLogGroupNode hA hdirs dir _
        next e t' hadd =>
          rw [hadd] at hdirs
          exact hdirs

lemma wellFormed_replaceLogGroup (h : WellFormed A t.root_) (path_tokens : List String)
    (new_log_group : LogGroupNode LogAttributes) :
    WellFormed A (t.replaceLogGroup A path_tokens new_log_group).2.root_ := by
  unfold replaceLogGroup
  split_ifs
  · exact h
  · split
    next parent group_name hfound =>
      split
      · exact h
      next old_node hold =>
        split
        · exact h
        next t₁ hdel =>
          obtain ⟨dir, hdir, hlookup⟩ := Option.bind_eq_some_iff.mp hold
          have hroot₁ : t₁.root_ = t.root_ := root_of_deleteLogGroupFromLookupIndex hdel
          have hwf₁ : WellFormed A t₁.root_ := hroot₁ ▸ h
          have hdir₁ : t₁.root_.dirAt parent = some dir := hroot₁ ▸ hdir
          -- the tree without the old log group
          have hwf' : WellFormed A (t₁.modifyDir parent (·.deleteLogGroup group_name)).root_ :=
            hwf₁.modifyAt_of_forall fun d hd => ⟨rfl, hd.deleteLogGroup group_name⟩
          split_ifs
          · exact hwf₁
          · split
            next t₂ hadd =>
              have hwf₂ := wellFormed_addLogGroupNode hA hwf' parent new_log_group
              rw [hadd] at hwf₂
              exact hwf₂
            next e t₂ hadd =>
              -- the new group rejected: the old one back in its directory
              have herr : ((t₁.modifyDir parent (·.deleteLogGroup group_name)).addLogGroupNode A
                  parent new_log_group).1 = .error e := by
                rw [hadd]
              have ht₂ := addLogGroupNode_error_eq A _ parent new_log_group herr
              rw [hadd] at ht₂
              subst ht₂
              have hmem : (group_name, old_node) ∈ dir.logs := mem_of_lookup_eq_some hlookup
              refine hwf'.modifyAt fun d hd => ?_
              rw [show (t₁.modifyDir parent (·.deleteLogGroup group_name)).root_ =
                t₁.root_.modifyAt (·.deleteLogGroup group_name) parent from rfl,
                dirAt_modifyAt_self _ parent hdir₁] at hd
              cases hd
              exact ⟨rfl, ((hwf₁.dirAt hdir₁).deleteLogGroup group_name).setLog old_node
                ((hwf₁.dirAt hdir₁).logs_inherit _ hmem)⟩
    next => exact h

lemma wellFormed_rename (h : WellFormed A t.root_) (from_tokens to_tokens : List String) :
    WellFormed A (t.rename A from_tokens to_tokens).2.root_ := by
  unfold rename
  split_ifs
  · exact h
  · exact h
  · exact h
  · exact h
  · exact h
  · split
    · exact h
    · -- a directory: its new name, and the key moved in the destination's parent
      dsimp only
      split
      · refine WellFormed.modifyAt_of_forall ?_ fun d hd =>
          ⟨attrs_replaceChild d _ _, hd.replaceChild _ _⟩
        exact h.modifyAt_of_forall fun d hd => ⟨rfl, hd.setName _⟩
      · exact h
    · exact wellFormed_replaceLogGroup hA h _ _

lemma wellFormed_setAttributes (h : WellFormed A t.root_) (defaults : LogAttributes)
    (path_tokens : List String) (attrs : LogAttributes) :
    WellFormed A (t.setAttributes A defaults path_tokens attrs).2.root_ := by
  unfold setAttributes
  split
  · exact h
  · split
    · exact h
    next dir hdir =>
      split_ifs
      · -- the root: its copy takes its place
        split
        next new_dir hset =>
          rw [root_rebuildIndexForDir]
          exact (h.dirAt hdir).setAttributes_none hA hset
        next => exact h
      · split
        · exact h
        next parent hparent =>
          split
          next new_dir hset =>
            -- the copy of the directory, under its name in its parent
            obtain ⟨hwf, hattrs⟩ := (h.dirAt hdir).setAttributes_some hA hset
            rw [root_rebuildIndexForDir]
            refine h.modifyAt fun d hd => ?_
            rw [hparent] at hd
            cases hd
            exact ⟨rfl, (h.dirAt hparent).setChild _ hwf (by rw [hattrs]; exact hA attrs _)⟩
          next => exact h
  · exact wellFormed_replaceLogGroup hA h _ _

omit hA in
lemma wellFormed_deleteLogGroup (h : WellFormed A t.root_) (path_tokens : List String) :
    WellFormed A (t.deleteLogGroup path_tokens).2.root_ := by
  unfold deleteLogGroup
  split
  · exact h
  next parent node _ =>
    show WellFormed A (((t.deleteLogGroupFromLookupIndex node.range).getD t).root_.modifyAt _ parent)
    rw [root_getD_deleteLogGroupFromLookupIndex]
    exact h.modifyAt_of_forall fun d hd => ⟨rfl, hd.deleteLogGroup _⟩

omit hA in
lemma wellFormed_deleteDirectory (h : WellFormed A t.root_) (path_tokens : List String)
    (recursive : Bool) : WellFormed A (t.deleteDirectory path_tokens recursive).2.root_ := by
  unfold deleteDirectory
  split
  · exact h
  · exact h
  · split
    · exact h
    next dir _ =>
      split_ifs
      · exact h
      · show WellFormed A ((t.deleteDirectoryFromLookupIndex dir).root_.modifyAt _ _)
        rw [root_deleteDirectoryFromLookupIndex]
        exact h.modifyAt_of_forall fun d hd => ⟨rfl, hd.deleteChild _⟩

/-- Every call keeps the tree well formed, whether it succeeds or fails. -/
lemma wellFormed_call (defaults : LogAttributes) (h : WellFormed A t.root_) :
    ∀ c : Call LogAttributes, WellFormed A (t.call A defaults c).root_
  | .addDirectory path_tokens recursive attrs =>
    wellFormed_addDirectory hA h path_tokens recursive attrs
  | .addLogGroup path_tokens range log_attrs addIntermediateDirectories =>
    wellFormed_addLogGroupIn hA h [] path_tokens range log_attrs addIntermediateDirectories
  | .replaceLogGroup path_tokens new_log_group =>
    wellFormed_replaceLogGroup hA h path_tokens new_log_group
  | .rename from_tokens to_tokens => wellFormed_rename hA h from_tokens to_tokens
  | .setAttributes path_tokens attrs => wellFormed_setAttributes hA h defaults path_tokens attrs
  | .deleteLogGroup path_tokens => wellFormed_deleteLogGroup h path_tokens
  | .deleteDirectory path_tokens recursive => wellFormed_deleteDirectory h path_tokens recursive

/-- Calls one after another keep the tree well formed; by induction on the calls. -/
lemma wellFormed_run (defaults : LogAttributes) :
    ∀ (calls : List (Call LogAttributes)) {t : LogsConfigTree LogAttributes},
      WellFormed A t.root_ → WellFormed A (t.run A defaults calls).root_
  | [], _, h => h
  | c :: calls, _, h => wellFormed_run defaults calls (wellFormed_call hA defaults h c)

end Calls

lemma wellFormed_create (attrs : LogAttributes) : WellFormed A (create attrs).root_ :=
  WellFormed.empty "" attrs

/-- After any calls on a new tree, successful or not, every directory and log group below the root
has attributes that follow its directory's: each inherited field holds the directory's current
value, and a field is unset only where the directory's is. -/
theorem attributes_inherit_after_calls {Field : Type} {T : Field → Type}
    (valid : LogDevice.LogsConfig.LogAttributes Field T → Bool)
    (defaults attrs : LogDevice.LogsConfig.LogAttributes Field T)
    (calls : List (Call (LogDevice.LogsConfig.LogAttributes Field T))) (path : List String)
    (dir : DirectoryNode (LogDevice.LogsConfig.LogAttributes Field T))
    (hdir : ((create attrs).run (logAttributesModel valid) defaults calls).root_.dirAt path =
      some dir) :
    (∀ c ∈ dir.children, c.2.attrs.InheritsFrom dir.attrs) ∧
      ∀ e ∈ dir.logs, e.2.attrs.InheritsFrom dir.attrs := by
  have hwf := (wellFormed_run (logAttributesModel_inheritIdempotent valid) defaults calls
    (wellFormed_create attrs)).dirAt hdir
  refine ⟨fun c hc => ?_, fun e he => ?_⟩
  · exact (LogDevice.LogsConfig.LogAttributes.withParent_eq_self_iff _ _).mp
      (hwf.children_inherit c hc)
  · exact (LogDevice.LogsConfig.LogAttributes.withParent_eq_self_iff _ _).mp
      (hwf.logs_inherit e he)

/-- On a new tree, `addDirectory("/a")` and then `setAttributes("/", ...)` leave the root holding
`/a`, which inherits the root's new value. -/
theorem attributes_inherit_after_root_setAttributes :
    let dir : DirectoryNode (LogDevice.LogsConfig.LogAttributes Unit fun _ => Nat) :=
      ⟨"", fun _ => .set 2 false, [("a", ⟨"a", fun _ => .set 2 true, [], []⟩)], []⟩
    ((create fun _ => .set 1 false).run (logAttributesModel fun _ => true) (fun _ => .set 1 false)
        [.addDirectory ["a"] false fun _ => .unset,
          .setAttributes [] fun _ => .set 2 false]).root_.dirAt [] = some dir ∧
      (∀ c ∈ dir.children, c.2.attrs.InheritsFrom dir.attrs) ∧
        ∀ e ∈ dir.logs, e.2.attrs.InheritsFrom dir.attrs := by
  intro dir
  have hdir : ((create fun _ => .set 1 false).run (logAttributesModel fun _ => true)
      (fun _ => .set 1 false) [.addDirectory ["a"] false fun _ => .unset,
        .setAttributes [] fun _ => .set 2 false]).root_.dirAt [] = some dir := rfl
  exact ⟨hdir, attributes_inherit_after_calls _ _ _ _ _ dir hdir⟩

end LogsConfigTree

end LogDevice.LogsConfig
